import StorageMetadata.CrossOrigin.Authority
import StorageMetadata.CrossOrigin.Resource
import StorageMetadata.Value.Equality

/-!
# Origins from parts

An origin is composed of a scheme, a host and, unless it is minus one, a port:

    SCHEME://HOST   or   SCHEME://HOST:PORT.

The scheme is a letter and then letters, digits, plus signs, points and dashes.  The host is a
name, or a numeric address of the sixth version in brackets, which are put around it if it has a
colon and no bracket at its front.  The port is at most 65535.  What is wrong first, in this
order, is what the failure tells.  At last the origin is read again as an address, and this is where
it is found out whether brackets hold one of the sixth version.
-/

namespace StorageMetadata.Origin

open StorageMetadata.Address

/-- May `c` stand in a host that is a name? -/
def isHostChar (c : Char) : Bool := isLetterOrDigit c || "-._~%!$&'()*+,;=".toList.contains c

/-- What stands between a bracket at the front and one at the end. -/
def insideBrackets? : List Char → Option (List Char)
  | '[' :: rest => if rest.getLast? = some ']' then some rest.dropLast else none
  | _ => none

/-- Has the text the characters of a host?  In brackets only hexadecimal digits, colons and points
are allowed. -/
def isHost (cs : List Char) : Bool :=
  match insideBrackets? cs with
  | some inside => !inside.isEmpty && inside.all fun c => isHex c || c = ':' || c = '.'
  | none => !cs.isEmpty && cs.all isHostChar

/-- The host with brackets put around a bare address that has colons. -/
def bracketed (cs : List Char) : List Char :=
  if cs.contains ':' && cs.head? ≠ some '[' then '[' :: cs ++ [']'] else cs

/-- The scheme, if it is one. -/
def checkScheme : Value → Except (OriginProblem Value) String
  | .text s => if isScheme s.toList then .ok s else .error (.scheme s)
  | _ => .error .mistyped

/-- The host in its brackets, if it has the characters of one. -/
def checkHost : Value → Except (OriginProblem Value) String
  | .text s =>
    let host := bracketed s.toList
    if isHost host then .ok (String.ofList host) else .error (.host (String.ofList host))
  | _ => .error .mistyped

/-- The text of a port; minus one means that there is none. -/
def checkPort (port : Value) : Except (OriginProblem Value) (Option String) :=
  match port with
  | .float x =>
    if x.toInt? = some (-1) then .ok none
    else if x.isBetween 0 65535 then .ok (some port.display)
    else .error (.port port)
  | _ => match port.toInt? with
    | none => .error .mistyped
    | some n =>
      if n = -1 then .ok none
      else if 0 ≤ n ∧ n ≤ 65535 then .ok (some port.display)
      else .error (.port port)

/-- The origin, if it names a host when it is read as an address. -/
def reread (origin : String) : Except (OriginProblem Value) String := do
  match ← hostName? origin.toList with
  | none => .error (.noAuthority origin)
  | some _ => return origin

/-- The text of the origin with the given parts. -/
def compose (scheme host port : Value) : Except (OriginProblem Value) String := do
  let scheme ← checkScheme scheme
  let host ← checkHost host
  let port ← checkPort port
  reread (scheme ++ "://" ++ host ++ match port with
    | none => ""
    | some digits => ":" ++ digits)

/-- Is the value a list or a map that holds a colon, and so is asked for its front like a text? -/
def isColonHolder : Value → Bool
  | .list items => items.any fun v => v.text? = some ":"
  | v => v.hasField ":"

/-- Is the value an integer with too many digits to be written into a text? -/
def isOverlong : Value → Bool
  | .int n => Decimal.maxDigits < (Decimal.digits n.natAbs).length
  | _ => false

/-- The origin with the given parts.  The failure tells all of them, and so cannot be put into words
if the port is overlong. -/
def ofParts (scheme host port : Value) : Result (Origin Value) :=
  match compose scheme host port with
  | .ok s => Origin.of (.text s)
  | .error problem =>
    if isColonHolder host && (checkScheme scheme).isOk then fault .unsupported
    else if isOverlong port then fault .malformed
    else .error (Failure.invalidOrigin scheme host port (some problem)).inWords

end StorageMetadata.Origin
