import StorageMetadata.CrossOrigin.Address
import StorageMetadata.Failure.Basic

/-!
# The authority of an address

An address is read from the left: a scheme up to its colon, two slashes, and the authority, which
ends before a slash, a question mark or a number sign.  The name of the host is in the authority
behind the last at sign, either in brackets or up to a colon.  An address need not have any of
these.  Brackets come in pairs, and what they hold is an address of the sixth version or of one
yet to come.
-/

namespace StorageMetadata.Origin

open StorageMetadata.Address

/-- Is `c` a letter of ASCII? -/
def isLetter (c : Char) : Bool := ('A' ≤ c && c ≤ 'Z') || ('a' ≤ c && c ≤ 'z')

/-- Is `c` a letter or a digit of ASCII? -/
def isLetterOrDigit (c : Char) : Bool := isLetter c || ('0' ≤ c && c ≤ '9')

/-- Is the text a scheme? -/
def isScheme : List Char → Bool
  | [] => false
  | c :: rest => isLetter c && rest.all fun x => isLetterOrDigit x || "+.-".toList.contains x

/-- The address as it is read: without blanks and control characters at its front, and without
tabs and ends of lines. -/
def tidied (cs : List Char) : List Char :=
  (cs.dropWhile (· ≤ ' ')).filter fun c => !"\t\r\n".toList.contains c

/-- What stands before the first `sep`. -/
def before (sep : Char) (cs : List Char) : List Char := cs.takeWhile (· ≠ sep)

/-- What stands behind the first `sep`, if there is one. -/
def behind? (sep : Char) (cs : List Char) : Option (List Char) :=
  match cs.dropWhile (· ≠ sep) with
  | [] => none
  | _ :: rest => some rest

/-- What is left of an address when a scheme at its front and the colon are taken off. -/
def withoutScheme (cs : List Char) : List Char :=
  match behind? ':' cs with
  | some rest => if isScheme (before ':' cs) then rest else cs
  | none => cs

/-- The authority of an address; it is empty if there is none. -/
def authority (cs : List Char) : List Char :=
  match withoutScheme (tidied cs) with
  | '/' :: '/' :: rest => rest.takeWhile fun c => !"/?#".toList.contains c
  | _ => []

/-- Is the text the letter v, a version in hexadecimal digits, a point and more? -/
def isFuture (cs : List Char) : Bool :=
  match cs with
  | 'v' :: rest =>
    !(before '.' rest).isEmpty && (before '.' rest).all isHex &&
      (behind? '.' rest).any (!·.isEmpty)
  | _ => false

/-- Is the text an address of the sixth version, perhaps with a zone behind a percent sign? -/
def isZonedV6 (cs : List Char) : Bool :=
  match behind? '%' cs with
  | none => isV6 cs
  | some zone => isV6 (before '%' cs) && !zone.isEmpty && !zone.contains '%'

/-- What brackets hold has to be an address. -/
def checkBracketed {α : Type} (inside : List Char) : Except (OriginProblem α) Unit :=
  if inside.head? = some 'v' then
    if isFuture inside then .ok () else .error (.stated "IPvFuture address is invalid")
  else if isV4 inside then .error .bracketedIpv4
  else if isZonedV6 inside then .ok ()
  else .error (.notAnAddress (String.ofList inside))

/-- Brackets in an authority come in pairs, and the first of them hold an address. -/
def checkBrackets {α : Type} (authority : List Char) : Except (OriginProblem α) Unit :=
  match behind? '[' authority, authority.contains ']' with
  | none, false => .ok ()
  | some bracketed, true => checkBracketed (before ']' bracketed)
  | _, _ => .error (.stated "Invalid IPv6 URL")

/-- What stands behind the last `sep`; all of the text if there is none. -/
def behindLast (sep : Char) (cs : List Char) : List Char :=
  (cs.reverse.takeWhile (· ≠ sep)).reverse

/-- The name of the host in an authority, as it is written. -/
def hostName (authority : List Char) : List Char :=
  let host := behindLast '@' authority
  match behind? '[' host with
  | some bracketed => before ']' bracketed
  | none => before ':' host

/-- The name of the host in an address, if it has one.  An authority with characters beyond ASCII
is not looked into any further. -/
def hostName? {α : Type} (address : List Char) : Except (OriginProblem α) (Option (List Char)) := do
  let authority := authority address
  checkBrackets authority
  let host := hostName authority
  return if host.isEmpty then none else some host

end StorageMetadata.Origin
