import StorageMetadata.Value.Text

/-!
# Failures in words

The wording of every failure is in `Failure.message` and `Failure.hint?`; a stray failure has no
message.  What a failure was due to is its `cause?`, and callers may tell failures apart by their
`categories`.  A `Result` is a value or the failure to find one.
-/

namespace StorageMetadata

/-- The words of the system for a file that cannot be read. -/
def Fault.fileMessage : Fault → String
  | .missingFile => "No such file or directory"
  | .isDirectory => "Is a directory"
  | .notDirectory => "Not a directory"
  | .nameTooLong => "File name too long"
  | _ => "Input/output error"

/-- The reason in words. -/
def OriginProblem.message : OriginProblem Value → String
  | .scheme s => "Illegal character in scheme name: " ++ Text.quoted s
  | .host h => "Illegal character in host name: " ++ Text.quoted h
  | .port p => "Port out of range 0-65535: " ++ p.display
  | .bracketedIpv4 => "An IPv4 address cannot be in brackets"
  | .notAnAddress inside => Text.quoted inside ++ " does not appear to be an IPv4 or IPv6 address"
  | .noAuthority address => "Expected an authority component in " ++ Text.quoted address
  | .mistyped => ""
  | .stated message => message

namespace Failure

/-- The failure in words. -/
def message : Failure Value → String
  | .general message => message.display
  | .missingField field => "'" ++ field.display ++ "' must not be None"
  | .wireFormat problem field value _ => match problem with
    | .integer => "Invalid integer in '" ++ field.display ++ "': " ++ value.literal
    | .timestamp => "Invalid timestamp in '" ++ field.display ++ "': " ++ value.literal
    | .timestampRange => "Timestamp out of range in '" ++ field.display ++ "': " ++ value.literal
    | .stated message => message.display
  | .unknownMethod name _ => "Unknown HTTP method: " ++ name.literal
  | .unknownRole name _ => "Unknown ACL role: " ++ name.literal
  | .invalidOrigin scheme host port problem =>
    "Cannot build origin from scheme=" ++ scheme.literal ++ ", host=" ++ host.literal ++
      ", port=" ++ port.display ++ match problem with
        | none => ""
        | some p => ": " ++ p.message
  | .load problem path _ => match problem with
    | .unreadable fault => "Cannot read " ++ path.write ++ ": " ++ fault.fileMessage
    | .notADocument p => "Invalid JSON in " ++ path.name ++ ": " ++ p.message
    | .notAMap kind => "Expected a JSON object in " ++ path.name ++ ", got " ++ kind
    | .stated message => message.display
  | .stray _ => ""

/-- What to do about the failure. -/
def hint? : Failure Value → Option String
  | .general _ => none
  | .missingField field => some ("Provide a value for '" ++ field.display ++ "'")
  | .wireFormat _ field _ _ => some ("Check the '" ++ field.display ++ "' field of the resource")
  | .unknownMethod _ _ => some ("Valid methods: " ++ ", ".intercalate (Method.all.map Method.name))
  | .unknownRole _ _ => some ("Valid roles: " ++ ", ".intercalate (Role.all.map Role.name))
  | .invalidOrigin .. =>
    some "Origins look like scheme://host[:port], e.g. https://example.com:8080"
  | .load _ path line => match line with
    | none | some 0 => some ("Check that " ++ path.name ++ " exists and holds a JSON object")
    | some n => some ("Check " ++ path.name ++ " at line " ++ Decimal.write n)
  | .stray _ => none

/-- The fault that a failure is due to. -/
def cause? : Failure Value → Option Fault
  | .wireFormat _ _ _ cause => cause
  | .unknownMethod _ cause => cause
  | .unknownRole _ cause => cause
  | .invalidOrigin _ _ _ problem => problem.map fun
    | .mistyped => .mistyped
    | _ => .malformed
  | .load problem _ _ => match problem with
    | .unreadable fault => some fault
    | .notADocument _ => some .notADocument
    | _ => none
  | _ => none

/-- The field of a resource that a failure is about. -/
def field? : Failure Value → Option Value
  | .missingField field => some field
  | .wireFormat _ field _ _ => some field
  | .unknownMethod .. => some "method"
  | .unknownRole .. => some "role"
  | _ => none

/-- Is the failure one that the library accounts for? -/
def isAccountedFor : Failure Value → Bool
  | .stray _ => false
  | _ => true

/-- Can the failure be put into words?  The values that its words display have to be showable. -/
def isShowable : Failure Value → Bool
  | .general message => message.isShowable
  | .missingField field => field.isShowable
  | .wireFormat problem field _ _ => field.isShowable && match problem with
    | .stated message => message.isShowable
    | _ => true
  | .invalidOrigin _ _ port _ => port.isShowable
  | .load problem _ _ => match problem with
    | .stated message => message.isShowable
    | _ => true
  | .unknownMethod .. | .unknownRole .. | .stray _ => true

/-- A failure that cannot be put into words gives way to the fault that one of its values is of the
wrong kind. -/
def inWords (f : Failure Value) : Failure Value := if f.isShowable then f else .stray .mistyped

/-- The kinds of failure that callers may tell apart. -/
inductive Category where
  | any
  | wireFormat
  | badValue
  | lookup
  deriving DecidableEq, Repr

/-- The categories of a failure, the widest first. -/
def categories : Failure Value → List Category
  | .general _ | .load .. => [.any]
  | .missingField _ | .invalidOrigin .. => [.any, .badValue]
  | .wireFormat .. => [.any, .wireFormat, .badValue]
  | .unknownMethod .. | .unknownRole .. => [.any, .wireFormat, .badValue, .lookup]
  | .stray _ => []

end Failure

/-- A computation that may fail. -/
abbrev Result := Except (Failure Value)

/-- Fails with a fault of its own. -/
def fault {α : Type} (f : Fault) : Result α := .error (.stray f)

end StorageMetadata
