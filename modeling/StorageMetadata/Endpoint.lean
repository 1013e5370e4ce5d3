import StorageMetadata.Text.Percent
import StorageMetadata.Value.Shown

/-!
# Where the service is

An endpoint is the address of the service and the project to use.  The environment may name both;
an address without a scheme is taken for one of `http`, and slashes at its end are dropped.  The
address of a bucket, and that of an object, follow from it:

    HOST/storage/v1/b/BUCKET   and   HOST/storage/v1/b/BUCKET/o/NAME,

with the names percent-encoded, so that a slash in a name separates nothing.  The names have to be
texts; the address of the service is whatever it is shown as.
-/

namespace StorageMetadata

/-- The address of the service unless another is given. -/
def Endpoint.defaultHost : String := "https://storage.googleapis.com"

/-- The address of the service and the project to use. -/
structure Endpoint where
  host : Value := .text Endpoint.defaultHost
  project : Value := .null

namespace Endpoint

/-- The variable that names the address of the service. -/
def hostVariable : String := "STORAGE_EMULATOR_HOST"

/-- The variable that names the project. -/
def projectVariable : String := "GOOGLE_CLOUD_PROJECT"

/-- Does the text hold a colon and two slashes, as they follow a scheme? -/
def hasSchemeMark : List Char → Bool
  | ':' :: '/' :: '/' :: _ => true
  | _ :: rest => hasSchemeMark rest
  | [] => false

/-- The address with a scheme put before it if it has none. -/
def withScheme (cs : List Char) : List Char :=
  if hasSchemeMark cs then cs else "http://".toList ++ cs

/-- The text without the slashes at its end. -/
def dropLastSlashes (cs : List Char) : List Char := (cs.reverse.dropWhile (· = '/')).reverse

/-- The address in the form in which it is kept. -/
def normalizeHost (s : String) : String := String.ofList (dropLastSlashes (withScheme s.toList))

/-- The value of a variable; an empty one is taken for a missing one. -/
def variableValue? (environment : String → Option String) (name : String) : Option String :=
  (environment name).filter (· ≠ "")

/-- The endpoint that an environment names. -/
def ofEnvironment (environment : String → Option String) : Endpoint where
  host := .text (normalizeHost ((variableValue? environment hostVariable).getD defaultHost))
  project := match variableValue? environment projectVariable with
    | some project => .text project
    | none => .null

/-- A name as a part of an address; it has to be a text. -/
def part : Value → Result String
  | .text s => .ok (Text.percentEncode s)
  | _ => fault .mistyped

/-- The address of a bucket. -/
def bucketUrl (e : Endpoint) (bucket : Value) : Result String := do
  return (← e.host.shown) ++ "/storage/v1/b/" ++ (← part bucket)

/-- The address of an object. -/
def objectUrl (e : Endpoint) (bucket name : Value) : Result String := do
  return (← e.bucketUrl bucket) ++ "/o/" ++ (← part name)

/-- The literal of an endpoint. -/
def literal (e : Endpoint) : String :=
  "StorageOptions(host=" ++ e.host.literal ++ ", project_id=" ++ e.project.literal ++ ")"

end Endpoint

end StorageMetadata
