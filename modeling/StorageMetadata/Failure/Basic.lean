import StorageMetadata.Json.Problem
import StorageMetadata.Source.Path

/-!
# Causes of failure

Everything that can go wrong has a cause here.  A `Fault` is trouble below the level of resources: a
text that cannot be read, a value of the wrong kind, a file that is not there.  A `Failure` tells
what could not be done and what it was about; it may be due to a fault, and a fault on its own is a
`stray` failure.  The values that a failure is about are of a type `α`, since a value may in turn
remember how writing it failed.
-/

namespace StorageMetadata

/-- Trouble below the level of resources. -/
inductive Fault where
  /-- A text or a number has no meaning of the kind that is asked for. -/
  | malformed
  /-- A value is of the wrong kind. -/
  | mistyped
  /-- A number is too large. -/
  | outOfRange
  /-- A value lacks the part that is asked for. -/
  | unsupported
  /-- No constant has the name. -/
  | unknownName
  /-- Octets are not the encoding of a text. -/
  | undecodable
  /-- A text is not a document. -/
  | notADocument
  /-- A document has too many values within values. -/
  | tooDeep
  /-- A text of a document has half of a pair of code units on its own.  No text here can, so what
  would come of it is left open. -/
  | loneHalf
  /-- There is no such file. -/
  | missingFile
  /-- What is there is a directory. -/
  | isDirectory
  /-- A part of the path is a file, where it has to be a directory. -/
  | notDirectory
  /-- The path or a part of it is too long for any file. -/
  | nameTooLong
  /-- A table or a cell of it cannot be drawn, or a line cannot be put out. -/
  | unrenderable
  deriving DecidableEq, Repr

/-- What is wrong with a field of a resource. -/
inductive WireProblem (α : Type) where
  | integer
  | timestamp
  | timestampRange
  /-- Said in so many words. -/
  | stated (message : α)

/-- Why parts cannot form an origin. -/
inductive OriginProblem (α : Type) where
  | scheme (scheme : String)
  /-- The host, with the brackets that were put around it. -/
  | host (host : String)
  | port (port : α)
  | bracketedIpv4
  | notAnAddress (inside : String)
  /-- The composed address names no host. -/
  | noAuthority (address : String)
  /-- A part is of the wrong kind. -/
  | mistyped
  /-- Said in so many words. -/
  | stated (message : String)

/-- Why a resource file cannot be loaded. -/
inductive LoadProblem (α : Type) where
  | unreadable (fault : Fault)
  | notADocument (problem : Json.Problem)
  /-- The document is a value of another kind than a map. -/
  | notAMap (kind : String)
  /-- Said in so many words. -/
  | stated (message : α)

/-- What can go wrong. -/
inductive Failure (α : Type) where
  /-- Said in so many words. -/
  | general (message : α)
  /-- A mandatory part is missing. -/
  | missingField (field : α)
  /-- A field of a resource holds a value that cannot be decoded. -/
  | wireFormat (problem : WireProblem α) (field value : α) (cause : Option Fault)
  | unknownMethod (name : α) (cause : Option Fault)
  | unknownRole (name : α) (cause : Option Fault)
  | invalidOrigin (scheme host port : α) (problem : Option (OriginProblem α))
  | load (problem : LoadProblem α) (path : Path) (line : Option Int)
  /-- A fault that nothing in a resource accounts for. -/
  | stray (fault : Fault)

end StorageMetadata
