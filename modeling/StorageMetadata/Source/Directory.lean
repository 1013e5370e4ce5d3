import StorageMetadata.Failure

/-!
# Directories

A path leads through folders to a file, part by part: a name leads into the folder that has it,
two dots lead back to the folder around it, or nowhere from the outermost one.  `Folder.read`
follows a path and tells what is wrong at the first part that cannot be followed.
-/

namespace StorageMetadata

/-- What a folder has under a name. -/
inductive Node where
  | file (octets : ByteArray)
  | folder (entries : List (String × Node))

/-- The names in a folder and what they stand for. -/
abbrev Folder := List (String × Node)

namespace Folder

/-- The number of octets that a name may have. -/
def longestName : Nat := 255

/-- The number of octets that a whole path may have. -/
def longestPath : Nat := 4095

/-- The octets of the file to which the parts lead from a place, which is given by its folder and
those around it, the innermost first. -/
def follow : (place : List Folder) → (parts : List String) → Except Fault ByteArray
  | _, [] => .error .isDirectory
  | place, part :: rest =>
    if part = ".." then follow (if place.tail = [] then place else place.tail) rest
    else if longestName < part.utf8ByteSize then .error .nameTooLong
    else match (place.headD []).lookup part with
      | none => .error .missingFile
      | some (.folder inner) => follow (inner :: place) rest
      | some (.file octets) => if rest = [] then .ok octets else .error .notDirectory

/-- The octets of the file at a path, as it leads on from the folder `here`; `around` are the
folders around that one, the innermost first.  A path with a slash at the front leads on from the
outermost folder. -/
def read (here : Folder) (around : List Folder) (path : Path) : Except Fault ByteArray :=
  if longestPath < path.write.utf8ByteSize then .error .nameTooLong
  else follow (if path.root = "" then here :: around else [around.getLastD here]) path.parts

end Folder

end StorageMetadata
