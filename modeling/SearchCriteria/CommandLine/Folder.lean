import SearchCriteria.Failure

/-! Folders of files, and what a path leads to from one. -/
namespace SearchCriteria

/-- What the bytes at a path are, or why there are none. -/
abbrev Files := String → Except ReadFault (List UInt8)

/-- The files of a folder, by name. It holds no other folder. -/
structure Folder where
  files : List (String × List UInt8)
deriving Repr

namespace Folder

/-- How many bytes a path may have. -/
def maxPathSize : Nat := 4095

/-- How many bytes a name in a path may have. -/
def maxNameSize : Nat := 255

/-- Where a path may have led to. Of the system it is known that its root holds the devices,
and that one of those is a file that is always empty. -/
inductive Place where
  | folder
  | elsewhere
  | root
  | devices
deriving DecidableEq, Repr

/-- What has a name in a place: another place, or a file with its bytes. -/
inductive Found where
  | place (p : Place)
  | file (bytes : List UInt8)
deriving DecidableEq, Repr

namespace Place

def above : Place → Place
  | folder | elsewhere => elsewhere
  | root | devices => root

end Place

/-- What a name stands for in a place, if anything is known under it. -/
def named? (f : Folder) (name : String) : Place → Option Found
  | .folder => (f.files.lookup name).map .file
  | .elsewhere => none
  | .root => if name == "dev" then some (.place .devices) else none
  | .devices => if name == "null" then some (.file []) else none

/-- Where the parts of a path lead from a place, one after the other. Nothing can follow the
name of a file, not even a slash. -/
def walk (f : Folder) (p : Place) : List String → Except ReadFault (List UInt8)
  | [] => .error .isDirectory
  | part :: more =>
    if part == "" || part == "." then walk f p more
    else if part == ".." then walk f p.above more
    else if maxNameSize < part.utf8ByteSize then .error .nameTooLong
    else match f.named? part p with
      | none => .error .notFound
      | some (.place q) => walk f q more
      | some (.file bytes) => if more.isEmpty then .ok bytes else .error .notDirectory

/-- The bytes of the file that a path leads to. -/
def read? (f : Folder) : Files := fun path =>
  let cs := path.toList
  if cs.contains '\x00' then .error .malformed
  else if cs.isEmpty then .error .notFound
  else if maxPathSize < path.utf8ByteSize then .error .nameTooLong
  else walk f (if cs.head? == some '/' then .root else .folder) ((cs.splitOn '/').map String.ofList)

end Folder
end SearchCriteria
