import DvbReceiver.Bytes
import DvbReceiver.Files.Path
import DvbReceiver.Files.Problem

set_option autoImplicit false

namespace DvbReceiver

/-- What a name stands for; the directories above it need not be listed. -/
inductive FileEntry where
  | file (content : Bytes)
  | directory
  deriving DecidableEq, Repr

abbrev Location := List String

structure FileSystem where
  entries : List (Location × FileEntry)
  workingDirectory : Location
  deriving DecidableEq, Repr

namespace FileSystem

def maxPath : Nat := 4095

def maxName : Nat := 255

def entry? (fs : FileSystem) (location : Location) : Option FileEntry :=
  match fs.entries.lookup location with
  | some entry => some entry
  | none =>
    if location.isEmpty || fs.entries.any fun (l, _) => location.isPrefixOf l then some .directory
    else none

/-- Where a path leads, and the directories on the way that two dots leave again. -/
def follow (location : Location) : List String → Location × List Location
  | [] => (location, [])
  | name :: rest =>
    if name = "" ∨ name = "." then follow location rest
    else if name = ".." then
      let (target, left) := follow location.dropLast rest
      (target, location :: left)
    else follow (location ++ [name]) rest

def place (fs : FileSystem) (path : String) (entry : FileEntry) : FileSystem :=
  let (target, left) := follow fs.workingDirectory (Path.components path)
  { fs with entries := (target, entry) :: left.map (·, .directory) ++ fs.entries }

def enter (fs : FileSystem) (location : Location) (name : String) :
    Except FileProblem Location :=
  match fs.entry? location with
  | none => .error .notFound
  | some (.file _) => .error .notDirectory
  | some .directory =>
    -- These stay where they are, but only in a directory.
    if name = "" ∨ name = "." then .ok location
    else if name = ".." then .ok location.dropLast
    else if maxName < name.utf8ByteSize then .error .nameTooLong
    else if (fs.entry? (location ++ [name])).isNone then .error .notFound
    else .ok (location ++ [name])

def locate (fs : FileSystem) (path : String) : Except FileProblem Location :=
  if path.toList.contains '\x00' then .error .nulInPath
  else if path.isEmpty then .error .notFound
  else if maxPath < path.utf8ByteSize then .error .nameTooLong
  else
    (Path.components path).foldlM fs.enter
      (if Path.isAbsolute path then [] else fs.workingDirectory)

def find (fs : FileSystem) (path : String) : Except FileProblem (Location × FileEntry) :=
  match fs.locate path with
  | .error problem => .error problem
  | .ok location =>
    match fs.entry? location with
    | none => .error .notFound
    | some entry => .ok (location, entry)

def read (fs : FileSystem) (path : String) : Except FileProblem Bytes :=
  match fs.find path with
  | .error problem => .error problem
  | .ok (_, .directory) => .error .isDirectory
  | .ok (_, .file content) => .ok content

def list (fs : FileSystem) (path : String) : Except FileProblem (List String) :=
  match fs.find path with
  | .error problem => .error problem
  | .ok (_, .file _) => .error .notDirectory
  | .ok (location, .directory) =>
    .ok (fs.entries.filterMap fun (l, _) =>
      if location.isPrefixOf l then (l.drop location.length).head? else none).eraseDups

end FileSystem

end DvbReceiver
