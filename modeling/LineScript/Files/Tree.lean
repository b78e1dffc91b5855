import LineScript.Files.Disk

/-! # File trees

A file tree lists what lies under the names that lead from the root. Paths are followed name by
name, so a path through something that is missing or is a file leads nowhere.
-/

namespace LineScript

inductive TreeEntry where
  | file (bytes : List UInt8)
  | directory
  deriving DecidableEq, Repr

def TreeEntry.kind : TreeEntry → EntryKind
  | .file _ => .file
  | .directory => .directory

structure FileTree where
  entries : List (List Text × TreeEntry) := [([], .directory)]
  deriving Repr

/-- The bytes of a text in a path: those of its characters, and one for each half. -/
def Text.fileSize (text : Text) : Nat :=
  text.toList.foldl (fun size c => size + (c.char?.map Char.utf8Size).getD 1) 0

namespace FileTree

def nameLimit : Nat := 255

/-- A path of this many bytes or more is too long as a whole. -/
def pathLimit : Nat := 4096

def lookup? (tree : FileTree) (place : List Text) : Option TreeEntry :=
  (tree.entries.find? fun entry => entry.1 == place).map (·.2)

def follow (tree : FileTree) (place : List Text) : List Text →
    Except FileError (List Text × TreeEntry)
  | [] =>
    match tree.lookup? place with
    | some entry => .ok (place, entry)
    | none => .error .notFound
  | name :: rest =>
    match tree.lookup? place with
    | none => .error .notFound
    | some (.file _) => .error .notDirectory
    | some .directory =>
      if name = ".." then follow tree place.dropLast rest
      else if nameLimit < name.fileSize then .error .nameTooLong
      else follow tree (place ++ [name]) rest

def resolve (tree : FileTree) (working : Path) (path : Path) :
    Except FileError (List Text × TreeEntry) :=
  if pathLimit ≤ path.text.fileSize then .error .nameTooLong
  else tree.follow [] (working.join path).parts

def put (tree : FileTree) (place : List Text) (entry : TreeEntry) : FileTree :=
  ⟨(place, entry) :: tree.entries.filter (·.1 ≠ place)⟩

/-- The places on the way from the root to a place, both included. -/
def wayTo : List Text → List (List Text)
  | [] => [[]]
  | name :: rest => [] :: (wayTo rest).map (name :: ·)

def addDirectories (tree : FileTree) (place : List Text) : FileTree :=
  (wayTo place).foldl
    (fun tree place => if (tree.lookup? place).isSome then tree else tree.put place .directory) tree

def write (tree : FileTree) (working path : Path) (bytes : List UInt8) : FileTree :=
  let place := (working.join path).parts
  (tree.addDirectories place.dropLast).put place (.file bytes)

def makeDirectory (tree : FileTree) (working path : Path) : FileTree :=
  tree.addDirectories (working.join path).parts

def childrenOf (tree : FileTree) (place : List Text) : List (Text × EntryKind) :=
  tree.entries.filterMap fun entry =>
    match entry.1.getLast? with
    | some name => if entry.1.dropLast = place then some (name, entry.2.kind) else none
    | none => none

def disk (tree : FileTree) (working : Path) : Disk where
  workingDirectory := working
  read path :=
    match tree.resolve working path with
    | .error error => .error error
    | .ok (_, .directory) => .error .isDirectory
    | .ok (_, .file bytes) => .ok bytes
  kind path := (tree.resolve working path).map (·.2.kind)
  entries path :=
    match tree.resolve working path with
    | .ok (place, .directory) => tree.childrenOf place
    | _ => []

end FileTree

end LineScript
