import LineScript.Files.Disk
import LineScript.Table

/-! # Snapshots

What was found under some paths when they were looked at. A snapshot serves as a disk on which
nothing else exists.
-/

namespace LineScript

structure Snapshot where
  found : Table (Except FileError (List UInt8)) := {}

namespace Snapshot

def contains (snapshot : Snapshot) (path : Path) : Bool :=
  snapshot.found.contains path.text

def put (snapshot : Snapshot) (path : Path) (result : Except FileError (List UInt8)) : Snapshot :=
  ⟨snapshot.found.put path.text result⟩

def read (snapshot : Snapshot) (path : Path) : Except FileError (List UInt8) :=
  (snapshot.found.get? path.text).getD (.error .notFound)

/-- What cannot be read because it is a directory is there all the same. -/
def kind (snapshot : Snapshot) (path : Path) : Except FileError EntryKind :=
  match snapshot.read path with
  | .ok _ => .ok .file
  | .error .isDirectory => .ok .directory
  | .error error => .error error

/-- The disk that a snapshot is, seen from a working directory. It lists no directories. -/
def disk (snapshot : Snapshot) (workingDirectory : Path) : Disk where
  workingDirectory
  read := snapshot.read
  kind := snapshot.kind
  entries _ := []

end Snapshot

end LineScript
