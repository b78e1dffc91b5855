import LineScript.Files.Path

/-! # File errors

Why a path cannot be opened.
-/

namespace LineScript

inductive FileError where
  | notFound
  | notDirectory
  | isDirectory
  | nameTooLong
  deriving DecidableEq, Repr

def FileError.text : FileError → String
  | .notFound => "[Errno 2] No such file or directory"
  | .notDirectory => "[Errno 20] Not a directory"
  | .isDirectory => "[Errno 21] Is a directory"
  | .nameTooLong => "[Errno 36] File name too long"

def FileError.message (e : FileError) (path : Path) : String :=
  s!"{e.text}: {path.quoted}"

end LineScript
