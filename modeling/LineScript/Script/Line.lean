import LineScript.Script.Location
import LineScript.Text.LineBreak

/-! # Logical lines

Scanning cuts a text into lines, trims them and drops the blank ones. The lines that are left are
numbered from one on; each also keeps the number it has in the text.
-/

namespace LineScript

structure Line where
  text : Text
  location : Location := {}
  sourceLine : Option Nat := none
  deriving DecidableEq, Repr

namespace Line

/-- Scans the lines from number `source` of the text on, of which `count` were kept before. -/
def scanFrom (file : Option Text) (count source : Nat) : List (List CodePoint) → List Line
  | [] => []
  | raw :: rest =>
    match Text.trim raw with
    | [] => scanFrom file count (source + 1) rest
    | c :: cs =>
      { text := Text.ofList (c :: cs)
        location := { line := some (Int.ofNat (count + 1)), file }
        sourceLine := some source } ::
      scanFrom file (count + 1) (source + 1) rest

def scan (source : Text) (file : Option Text) : List Line :=
  scanFrom file 0 1 (Text.splitLines source.toList)

/-- The line of a statement that comes from no script. -/
def ofStatement (text : Text) : Line :=
  { text := Text.trimmed text }

end Line

end LineScript
