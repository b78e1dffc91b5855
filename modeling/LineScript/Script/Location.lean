import LineScript.Text.Basic

/-! # Locations

Where a logical line stands: its number among the logical lines of a script, and the script's name.
A statement that comes from no script has neither.
-/

namespace LineScript

structure Location where
  line : Option Int := none
  file : Option Text := none
  deriving DecidableEq, Repr

namespace Location

/-- The name of the script, if it has a non-empty one. -/
def file? (location : Location) : Option Text :=
  location.file.filter fun file : Text => file ≠ ""

def text (location : Location) : Text :=
  match location.line, location.file? with
  | none, none => "<action>"
  | none, some file => file ++ ":<action>"
  | some line, none => s!"line {line}"
  | some line, some file => file ++ s!":{line}"

end Location

end LineScript
