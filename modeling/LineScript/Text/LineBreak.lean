import LineScript.Text.Blank

/-! # Line breaks

A text is cut into lines at every line break. A carriage return with a line feed after it is one
break. A line that is not closed by a break counts only if it has a character.
-/

namespace LineScript.Text

def isLineBreak (c : CodePoint) : Bool :=
  let n := c.toNat
  (10 ≤ n && n ≤ 13) || (28 ≤ n && n ≤ 30) || n == 133 || n == 8232 || n == 8233

@[simp] theorem isLineBreak_lineFeed : isLineBreak '\n' = true :=
  rfl

@[simp] theorem isLineBreak_return : isLineBreak '\r' = true :=
  rfl

def splitLines : List CodePoint → List (List CodePoint)
  | [] => []
  | .char '\r' :: .char '\n' :: cs => [] :: splitLines cs
  | c :: cs => if isLineBreak c then [] :: splitLines cs else extendFirst c (splitLines cs)

/-- Writes each carriage return, with the line feed after it if there is one, as a line feed. This
is how the text of a file is read. -/
def unifyNewlines : List CodePoint → List CodePoint
  | [] => []
  | .char '\r' :: .char '\n' :: cs => '\n' :: unifyNewlines cs
  | c :: cs => (if c = '\r' then '\n' else c) :: unifyNewlines cs

end LineScript.Text
