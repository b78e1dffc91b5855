import LineScript.Script.Command
import LineScript.Script.Line

/-! # Statements

A statement is a trimmed line with its words and the command that the first of them names.
-/

namespace LineScript

structure Statement where
  line : Line
  words : List Text
  command : Command
  deriving DecidableEq, Repr

namespace Statement

def ofLine (line : Line) : Statement :=
  let line := { line with text := Text.trimmed line.text }
  let words := Text.wordsOf line.text
  { line, words
    command :=
      match words with
      | [] => .unknown
      | word :: _ => .ofWord word }

/-- The line that diagnostics about the statement of a line cite: trimmed, unless its command is
unknown. -/
def citedLine (line : Line) : Line :=
  if (ofLine line).command = .unknown then line else (ofLine line).line

theorem words_ne_nil {line : Line} (h : (ofLine line).command ≠ .unknown) :
    (ofLine line).words ≠ [] := by
  intro hnil
  apply h
  unfold ofLine at hnil ⊢
  simp only at hnil ⊢
  rw [hnil]

theorem citedLine_eq {line : Line} (h : (ofLine line).command ≠ .unknown) :
    citedLine line = (ofLine line).line := by
  unfold citedLine
  rw [if_neg h]

def text (statement : Statement) : Text :=
  statement.line.text

def commandWord (statement : Statement) : Text :=
  statement.words.headD ""

def word? (statement : Statement) (index : Nat) : Option Text :=
  statement.words[index]?

end Statement

end LineScript
