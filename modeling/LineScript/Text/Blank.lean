import LineScript.Text.Basic

/-! # Blank characters

Texts are trimmed and cut into words at blanks. Both work on the list of code points, so that a
statement about a text is a statement about a list.
-/

namespace LineScript.Text

/-- The blanks: the ASCII controls from tab to carriage return and from the file separator on, the
space, the next-line control and the spaces of Unicode. -/
def isBlank (c : CodePoint) : Bool :=
  let n := c.toNat
  (9 ≤ n && n ≤ 13) || (28 ≤ n && n ≤ 32) || n == 133 || n == 160 || n == 5760 ||
    (8192 ≤ n && n ≤ 8202) || n == 8232 || n == 8233 || n == 8239 || n == 8287 || n == 12288

def trimLeft (cs : List CodePoint) : List CodePoint :=
  cs.dropWhile isBlank

def trimRight (cs : List CodePoint) : List CodePoint :=
  (cs.reverse.dropWhile isBlank).reverse

def trim (cs : List CodePoint) : List CodePoint :=
  trimRight (trimLeft cs)

def trimmed (s : Text) : Text :=
  ofList (trim s.toList)

def isBlankText (s : Text) : Bool :=
  s.toList.all isBlank

def extendFirst {α : Type} (c : α) : List (List α) → List (List α)
  | [] => [[c]]
  | piece :: pieces => (c :: piece) :: pieces

/-- The maximal runs without blanks, from left to right. -/
def words : List CodePoint → List (List CodePoint)
  | [] => []
  | c :: cs =>
    if isBlank c then words cs
    else
      match cs with
      | [] => [[c]]
      | d :: _ => if isBlank d then [c] :: words cs else extendFirst c (words cs)

def wordsOf (s : Text) : List Text :=
  (words s.toList).map ofList

end LineScript.Text
