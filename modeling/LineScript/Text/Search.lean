import LineScript.Text.Blank
import LineScript.Text.Character

/-! # Recognisers

A recogniser takes the characters from some place on and gives what it found there, if it fits. The
recognisers below are the parts of which the patterns of the language are made; `search` looks for
the first place at which a recogniser fits.
-/

namespace LineScript.Text

/-- What a recogniser finds at the first place where it fits. The end of the text is a place too. -/
def search {α : Type} (recognise : List CodePoint → Option α) : List CodePoint → Option α
  | [] => recognise []
  | c :: cs =>
    match recognise (c :: cs) with
    | some found => some found
    | none => search recognise cs

def after? : (beginning cs : List CodePoint) → Option (List CodePoint)
  | [], cs => some cs
  | _ :: _, [] => none
  | b :: bs, c :: cs => if b = c then after? bs cs else none

/-- The characters after a given beginning in either case. The beginning is in lower case. -/
def afterAnyCase? : (beginning cs : List CodePoint) → Option (List CodePoint)
  | [], cs => some cs
  | _ :: _, [] => none
  | b :: bs, c :: cs => if b = c.toLower then afterAnyCase? bs cs else none

/-- The characters after at least one blank and all that follow it. -/
def afterBlanks? : List CodePoint → Option (List CodePoint)
  | [] => none
  | c :: cs => if isBlank c then some (trimLeft cs) else none

/-- A non-empty name at the start, as long as possible, and the rest. -/
def name? (cs : List CodePoint) : Option (List CodePoint × List CodePoint) :=
  match cs.takeWhile isWordChar with
  | [] => none
  | c :: name => some (c :: name, cs.dropWhile isWordChar)

/-- An equals sign with blanks around it. -/
def afterEquals? (cs : List CodePoint) : Option (List CodePoint) :=
  (after? ['='] (trimLeft cs)).map trimLeft

def upTo (stop : CodePoint → Bool) (cs : List CodePoint) : List CodePoint × List CodePoint :=
  (cs.takeWhile (!stop ·), cs.dropWhile (!stop ·))

/-- The text between a double quote and the next one. It does not reach over a line feed. -/
def quoted? (cs : List CodePoint) : Option (List CodePoint) := do
  let inner ← after? ['"'] cs
  let (text, rest) := upTo (fun c => c == '"' || c == '\n') inner
  let _ ← after? ['"'] rest
  pure text

def splitAt {α : Type} [DecidableEq α] (separator : α) : List α → List (List α)
  | [] => [[]]
  | c :: cs =>
    if c = separator then [] :: splitAt separator cs else extendFirst c (splitAt separator cs)

def beforeLast? (mark : CodePoint) : List CodePoint → Option (List CodePoint)
  | [] => none
  | c :: cs =>
    match beforeLast? mark cs with
    | some front => some (c :: front)
    | none => if c = mark then some [] else none

/-- The characters between the first occurrence of one character and the last of another that comes
after it. -/
def between? (first last : CodePoint) (cs : List CodePoint) : Option (List CodePoint) :=
  match cs.dropWhile (· ≠ first) with
  | [] => none
  | _ :: inner => beforeLast? last inner

def dropLastIf (mark : CodePoint) (cs : List CodePoint) : List CodePoint :=
  if cs.getLast? = some mark then cs.dropLast else cs

end LineScript.Text
