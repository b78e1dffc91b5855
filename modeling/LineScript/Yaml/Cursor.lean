/-! # Cursors

A cursor is a place in a document: the characters that remain, and how many were passed, in all and
on their line. Indentation is given by columns, so a cursor is moved over every character that is
read.
-/

namespace LineScript.Yaml

def isBreak (c : Char) : Bool :=
  c = '\n' || c.toNat = 0x85 || c.toNat = 0x2028 || c.toNat = 0x2029

/-- A line break as it counts in a text: a next-line character is a line feed. -/
def breakChar (c : Char) : Char :=
  if c.toNat = 0x85 then '\n' else c

/-- The byte order mark, which has no width. -/
def isMark (c : Char) : Bool :=
  c.toNat = 0xFEFF

def width (c : Char) : Nat :=
  if isMark c then 0 else 1

/-- Whether nothing, a space or a line break comes next. -/
def spaceNext : List Char → Bool
  | [] => true
  | c :: _ => c = ' ' || isBreak c

def blankNext (cs : List Char) : Bool :=
  spaceNext cs || cs.head? = some '\t'

/-- Whether a document marker, three times the same sign, stands at the start of a line. -/
def markerNext (mark : Char) : List Char → Bool
  | a :: b :: c :: rest => a = mark && b = mark && c = mark && blankNext rest
  | _ => false

def separatorNext (cs : List Char) : Bool :=
  markerNext '-' cs || markerNext '.' cs

structure Cursor where
  rest : List Char
  index : Nat := 0
  line : Nat := 0
  column : Nat := 0
  deriving DecidableEq, Repr

namespace Cursor

def pass (cursor : Cursor) (c : Char) (rest : List Char) : Cursor :=
  if isBreak c then { rest, index := cursor.index + 1, line := cursor.line + 1 }
  else { cursor with rest, index := cursor.index + 1, column := cursor.column + width c }

def drop (cursor : Cursor) : (n : Nat) → Cursor
  | 0 => cursor
  | n + 1 =>
    match cursor.rest with
    | [] => cursor
    | c :: rest => (cursor.pass c rest).drop n

def moveTo (cursor : Cursor) (rest : List Char) : Cursor :=
  cursor.drop (cursor.rest.length - rest.length)

/-- The characters from the next token on: spaces, comments and line breaks are left out. -/
def skipped (comment : Bool) : List Char → List Char
  | [] => []
  | c :: cs =>
    if isBreak c then skipped false cs
    else if comment || c = ' ' then skipped comment cs
    else if c = '#' then skipped true cs
    else c :: cs

/-- Goes on to the next token. A byte order mark at the start of a text is no token. -/
def skip (cursor : Cursor) : Cursor :=
  match cursor.rest with
  | c :: cs =>
    if cursor.index = 0 && isMark c then (cursor.pass c cs).moveTo (skipped false cs)
    else cursor.moveTo (skipped false (c :: cs))
  | [] => cursor

end Cursor

end LineScript.Yaml
