import LineScript.Yaml.Cursor
import LineScript.Yaml.Error

/-! # Scalars

A scalar is a text, plain, between quotes, or a block of indented lines. Outside a block it may go
over several lines: a single line break counts as a space, further ones count as they are, and the
blanks around them are dropped.

A reader that meets the end of the text too early gives the error `cut`.
-/

namespace LineScript.Yaml

/-- What stands between two words of a scalar, last character first: blanks, or line breaks. The
first break may have been escaped. -/
inductive Gap where
  | blanks (cs : List Char)
  | breaks (first : Option Char) (more : List Char)
  deriving DecidableEq, Repr

namespace Gap

def none : Gap :=
  blanks []

def addBlank (c : Char) : Gap → Gap
  | blanks cs => blanks (c :: cs)
  | breaks first more => breaks first more

def addBreak (c : Char) : Gap → Gap
  | blanks _ => breaks (some (breakChar c)) []
  | breaks first more => breaks first (breakChar c :: more)

def text : Gap → List Char
  | blanks cs => cs
  | breaks (some '\n') [] => [' ']
  | breaks (some '\n') more => more
  | breaks (some c) more => more ++ [c]
  | breaks Option.none more => more

def codes (gap : Gap) : List Nat :=
  gap.text.map Char.toNat

def isNone : Gap → Bool
  | blanks [] => true
  | _ => false

def hasBreak : Gap → Bool
  | blanks _ => false
  | breaks _ _ => true

end Gap

namespace Scalar

/-! ## Plain scalars -/

def isFlowSign (c : Char) : Bool :=
  ",[]\x7b\x7d".toList.contains c

/-- Whether a plain text ends before a character: at the colon after a key, and inside brackets at
any sign of theirs. -/
def endsPlain (flow : Bool) (c : Char) (rest : List Char) : Bool :=
  (c = ':' && (blankNext rest || (flow && (rest.head?.map isFlowSign).getD false))) ||
    (flow && (isFlowSign c || c = '?'))

/-- A plain text, what remains after it and the gap behind it, and whether the gap has a line break.
-/
structure Plain where
  text : List Char
  rest : List Char
  lineEnded : Bool

/-- Reads on in a plain text. `found` is what was read up to the last word, last character first.
The lines after the first have to begin at `least` or further, unless the text is inside
brackets. -/
def plainFrom (flow : Bool) (least column : Nat) (gap : Gap) (found : List Char) :
    List Char → Plain
  | [] => { text := found.reverse, rest := [], lineEnded := gap.hasBreak }
  | c :: cs =>
    if isBreak c then
      if separatorNext cs then { text := found.reverse, rest := cs, lineEnded := true }
      else plainFrom flow least 0 (gap.addBreak c) found cs
    else if c = ' ' then plainFrom flow least (column + 1) (gap.addBlank c) found cs
    else if c = '\t' || endsPlain flow c cs ||
        (!gap.isNone && (c = '#' || (!flow && column < least))) then
      { text := found.reverse, rest := c :: cs, lineEnded := gap.hasBreak }
    else plainFrom flow least (column + width c) .none (c :: (gap.text ++ found)) cs

/-- The signs that no plain text begins with, unless as `canStart` says. -/
def isIndicator (c : Char) : Bool :=
  "-?:,[]\x7b\x7d#&*!|>'\"%@`".toList.contains c

def canStart (flow : Bool) : List Char → Bool
  | [] => false
  | c :: cs =>
    if c = ' ' || c = '\t' || isBreak c then false
    else !isIndicator c || (!blankNext cs && (c = '-' || (!flow && (c = '?' || c = ':'))))

/-! ## Quoted scalars -/

def escaped? : Char → Option Nat
  | '0' => some 0x00
  | 'a' => some 0x07
  | 'b' => some 0x08
  | 't' | '\t' => some 0x09
  | 'n' => some 0x0A
  | 'v' => some 0x0B
  | 'f' => some 0x0C
  | 'r' => some 0x0D
  | 'e' => some 0x1B
  | ' ' => some 0x20
  | '"' => some 0x22
  | '/' => some 0x2F
  | '\\' => some 0x5C
  | 'N' => some 0x85
  | '_' => some 0xA0
  | 'L' => some 0x2028
  | 'P' => some 0x2029
  | _ => none

def codeLength? : Char → Option Nat
  | 'x' => some 2
  | 'u' => some 4
  | 'U' => some 8
  | _ => none

def hexValue? (c : Char) : Option Nat :=
  if '0' ≤ c && c ≤ '9' then some (c.toNat - 48)
  else if 'a' ≤ c && c ≤ 'f' then some (c.toNat - 87)
  else if 'A' ≤ c && c ≤ 'F' then some (c.toNat - 55)
  else none

def codePoint (code : Nat) : Except ReadError Nat :=
  if 0x7FFFFFFF < code then .error (.scalar .codePointSize)
  else if 0x10FFFF < code then .error (.scalar .codePointRange)
  else .ok code

abbrev Quoted := Except ReadError (List Nat × List Char)

/-- Reads on in a text between single quotes. Two quotes stand for one. -/
def singleFrom (gap : Gap) (found : List Nat) : List Char → Quoted
  | [] => .error .cut
  | '\'' :: '\'' :: cs => singleFrom .none ('\''.toNat :: (gap.codes ++ found)) cs
  | c :: cs =>
    if c = '\'' then .ok ((gap.codes ++ found).reverse, cs)
    else if isBreak c then
      if separatorNext cs then .error .malformed else singleFrom (gap.addBreak c) found cs
    else if c = ' ' || c = '\t' then singleFrom (gap.addBlank c) found cs
    else singleFrom .none (c.toNat :: (gap.codes ++ found)) cs

/-- The place in a text between double quotes: in the text, or among the digits of a code with
`left` of them to come. -/
inductive Place where
  | text
  | code (left value : Nat)
  deriving DecidableEq, Repr

def doubleFrom (place : Place) (gap : Gap) (found : List Nat) : List Char → Quoted
  | [] => .error .cut
  | ['\\'] => .error (if place = .text then .cut else .malformed)
  | '\\' :: e :: cs =>
    if place ≠ .text then .error .malformed
    else
      let found := gap.codes ++ found
      match escaped? e, codeLength? e with
      | some code, _ => doubleFrom .text .none (code :: found) cs
      | none, some length => doubleFrom (.code length 0) .none found cs
      | none, none =>
        if isBreak e && !separatorNext cs then doubleFrom .text (.breaks none []) found cs
        else .error .malformed
  | c :: cs =>
    match place with
    | .code left value =>
      match hexValue? c with
      | none => .error .malformed
      | some digit =>
        let value := 16 * value + digit
        if left ≤ 1 then do
          let code ← codePoint value
          doubleFrom .text .none (code :: found) cs
        else doubleFrom (.code (left - 1) value) .none found cs
    | .text =>
      if c = '"' then .ok ((gap.codes ++ found).reverse, cs)
      else if isBreak c then
        if separatorNext cs then .error .malformed
        else doubleFrom .text (gap.addBreak c) found cs
      else if c = ' ' || c = '\t' then doubleFrom .text (gap.addBlank c) found cs
      else doubleFrom .text .none (c.toNat :: (gap.codes ++ found)) cs

/-! ## Blocks of lines -/

/-- What becomes of the line breaks at the end of a block: the last one is kept, or none, or all. -/
inductive Chomping where
  | clip
  | strip
  | keep
  deriving DecidableEq, Repr

/-- The head of a block: what becomes of its end, and how far it is indented, if the head says
so. -/
structure BlockHead where
  chomping : Chomping := .clip
  increment : Option Nat := none

def chomping? : Char → Option Chomping
  | '+' => some .keep
  | '-' => some .strip
  | _ => none

/-- A digit of a block head. Zero is none. -/
def increment? (c : Char) : Option (Except ReadError Nat) :=
  if c = '0' then some (.error .malformed)
  else if '1' ≤ c && c ≤ '9' then some (.ok (c.toNat - 48))
  else none

/-- The signs after the one that begins a block, in either order. -/
def blockHead (cs : List Char) : Except ReadError (BlockHead × List Char) :=
  match cs with
  | a :: rest =>
    match chomping? a, increment? a with
    | some chomping, _ =>
      match rest with
      | b :: more =>
        match increment? b with
        | some n => n.map fun n => ({ chomping, increment := some n }, more)
        | none => .ok ({ chomping }, rest)
      | [] => .ok ({ chomping }, [])
    | none, some n => do
      let increment ← n
      match rest with
      | b :: more =>
        match chomping? b with
        | some chomping => pure ({ chomping, increment := some increment }, more)
        | none => pure ({ increment := some increment }, rest)
      | [] => pure ({ increment := some increment }, [])
    | none, none => .ok ({}, cs)
  | [] => .ok ({}, [])

/-- The next line, if nothing but spaces and a comment is left on this one. -/
def restOfLine (cs : List Char) : Except ReadError (List Char) :=
  let cs := cs.dropWhile (· = ' ')
  let cs := if cs.head? = some '#' then cs.dropWhile (!isBreak ·) else cs
  match cs with
  | [] => .ok []
  | c :: rest => if isBreak c then .ok rest else .error .malformed

/-- The line breaks before a line of a block, last one first, and the column at which they end. At
most `indent` spaces of a line are passed. -/
def breaksFrom (indent column : Nat) (found : List Char) :
    List Char → List Char × Nat × List Char
  | [] => (found, column, [])
  | c :: cs =>
    if isBreak c then breaksFrom indent 0 (breakChar c :: found) cs
    else if c = ' ' && column < indent then breaksFrom indent (column + 1) found cs
    else (found, column, c :: cs)

/-- The blank lines at the start of a block, last break first, with the column at which they end and
the deepest column on them. -/
def leadFrom (column deepest : Nat) (found : List Char) :
    List Char → List Char × Nat × Nat × List Char
  | [] => (found, column, deepest, [])
  | c :: cs =>
    if isBreak c then leadFrom 0 deepest (breakChar c :: found) cs
    else if c = ' ' then leadFrom (column + 1) (max deepest (column + 1)) found cs
    else (found, column, deepest, c :: cs)

def startsBlank (cs : List Char) : Bool :=
  cs.head? = some ' ' || cs.head? = some '\t'

/-- What was read of a block, last character first: its lines, the break after the last of them, and
the breaks after that one. -/
structure Block where
  text : List Char
  lastBreak : List Char := []
  breaks : List Char
  rest : List Char

/-- Reads the lines of a block. In a folded block a single break between two lines that begin
without a blank counts as a space. -/
def linesFrom (folded : Bool) (indent : Nat) : (steps : Nat) → (column : Nat) → Block → Block
  | 0, _, block => block
  | steps + 1, column, block =>
    if column ≠ indent || block.rest = [] then block
    else
      let line := block.rest.takeWhile (!isBreak ·)
      let text := line.reverse ++ (block.breaks ++ block.text)
      match block.rest.dropWhile (!isBreak ·) with
      | [] => { text, breaks := [], rest := [] }
      | b :: after =>
        let (breaks, next, rest) := breaksFrom indent 0 [] after
        if next ≠ indent || rest = [] then { text, lastBreak := [breakChar b], breaks, rest }
        else
          let joint :=
            if folded && breakChar b = '\n' && !startsBlank block.rest && !startsBlank rest then
              if breaks = [] then [' '] else []
            else [breakChar b]
          linesFrom folded indent steps next { text := joint ++ text, breaks, rest }

def Block.chomped (block : Block) : Chomping → List Char
  | .strip => block.text
  | .clip => block.lastBreak ++ block.text
  | .keep => block.breaks ++ (block.lastBreak ++ block.text)

/-- A block, from the sign that begins it on. Its lines are indented to `least` or further. -/
def readBlock (folded : Bool) (least : Nat) (cs : List Char) :
    Except ReadError (List Char × List Char) := do
  let (head, cs) ← blockHead cs
  if !spaceNext cs then throw .malformed
  let cs ← restOfLine cs
  let (breaks, column, indent, rest) :=
    match head.increment with
    | some n =>
      let indent := least + n - 1
      let (breaks, column, rest) := breaksFrom indent 0 [] cs
      (breaks, column, indent, rest)
    | none =>
      let (breaks, column, deepest, rest) := leadFrom 0 0 [] cs
      (breaks, column, max least deepest, rest)
  let block := linesFrom folded indent (rest.length + 1) column { text := [], breaks, rest }
  pure ((block.chomped head.chomping).reverse, block.rest)

end Scalar

end LineScript.Yaml
