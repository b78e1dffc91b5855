import LineScript.Yaml.Source
import LineScript.Yaml.Token

/-! # Layout

The layout of a text gives its tokens. Outside brackets, a token that begins further right than the
collection around it opens a new collection, and one further left closes collections; these are
tokens too.

A token is known to begin a key only when the colon after it is met. Until then it is remembered as
a possible key, and no token from it on is given out. A possible key ends with its line, or when it
gets too long.
-/

namespace LineScript.Yaml

/-- A possible key: the number of tokens before it, where it begins, and whether a token at that
place has to be a key. -/
structure Key where
  number : Nat
  required : Bool
  index : Nat
  line : Nat
  column : Nat
  deriving DecidableEq, Repr

def keyLimit : Nat := 1024

/-- The state of reading: the tokens so far, the columns of the open collections, the innermost
first, whether a key may begin, and the possible keys outside and inside each bracket, the innermost
first. -/
structure Layout where
  cursor : Cursor
  tokens : Array Token := #[]
  columns : List Nat := []
  keyAllowed : Bool := true
  key : Option Key := none
  outer : List (Option Key) := []

namespace Layout

abbrev Step := Except ReadError Layout

def inFlow (l : Layout) : Bool :=
  !l.outer.isEmpty

def push (l : Layout) (token : Token) : Layout :=
  { l with tokens := l.tokens.push token }

def inside (l : Layout) : Nat :=
  match l.columns with
  | [] => 0
  | column :: _ => column + 1

/-! ## Possible keys -/

/-- Gives up a possible key, which must not be a required one. -/
def release : Option Key → Except ReadError (Option Key)
  | some key => if key.required then .error .malformed else .ok none
  | none => .ok none

def isStale (cursor : Cursor) (key : Key) : Bool :=
  key.line ≠ cursor.line || keyLimit < cursor.index - key.index

def refreshKey (cursor : Cursor) (key : Option Key) : Except ReadError (Option Key) :=
  if (key.map (isStale cursor)).getD false then release key else .ok key

def refresh (l : Layout) : Step := do
  let key ← refreshKey l.cursor l.key
  let outer ← l.outer.mapM (refreshKey l.cursor)
  pure { l with key, outer }

def dropKey (l : Layout) : Step := do
  let key ← release l.key
  pure { l with key }

/-- Remembers the next token as a possible key, if one may begin. -/
def saveKey (l : Layout) : Step :=
  if l.keyAllowed then do
    let l ← l.dropKey
    let required := !l.inFlow && l.columns.head? = some l.cursor.column
    pure
      { l with
        key := some
          { number := l.tokens.size, required, index := l.cursor.index, line := l.cursor.line
            column := l.cursor.column } }
  else .ok l

/-- The number of tokens that can be given out. -/
def settled (l : Layout) : Nat :=
  match (l.key :: l.outer).reverse.filterMap id with
  | key :: _ => key.number
  | [] => l.tokens.size

/-! ## Indentation -/

/-- Closes the collections that begin right of a column. -/
def closeTo (l : Layout) (keep : Nat → Bool) : Layout :=
  if l.inFlow then l
  else
    let closed := (l.columns.takeWhile (!keep ·)).length
    { l with
      columns := l.columns.drop closed
      tokens := l.tokens ++ Array.replicate closed Token.blockEnd }

def closeAll (l : Layout) : Layout :=
  l.closeTo fun _ => false

def insert (l : Layout) (number : Nat) (token : Token) : Layout :=
  { l with tokens := l.tokens.take number ++ #[token] ++ l.tokens.drop number }

/-- Opens a collection at a column, unless one is open there. Its token comes before the token of a
number. -/
def openAt (l : Layout) (column number : Nat) (token : Token) : Layout :=
  if l.inside ≤ column then
    { l with columns := column :: l.columns }.insert number token
  else l

/-! ## Tokens -/

def take (l : Layout) (length : Nat) (token : Token) : Layout :=
  { l with cursor := l.cursor.drop length }.push token

def takeTo (l : Layout) (rest : List Char) (token : Token) : Layout :=
  { l with cursor := l.cursor.moveTo rest }.push token

def readMarker (l : Layout) (token : Token) : Step := do
  let l ← l.closeAll.dropKey
  pure ({ l with keyAllowed := false }.take 3 token)

def readDirective (l : Layout) (rest : List Char) : Step := do
  let l ← l.closeAll.dropKey
  let (token, rest) ← Token.directiveOf rest
  pure ({ l with keyAllowed := false }.takeTo rest token)

def readOpen (l : Layout) (token : Token) : Step := do
  let l ← l.saveKey
  pure ({ l with key := none, outer := l.key :: l.outer, keyAllowed := true }.take 1 token)

def readClose (l : Layout) (token : Token) : Step := do
  let l ← l.dropKey
  match l.outer with
  | [] => throw .malformed
  | key :: outer => pure ({ l with key, outer, keyAllowed := false }.take 1 token)

def readComma (l : Layout) : Step := do
  let l ← l.dropKey
  pure ({ l with keyAllowed := true }.take 1 .comma)

/-- Opens a block collection for the next token, if keys may begin here. -/
def openHere (l : Layout) (token : Token) : Step :=
  if l.inFlow then .ok l
  else if l.keyAllowed then .ok (l.openAt l.cursor.column l.tokens.size token)
  else .error .malformed

def readDash (l : Layout) : Step := do
  let l ← l.openHere .sequenceStart
  let l ← l.dropKey
  pure ({ l with keyAllowed := true }.take 1 .dash)

def readKeySign (l : Layout) : Step := do
  let l ← l.openHere .mappingStart
  let l ← l.dropKey
  pure ({ l with keyAllowed := !l.inFlow }.take 1 .key)

/-- A colon makes a key of the possible key before it. -/
def readColon (l : Layout) : Step :=
  match l.key with
  | some key =>
    let l := { l with key := none }.insert key.number .key
    let l := if l.inFlow then l else l.openAt key.column key.number .mappingStart
    .ok ({ l with keyAllowed := false }.take 1 .colon)
  | none => do
    let l ← l.openHere .mappingStart
    pure ({ l with keyAllowed := !l.inFlow }.take 1 .colon)

def readAnchor (l : Layout) (token : List Char → Token) (rest : List Char) : Step := do
  let l ← l.saveKey
  let (name, rest) ← Token.anchorName rest
  pure ({ l with keyAllowed := false }.takeTo rest (token name))

def readTag (l : Layout) (rest : List Char) : Step := do
  let l ← l.saveKey
  let (tag, rest) ← Token.tagOf rest
  pure ({ l with keyAllowed := false }.takeTo rest (.tag tag))

def readBlock (l : Layout) (folded : Bool) (rest : List Char) : Step := do
  let l ← l.dropKey
  let (text, rest) ← Scalar.readBlock folded (max l.inside 1) rest
  pure ({ l with keyAllowed := true }.takeTo rest (.scalar (.ofChars text) false))

def readQuoted (l : Layout) (found : Scalar.Quoted) : Step := do
  let l ← l.saveKey
  let (codes, rest) ← found
  pure ({ l with keyAllowed := false }.takeTo rest (.scalar (.ofList (codes.map .ofNat)) false))

def readPlain (l : Layout) : Step := do
  let l ← l.saveKey
  let found := Scalar.plainFrom l.inFlow l.inside l.cursor.column .none [] l.cursor.rest
  pure
    (takeTo { l with keyAllowed := found.lineEnded } found.rest
      (.scalar (.ofChars found.text) true))

/-- Whether a sign with a blank after it comes next; inside brackets the sign alone is enough. -/
def atSign (l : Layout) (rest : List Char) : Bool :=
  l.inFlow || blankNext rest

def readToken (l : Layout) (c : Char) (rest : List Char) : Step :=
  let cs := c :: rest
  let lineStarts := l.cursor.column = 0
  if c = '%' && lineStarts then l.readDirective rest
  else if lineStarts && markerNext '-' cs then l.readMarker .documentStart
  else if lineStarts && markerNext '.' cs then l.readMarker .documentEnd
  else if c = '[' then l.readOpen .openBracket
  else if c = '\x7b' then l.readOpen .openBrace
  else if c = ']' then l.readClose .closeBracket
  else if c = '\x7d' then l.readClose .closeBrace
  else if c = ',' then l.readComma
  else if c = '-' && blankNext rest then l.readDash
  else if c = '?' && l.atSign rest then l.readKeySign
  else if c = ':' && l.atSign rest then l.readColon
  else if c = '*' then l.readAnchor .alias rest
  else if c = '&' then l.readAnchor .anchor rest
  else if c = '!' then l.readTag rest
  else if c = '|' && !l.inFlow then l.readBlock false rest
  else if c = '>' && !l.inFlow then l.readBlock true rest
  else if c = '\'' then l.readQuoted (Scalar.singleFrom .none [] rest)
  else if c = '"' then l.readQuoted (Scalar.doubleFrom .text .none [] rest)
  else if Scalar.canStart l.inFlow cs then l.readPlain
  else .error .malformed

/-- Goes on to the next token. A new line outside brackets may begin with a key. -/
def skip (l : Layout) : Layout :=
  let cursor := l.cursor.skip
  { l with cursor, keyAllowed := l.keyAllowed || (!l.inFlow && cursor.line ≠ l.cursor.line) }

def next (l : Layout) : Step := do
  let l ← l.skip.refresh
  let l := l.closeTo (· ≤ l.cursor.column)
  match l.cursor.rest with
  | [] => do
    let l ← l.closeAll.dropKey
    pure (l.push .streamEnd)
  | c :: rest => l.readToken c rest

end Layout

structure Tokens where
  list : List Token
  failure : ReadError := .malformed

namespace Tokens

def upTo (l : Layout) (failure : ReadError) : Tokens :=
  { list := l.tokens.toList.take l.settled, failure }

/-- Reads at most `steps` further tokens. A blank or a token that reaches the end of a source is
passed only if the text ends there. -/
def ofLayout (ending : Option ReadError) : (steps : Nat) → Layout → Tokens
  | 0, l => upTo l .malformed
  | steps + 1, l =>
    match l.refresh with
    | .error failure => { list := l.tokens.toList, failure }
    | .ok l =>
      match ending with
      | some failure =>
        if l.skip.cursor.rest = [] then upTo l failure
        else
          match l.next with
          | .error .cut => upTo l failure
          | .error failure => upTo l failure
          | .ok after =>
            if after.cursor.rest = [] then upTo l failure else ofLayout ending steps after
      | none =>
        match l.next with
        | .error .cut => upTo l .malformed
        | .error failure => upTo l failure
        | .ok after =>
          if after.tokens.back? = some .streamEnd then { list := after.tokens.toList }
          else ofLayout ending steps after

def ofSource (source : Source) : Tokens :=
  if source.chars = [] && source.ending.isSome then
    { list := [], failure := source.ending.getD .malformed }
  else ofLayout source.ending (source.chars.length + 1) { cursor := { rest := source.chars } }

end Tokens

end LineScript.Yaml
