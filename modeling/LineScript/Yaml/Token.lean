import LineScript.Encoding.Decode
import LineScript.Text.Character
import LineScript.Yaml.Scalar

/-! # Tokens

The tokens of a document, and how those are read that are more than a sign: names of anchors, tags
and directives.
-/

namespace LineScript.Yaml

/-- A tag as it is written: the handle is missing if the tag is given in full. -/
structure WrittenTag where
  handle : Option (List Char)
  suffix : List Char
  deriving DecidableEq, Repr

inductive Token where
  | version (major : Nat)
  | handle (name stem : List Char)
  | directive
  | documentStart
  | documentEnd
  | streamEnd
  | sequenceStart
  | mappingStart
  | blockEnd
  | openBracket
  | closeBracket
  | openBrace
  | closeBrace
  | comma
  | dash
  | key
  | colon
  | alias (name : List Char)
  | anchor (name : List Char)
  | tag (tag : WrittenTag)
  | scalar (text : Text) (plain : Bool)
  deriving DecidableEq, Repr

namespace Token

/-- What a reader finds; the characters after it come with it. -/
abbrev Found := Except ReadError

def isNameChar (c : Char) : Bool :=
  c.isAlphanum || c = '-' || c = '_'

def name (cs : List Char) : Found (List Char × List Char) :=
  match cs.takeWhile isNameChar with
  | [] => .error (if cs = [] then .cut else .malformed)
  | name => .ok (name, cs.dropWhile isNameChar)

def anchorName (cs : List Char) : Found (List Char × List Char) := do
  let (found, rest) ← name cs
  if blankNext rest || (rest.head?.map ("?:,]\x7d%@`".toList.contains ·)).getD false then
    pure (found, rest)
  else throw .malformed

/-! ## Tags -/

def isUriChar (c : Char) : Bool :=
  c.isAlphanum || "-;/?:@&=+$,_.!~*'()[]".toList.contains c

/-- Bytes that are written as two hexadecimal digits after a percent sign each. -/
def percentBytes : List Char → Found (List UInt8 × List Char)
  | '%' :: a :: b :: cs =>
    match Scalar.hexValue? a, Scalar.hexValue? b with
    | some high, some low => do
      let (bytes, rest) ← percentBytes cs
      pure (UInt8.ofNat (16 * high + low) :: bytes, rest)
    | _, _ => .error .malformed
  | '%' :: _ => .error .malformed
  | cs => .ok ([], cs)

/-- Characters of a tag, with at most `steps` runs of bytes among them. -/
def uriFrom : (steps : Nat) → List Char → Found (List Char × List Char)
  | 0, cs => .ok ([], cs)
  | steps + 1, cs =>
    let plain := cs.takeWhile isUriChar
    match cs.dropWhile isUriChar with
    | '%' :: rest => do
      let (bytes, rest) ← percentBytes ('%' :: rest)
      match Encoding.decodeUtf8 0 bytes with
      | .error _ => throw .malformed
      | .ok chars =>
        let (more, rest) ← uriFrom steps rest
        pure (plain ++ chars ++ more, rest)
    | rest => .ok (plain, rest)

def uri (cs : List Char) : Found (List Char × List Char) := do
  let (found, rest) ← uriFrom (cs.length + 1) cs
  if rest.length = cs.length then throw (if cs = [] then .cut else .malformed)
  pure (found, rest)

/-- The handle of a tag: an exclamation mark, and a name and a second mark unless a space
follows. -/
def tagHandle : List Char → Found (List Char × List Char)
  | '!' :: ' ' :: cs => .ok (['!'], ' ' :: cs)
  | '!' :: cs =>
    match cs.dropWhile isNameChar with
    | '!' :: rest => .ok ('!' :: cs.takeWhile isNameChar ++ ['!'], rest)
    | [] => .error .cut
    | _ => .error .malformed
  | [] => .error .cut
  | _ => .error .malformed

def tagAfterMark (cs : List Char) : Found (WrittenTag × List Char) := do
  match cs with
  | '<' :: cs => do
    let (suffix, rest) ← uri cs
    match rest with
    | '>' :: rest => pure ({ handle := none, suffix }, rest)
    | [] => throw .cut
    | _ => throw .malformed
  | cs =>
    if blankNext cs then pure ({ handle := none, suffix := ['!'] }, cs)
    else if (cs.takeWhile fun c => c ≠ ' ' && !isBreak c).contains '!' then do
      let (front, rest) ← tagHandle ('!' :: cs)
      let (suffix, rest) ← uri rest
      pure ({ handle := some front, suffix }, rest)
    else do
      let (suffix, rest) ← uri cs
      pure ({ handle := some ['!'], suffix }, rest)

/-- A tag, after its first exclamation mark. A space or the end of the line follows it. -/
def tagOf (cs : List Char) : Found (WrittenTag × List Char) := do
  let (found, rest) ← tagAfterMark cs
  if spaceNext rest then pure (found, rest) else throw .malformed

/-! ## Directives -/

def dropSpaces (cs : List Char) : List Char :=
  cs.dropWhile (· = ' ')

def versionNumber (cs : List Char) : Found (Nat × List Char) :=
  match cs.takeWhile Char.isDigit with
  | [] => .error (if cs = [] then .cut else .malformed)
  | digits =>
    match Text.numberOf (digits.map fun c => c.toNat - 48) with
    | .ok n => .ok (n, cs.dropWhile Char.isDigit)
    | .error _ => .error (.scalar (.tooManyDigits digits.length))

def versionOf (cs : List Char) : Found (Token × List Char) := do
  let (major, rest) ← versionNumber (dropSpaces cs)
  match rest with
  | '.' :: rest => do
    let (_, rest) ← versionNumber rest
    if spaceNext rest then pure (.version major, rest) else throw .malformed
  | [] => throw .cut
  | _ => throw .malformed

def handleOf (cs : List Char) : Found (Token × List Char) := do
  let (name, rest) ← tagHandle (dropSpaces cs)
  if rest.head? ≠ some ' ' then throw (if rest = [] then .cut else .malformed)
  let (stem, rest) ← uri (dropSpaces rest)
  if spaceNext rest then pure (.handle name stem, rest) else throw .malformed

def directiveOf (cs : List Char) : Found (Token × List Char) := do
  let (found, rest) ← name cs
  if !spaceNext rest then throw .malformed
  let (token, rest) ←
    if found = "YAML".toList then versionOf rest
    else if found = "TAG".toList then handleOf rest
    else pure (.directive, rest.dropWhile (!isBreak ·))
  let rest ← Scalar.restOfLine rest
  pure (token, rest)

end Token

end LineScript.Yaml
