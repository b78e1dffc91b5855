import LineScript.Text.Character

/-! # Quoted texts

Messages show a text between quotes, with escapes for what cannot be seen. The quotes are single
unless the text has a single quote and no double one.
-/

namespace LineScript.Text

def quoteMark (cs : List Char) : Char :=
  if cs.contains '\'' && !cs.contains '"' then '"' else '\''

/-- The last `width` hexadecimal digits of a number, in lower case. -/
def hexDigits : (width n : Nat) → List Char
  | 0, _ => []
  | width + 1, n => hexDigits width (n / 16) ++ [Nat.digitChar (n % 16)]

def codePointEscape (n : Nat) : List Char :=
  if n < 256 then ['\\', 'x'] ++ hexDigits 2 n
  else if n < 65536 then ['\\', 'u'] ++ hexDigits 4 n
  else ['\\', 'U'] ++ hexDigits 8 n

def quotedChar (mark c : Char) : List Char :=
  if c = mark || c = '\\' then ['\\', c]
  else if c = '\n' then ['\\', 'n']
  else if c = '\r' then ['\\', 'r']
  else if c = '\t' then ['\\', 't']
  else if isPrintable c then [c]
  else codePointEscape c.toNat

def quotedCode (mark : Char) : CodePoint → List Char
  | .char c => quotedChar mark c
  | .half index => codePointEscape (CodePoint.half index).toNat

def quoted (s : Text) : String :=
  let mark := quoteMark s.chars
  String.ofList (mark :: s.toList.flatMap (quotedCode mark) ++ [mark])

def quotedByte (mark : Char) (b : UInt8) : List Char :=
  let c := Char.ofNat b.toNat
  if b < 128 then quotedChar mark c else codePointEscape b.toNat

/-- Bytes between quotes, with escapes for all that is not ASCII. -/
def quotedBytes (bytes : List UInt8) : String :=
  let mark := quoteMark (bytes.map fun b => Char.ofNat b.toNat)
  String.ofList ('b' :: mark :: bytes.flatMap (quotedByte mark) ++ [mark])

end LineScript.Text
