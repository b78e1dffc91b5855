import LineScript.Decimal.Rounded
import LineScript.Text.Search
import LineScript.Yaml.Error

/-! # Numbers in documents

Whole numbers are written in base two, eight, ten or sixteen, or as digits of base sixty with colons
between them. Decimal numbers have a point. Underscores may stand among the digits and do not count.

A plain text has to look like a number to be one. A text that is said to be a number may have more
forms, and it is an error if it has none of them.
-/

namespace LineScript.Yaml.Number

def isDigitOrGap (c : Char) : Bool :=
  c.isDigit || c = '_'

/-- A digit of base sixty: one or two decimal digits. -/
def isSixtieth : List Char → Bool
  | [a] => a.isDigit
  | [a, b] => '0' ≤ a && a ≤ '5' && b.isDigit
  | _ => false

/-- A digit, and digits and underscores after it. -/
def isDigits : List Char → Bool
  | [] => false
  | c :: cs => c.isDigit && cs.all isDigitOrGap

/-- Digits of base sixty, the first of any length and at least one other. -/
def isSixty (cs : List Char) : Bool :=
  match Text.splitAt ':' cs with
  | first :: part :: parts => isDigits first && (part :: parts).all isSixtieth
  | _ => false

def isHexOrGap (c : Char) : Bool :=
  isDigitOrGap c || ('a' ≤ c && c ≤ 'f') || ('A' ≤ c && c ≤ 'F')

def looksNatural : List Char → Bool
  | '0' :: 'b' :: cs => cs ≠ [] && cs.all ("01_".toList.contains ·)
  | '0' :: 'x' :: cs => cs ≠ [] && cs.all isHexOrGap
  | '0' :: cs => cs.all ("01234567_".toList.contains ·)
  | cs => isDigits cs || isSixty cs

def looksWhole (cs : List Char) : Bool :=
  looksNatural (Text.sign cs).2

/-- Nothing, or the letter of an exponent with a sign and digits. -/
def isExponent : List Char → Bool
  | [] => true
  | e :: s :: ds =>
    (e = 'e' || e = 'E') && (s = '+' || s = '-') && ds ≠ [] && ds.all Char.isDigit
  | _ => false

def looksDecimal (cs : List Char) : Bool :=
  let size := (Text.sign cs).2
  let unsigned := size.length = cs.length
  let whole := size.takeWhile (· ≠ '.')
  match size.dropWhile (· ≠ '.') with
  | [] => false
  | _ :: rest =>
    let fraction := rest.takeWhile isDigitOrGap
    let tail := rest.dropWhile isDigitOrGap
    (isDigits whole && isExponent tail) ||
      (isSixty whole && tail = []) ||
      (whole = [] && unsigned && isDigits fraction && isExponent tail) ||
      (whole = [] && ["inf", "Inf", "INF"].contains (String.ofList rest)) ||
      (whole = [] && unsigned && ["nan", "NaN", "NAN"].contains (String.ofList rest))

/-- A sign at the start of a number, and the rest. The rest of an empty text is missing. -/
def signed (cs : List Char) : Except ScalarError (Int × List Char) :=
  if cs = [] then .error .emptyNumber else .ok (Text.sign cs)

def inTen (cs : List Char) : Except ScalarError Int :=
  match Text.integer? (String.ofList cs) with
  | .ok n => .ok n
  | .error (.tooLong count) => .error (.tooManyDigits count)
  | .error .malformed => .error (.notInteger 10 (.ofChars cs))

def inBase (base : Nat) (cs : List Char) : Except ScalarError Int :=
  match Text.integerIn? base cs with
  | some n => .ok n
  | none => .error (.notInteger base (.ofChars cs))

def inSixty (total : Int) : List (List Char) → Except ScalarError Int
  | [] => .ok total
  | part :: rest => do
    let d ← inTen part
    inSixty (60 * total + d) rest

def size : List Char → Except ScalarError Int
  | ['0'] => .ok 0
  | '0' :: 'b' :: cs => inBase 2 cs
  | '0' :: 'x' :: cs => inBase 16 cs
  | '0' :: cs => inBase 8 ('0' :: cs)
  | [] => .error .emptyNumber
  | cs => if cs.contains ':' then inSixty 0 (Text.splitAt ':' cs) else inTen cs

def withoutGaps (cs : List Char) : List Char :=
  cs.filter (· ≠ '_')

def whole (cs : List Char) : Except ScalarError Int := do
  let (factor, cs) ← signed (withoutGaps cs)
  let n ← size cs
  pure (factor * n)

def digitsOf (cs : List Char) : List Nat × List Char :=
  let isDigit := fun c => (Text.digitValue? c).isSome
  ((cs.takeWhile isDigit).filterMap Text.digitValue?, cs.dropWhile isDigit)

/-- The exponent of a decimal number: nothing, or the letter, a sign and digits. -/
def exponent? : List Char → Option Int
  | [] => some 0
  | e :: cs =>
    let (factor, cs) := Text.sign cs
    match digitsOf cs with
    | (d :: ds, []) => if e = 'e' then some (factor * Text.ofDigits (d :: ds)) else none
    | _ => none

def pointed? (negative : Bool) (cs : List Char) : Option Rounded :=
  let (whole, cs) := digitsOf cs
  let (fraction, cs) :=
    match cs with
    | '.' :: cs => digitsOf cs
    | cs => ([], cs)
  if whole = [] && fraction = [] then none
  else
    (exponent? cs).map fun exponent =>
      .ofDecimal
        { negative
          mantissa := Text.ofDigits (whole ++ fraction)
          exponent := exponent - fraction.length }

def decimalPart (text : List Char) : Except ScalarError Rounded :=
  let (factor, cs) := Text.sign (Text.numeralCore text)
  let negative := factor < 0
  if ["inf", "infinity"].contains (String.ofList cs) then .ok (.infinite negative)
  else if cs = "nan".toList then .ok .notANumber
  else
    match pointed? negative cs with
    | some x => .ok x
    | none => .error (.notDecimal (.ofChars text))

/-- Adds up digits of base sixty, the last one first. Each is rounded, and so is each sum. -/
def decimalSixty (total : Rounded) (base : Nat) : List Rounded → Except ScalarError Rounded
  | [] => .ok total
  | x :: rest =>
    match Rounded.ofNat? base with
    | none => .error .scaleRange
    | some factor => decimalSixty (total.add (x.mul factor)) (60 * base) rest

def decimal (cs : List Char) : Except ScalarError Rounded := do
  let (factor, cs) ← signed ((withoutGaps cs).map Char.toLower)
  let signedBy := fun (x : Rounded) => if factor < 0 then x.negate else x
  if cs = ".inf".toList then pure (.infinite (factor < 0))
  else if cs = ".nan".toList then pure .notANumber
  else if cs.contains ':' then
    let parts ← (Text.splitAt ':' cs).mapM decimalPart
    let total ← decimalSixty (.finite false .zero) 1 parts.reverse
    pure (signedBy total)
  else
    let x ← decimalPart cs
    pure (signedBy x)

end LineScript.Yaml.Number
