/-! # Rounded numbers

A number with a point is kept as the nearest number with a significand of 53 bits. All work is done
on natural numbers: a positive number is a quotient, and it is rounded to a binary number.
-/

namespace LineScript

/-- A decimal number: its size is `mantissa * 10 ^ exponent`. -/
structure Decimal where
  negative : Bool
  mantissa : Nat
  exponent : Int
  deriving DecidableEq, Repr

/-- A binary number `significand * 2 ^ exponent`. -/
structure Binary where
  significand : Nat
  exponent : Int
  deriving DecidableEq, Repr

/-- A number as it is kept: a sign and a size, an infinity, or no number at all. -/
inductive Rounded where
  | finite (negative : Bool) (size : Binary)
  | infinite (negative : Bool)
  | notANumber
  deriving DecidableEq, Repr

namespace Binary

def leastExponent : Int := -1074

def greatestExponent : Int := 971

/-- The integer nearest to a quotient; a half goes to the even neighbour. -/
def roundDiv (num den : Nat) : Nat :=
  let q := num / den
  let twice := 2 * (num % den)
  if twice < den || (twice = den && q % 2 = 0) then q else q + 1

def scale (base : Nat) (num den : Nat) (exponent : Int) : Nat × Nat :=
  if 0 ≤ exponent then (num * base.pow exponent.toNat, den)
  else (num, den * base.pow (-exponent).toNat)

/-- The binary exponent for a positive quotient: the quotient over that power has 53 bits, unless
the number is so small that the least exponent is taken. -/
def exponentOf (num den : Nat) : Int :=
  let guess : Int := num.log2 - den.log2 - 52
  let (n, d) := scale 2 num den (-guess)
  let exponent := if n / d < Nat.pow 2 52 then guess - 1 else guess
  max exponent leastExponent

def zero : Binary :=
  ⟨0, leastExponent⟩

/-- The binary number nearest to a quotient; nothing if it is out of range. -/
def ofQuotient? (num den : Nat) : Option Binary :=
  if num = 0 then some zero
  else
    let exponent := exponentOf num den
    let (n, d) := scale 2 num den (-exponent)
    let significand := roundDiv n d
    let rounded : Binary :=
      if significand = Nat.pow 2 53 then ⟨Nat.pow 2 52, exponent + 1⟩
      else ⟨significand, exponent⟩
    if greatestExponent < rounded.exponent then none else some rounded

def quotient (b : Binary) : Nat × Nat :=
  scale 2 b.significand 1 b.exponent

def equalsNat (b : Binary) (n : Nat) : Bool :=
  let (num, den) := b.quotient
  num = n * den

end Binary

namespace Decimal

/-- The place before the first digit: a number is less than ten to it. -/
def magnitude (x : Decimal) : Int :=
  ((Nat.toDigits 10 x.mantissa).length : Int) + x.exponent

end Decimal

namespace Rounded

/-- A sign and a size; a size out of range is infinite. -/
def ofSize (negative : Bool) : Option Binary → Rounded
  | some size => finite negative size
  | none => infinite negative

/-- The number nearest to a decimal one. A number far beyond the range is not worked out. -/
def ofDecimal (x : Decimal) : Rounded :=
  if x.mantissa = 0 || x.magnitude < -330 then finite x.negative .zero
  else if 310 < x.magnitude then infinite x.negative
  else
    let (num, den) := Binary.scale 10 x.mantissa 1 x.exponent
    ofSize x.negative (Binary.ofQuotient? num den)

def ofNat? (n : Nat) : Option Rounded :=
  (Binary.ofQuotient? n 1).map (finite false)

def negate : Rounded → Rounded
  | finite negative size => finite (!negative) size
  | infinite negative => infinite (!negative)
  | notANumber => notANumber

def ofSigned (num : Int) (den : Nat) : Rounded :=
  ofSize (num < 0) (Binary.ofQuotient? num.natAbs den)

def signedPart (negative : Bool) (num : Nat) : Int :=
  if negative then -num else num

def add : Rounded → Rounded → Rounded
  | finite n a, finite m b =>
    let (num, den) := a.quotient
    let (num', den') := b.quotient
    let sum := signedPart n num * den' + signedPart m num' * den
    if sum = 0 then finite (n && m) .zero else ofSigned sum (den * den')
  | finite _ _, infinite m => infinite m
  | infinite n, finite _ _ => infinite n
  | infinite n, infinite m => if n = m then infinite n else notANumber
  | _, _ => notANumber

def mul : Rounded → Rounded → Rounded
  | finite n a, finite m b =>
    let (num, den) := a.quotient
    let (num', den') := b.quotient
    ofSize (n != m) (Binary.ofQuotient? (num * num') (den * den'))
  | finite n a, infinite m => if a.significand = 0 then notANumber else infinite (n != m)
  | infinite n, finite m b => if b.significand = 0 then notANumber else infinite (n != m)
  | infinite n, infinite m => infinite (n != m)
  | _, _ => notANumber

/-- Whether two numbers count as one. Zero has two signs and is one number. -/
def same : Rounded → Rounded → Bool
  | finite n a, finite m b => a = b && (n = m || a.significand = 0)
  | infinite n, infinite m => n = m
  | notANumber, notANumber => true
  | _, _ => false

def equalsInt : Rounded → Int → Bool
  | finite negative size, n =>
    size.equalsNat n.natAbs && (n = 0 || negative = decide (n < 0))
  | _, _ => false

end Rounded

end LineScript
