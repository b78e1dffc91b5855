import LineScript.Decimal.Rounded

/-! # Shortest decimal text

A rounded number is written with the fewest decimal digits that lead back to it. The numbers that
round to a binary one lie between two quotients.
-/

namespace LineScript

namespace Binary

/-- Whether `digits * 10 ^ place` lies between the midpoints around a binary number. The midpoints
belong to it if its significand is even. -/
def leadsTo (b : Binary) (digits : Nat) (place : Int) : Bool :=
  let lowUnits := if b.significand = Nat.pow 2 52 && leastExponent < b.exponent then 1 else 2
  let (n, d) := scale 10 digits 1 place
  let (low, lowDen) := scale 2 (4 * b.significand - lowUnits) 4 b.exponent
  let (high, highDen) := scale 2 (4 * b.significand + 2) 4 b.exponent
  if b.significand % 2 = 0 then low * d ≤ n * lowDen && n * highDen ≤ high * d
  else low * d < n * lowDen && n * highDen < high * d

def leadingPlace (num den : Nat) : Int :=
  let guess : Int := ((Nat.toDigits 10 num).length : Int) - ((Nat.toDigits 10 den).length : Int)
  let (n, d) := scale 10 num den (-guess)
  if n < d then guess - 1 else guess

/-- The digits on a decimal grid that lead to a binary number, the nearer of two neighbours first.
-/
def onGrid? (b : Binary) (place : Int) : Option Nat :=
  let (n, d) := scale 2 b.significand 1 b.exponent
  let (n, d) := scale 10 n d (-place)
  let near := roundDiv n d
  let other := if near = n / d then near + 1 else n / d
  if leadsTo b near place then some near else if leadsTo b other place then some other else none

def shortestFrom (b : Binary) (place : Int) : (tries : Nat) → Nat × Int
  | 0 => ((onGrid? b place).getD 0, place)
  | tries + 1 =>
    match onGrid? b place with
    | some digits => (digits, place)
    | none => shortestFrom b (place - 1) tries

/-- The fewest digits that lead to a positive binary number, and the place of the last of them. -/
def shortest (b : Binary) : Nat × Int :=
  let (n, d) := scale 2 b.significand 1 b.exponent
  shortestFrom b (leadingPlace n d) 17

def dropZeros (cs : List Char) : List Char :=
  (cs.reverse.dropWhile (· = '0')).reverse

/-- Digits with the point after the first `point` of them. Numbers from `10 ^ 16` on and below
`10 ^ -4` have an exponent. -/
def layout (digits : List Char) (point : Int) : List Char :=
  if -4 < point && point ≤ 16 then
    if point ≤ 0 then "0.".toList ++ List.replicate (-point).toNat '0' ++ digits
    else
      let whole := point.toNat
      let padded := digits ++ List.replicate (whole - digits.length) '0'
      let fraction := padded.drop whole
      padded.take whole ++ '.' :: (if fraction = [] then ['0'] else fraction)
  else
    let power := point - 1
    let size := Nat.toDigits 10 power.natAbs
    let exponent := (if power < 0 then '-' else '+') ::
      (List.replicate (2 - size.length) '0' ++ size)
    match digits with
    | [d] => d :: 'e' :: exponent
    | d :: rest => d :: '.' :: rest ++ 'e' :: exponent
    | [] => []

end Binary

namespace Rounded

def text : Rounded → String
  | notANumber => "nan"
  | infinite negative => if negative then "-inf" else "inf"
  | finite negative size =>
    let sign := if negative then "-" else ""
    if size.significand = 0 then sign ++ "0.0"
    else
      let (digits, place) := size.shortest
      let shown := Nat.toDigits 10 digits
      let point := (shown.length : Int) + place
      sign ++ String.ofList (Binary.layout (Binary.dropZeros shown) point)

end Rounded

end LineScript
