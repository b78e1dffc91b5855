import LineScript.Text.Blank
import LineScript.Text.Character

/-! # Numerals

Whole numbers as they are written in settings and directives: decimal digits of any script, with a
sign and single underscores between digits where the reader allows them. A numeral of more than
`digitLimit` digits is neither read nor written.
-/

namespace LineScript.Text

def digitLimit : Nat := 4300

inductive NumeralError where
  | malformed
  | tooLong (digits : Nat)
  deriving DecidableEq, Repr

def tooLongMessage (digits : Nat) : String :=
  s!"Exceeds the limit ({digitLimit} digits) for integer string conversion: " ++
    s!"value has {digits} digits; use sys.set_int_max_str_digits() to increase the limit"

def unwritableMessage : String :=
  s!"Exceeds the limit ({digitLimit} digits) for integer string conversion; " ++
    "use sys.set_int_max_str_digits() to increase the limit"

def ofDigits (digits : List Nat) : Nat :=
  digits.foldl (fun n d => 10 * n + d) 0

def isWritable (n : Int) : Bool :=
  n.natAbs < Nat.pow 10 digitLimit

def numberOf (digits : List Nat) : Except NumeralError Nat :=
  if digits.length ≤ digitLimit then .ok (ofDigits digits) else .error (.tooLong digits.length)

/-- Digits with at most one underscore between two of them. -/
def digitRun? : List Char → Option (List Nat)
  | [] => none
  | c :: cs =>
    match digitValue? c with
    | none => none
    | some d =>
      match cs with
      | [] => some [d]
      | '_' :: rest => (digitRun? rest).map (d :: ·)
      | next :: rest => (digitRun? (next :: rest)).map (d :: ·)

/-- The blanks that may stand around a numeral: all but the ASCII separators. -/
def isNumeralBlank (c : Char) : Bool :=
  isBlank c && !(28 ≤ c.toNat && c.toNat ≤ 31)

def sign : List Char → Int × List Char
  | '-' :: cs => (-1, cs)
  | '+' :: cs => (1, cs)
  | cs => (1, cs)

def numeralCore (cs : List Char) : List Char :=
  ((cs.dropWhile isNumeralBlank).reverse.dropWhile isNumeralBlank).reverse

/-- The whole number that a text denotes, blanks around it aside. -/
def integer? (s : String) : Except NumeralError Int :=
  let (factor, cs) := sign (numeralCore s.toList)
  match digitRun? cs with
  | none => .error .malformed
  | some digits => (numberOf digits).map (factor * ·)

def digitIn? (base : Nat) (c : Char) : Option Nat :=
  let value :=
    match digitValue? c with
    | some d => some d
    | none =>
      if 'a' ≤ c && c ≤ 'f' then some (c.toNat - 87)
      else if 'A' ≤ c && c ≤ 'F' then some (c.toNat - 55)
      else none
  value.filter (· < base)

def dropBaseMark (base : Nat) : List Char → List Char
  | '0' :: c :: cs =>
    if (base, c.toLower) ∈ [(2, 'b'), (8, 'o'), (16, 'x')] then cs else '0' :: c :: cs
  | cs => cs

/-- The whole number that a text denotes in base two, eight or sixteen, where any number of digits
is read. -/
def integerIn? (base : Nat) (cs : List Char) : Option Int :=
  let (factor, cs) := sign (numeralCore cs)
  match (dropBaseMark base cs).mapM (digitIn? base) with
  | none | some [] => none
  | some digits => some (factor * (digits.foldl (fun n d => base * n + d) 0 : Nat))

end LineScript.Text
