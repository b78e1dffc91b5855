import LineScript.Text.Basic
import LineScript.Text.PrintableRanges
import LineScript.Text.WordRanges

/-! # Classes of characters

Word characters make up names, decimal digits of any script make up numerals, and characters that
are not printable are escaped in quoted texts. Each class decides the ASCII range on its own and
looks the rest up in a table.
-/

namespace LineScript.Text

def inRanges (n : Nat) (ranges : List (Nat × Nat)) : Bool :=
  ranges.any fun range => range.1 ≤ n && n ≤ range.2

/-- Letters, numerals and the underscore. -/
def isWordChar : CodePoint → Bool
  | .char c =>
    if c.toNat < 128 then c.isAlphanum || c == '_' else inRanges c.toNat wordRanges
  | .half _ => false

/-- Characters that stand for themselves in a quoted text. -/
def isPrintable (c : Char) : Bool :=
  if c.toNat < 128 then 32 ≤ c.toNat && c.toNat < 127 else inRanges c.toNat printableRanges

/-- The zero of each script that has its own ten decimal digits, which follow it in order. -/
def digitZeros : List Nat :=
  [48, 1632, 1776, 1984, 2406, 2534, 2662, 2790, 2918, 3046, 3174, 3302, 3430, 3558, 3664, 3792,
   3872, 4160, 4240, 6112, 6160, 6470, 6608, 6784, 6800, 6992, 7088, 7232, 7248, 42528, 43216,
   43264, 43472, 43504, 43600, 44016, 65296, 66720, 68912, 69734, 69872, 69942, 70096, 70384,
   70736, 70864, 71248, 71360, 71472, 71904, 72016, 72784, 73040, 73120, 92768, 92864, 93008,
   120782, 120792, 120802, 120812, 120822, 123200, 123632, 125264, 130032]

def digitValue? (c : Char) : Option Nat :=
  (digitZeros.find? fun start => start ≤ c.toNat && c.toNat < start + 10).map fun start =>
    c.toNat - start

def isAsciiDigit (c : CodePoint) : Bool :=
  48 ≤ c.toNat && c.toNat ≤ 57

end LineScript.Text
