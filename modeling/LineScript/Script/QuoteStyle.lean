import LineScript.Text.Basic

/-! # Quote styles

Word processors write curly quotes and primes where the language expects straight quotes.
Definitions and calls read them as the straight quotes that they stand for.
-/

namespace LineScript

/-- The straight quote that a character stands for, or the character itself. -/
def straightQuote (c : CodePoint) : CodePoint :=
  if c = '“' || c = '”' || c = '″' then '"'
  else if c = '‘' || c = '’' || c = '′' then '\''
  else c

def straightQuotes (s : Text) : Text :=
  Text.ofList (s.toList.map straightQuote)

end LineScript
