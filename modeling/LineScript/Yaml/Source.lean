import LineScript.Yaml.Error

/-! # Sources

The text that a document is read from. It comes in blocks, and a block is checked when it is needed:
one that cannot be had, or that has a character that no document may have, ends the source. What
stands before that block is read first, and may turn out to be wrong already.
-/

namespace LineScript.Yaml

/-- The characters that can be read, and what is met after them; nothing if the text ends there. -/
structure Source where
  chars : List Char
  ending : Option ReadError := none
  deriving DecidableEq, Repr

def blockSize : Nat := 4096

def isAllowed (c : CodePoint) : Bool :=
  let n := c.toNat
  n = 9 || n = 10 || n = 13 || (0x20 ≤ n && n ≤ 0x7E) || n = 0x85 || (0xA0 ≤ n && n ≤ 0xD7FF) ||
    (0xE000 ≤ n && n ≤ 0xFFFD) || 0x10000 ≤ n

namespace Source

/-- The blocks in the order in which they are checked: the first two are checked at once. -/
def checked {α : Type} : List (List α) → List (List α)
  | first :: second :: rest => (first ++ second) :: rest
  | blocks => blocks

/-- The source that blocks of characters make. It is `cut` if more blocks should have come, and then
a block that stands alone is not looked at. -/
def ofBlocks (cut : Bool) (blocks : List (List CodePoint)) : Source :=
  let blocks := if cut && blocks.length < 2 then [] else checked blocks
  let sound := blocks.takeWhile (·.all isAllowed)
  { chars := sound.flatten.filterMap CodePoint.char?
    ending :=
      if sound.length < blocks.length then some .malformed else if cut then some .cut else none }

end Source

end LineScript.Yaml
