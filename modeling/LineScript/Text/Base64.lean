/-! # Base 64

Bytes that are written as digits of base sixty-four, four digits for three bytes. Characters that
are no digits are passed over, and two signs of padding can end the text.
-/

namespace LineScript.Text

def base64Digit? (c : Char) : Option Nat :=
  if 'A' ≤ c && c ≤ 'Z' then some (c.toNat - 65)
  else if 'a' ≤ c && c ≤ 'z' then some (c.toNat - 71)
  else if '0' ≤ c && c ≤ '9' then some (c.toNat + 4)
  else if c = '+' then some 62
  else if c = '/' then some 63
  else none

/-- Reads on after `place` digits of a group of four, whose bits that make no byte yet are `left`,
and after `pads` signs of padding in a row. A group that is not complete has no value. -/
def base64From (place left pads : Nat) : List Char → Option (List UInt8)
  | [] => if place = 0 then some [] else none
  | '=' :: cs =>
    if 2 ≤ place then
      if 4 ≤ place + pads + 1 then some [] else base64From place left (pads + 1) cs
    else base64From place left pads cs
  | c :: cs =>
    match base64Digit? c with
    | none => base64From place left pads cs
    | some d =>
      match place with
      | 0 => base64From 1 d 0 cs
      | 1 => (base64From 2 (d % 16) 0 cs).map (UInt8.ofNat (left * 4 + d / 16) :: ·)
      | 2 => (base64From 3 (d % 4) 0 cs).map (UInt8.ofNat (left * 16 + d / 4) :: ·)
      | _ => (base64From 0 0 0 cs).map (UInt8.ofNat (left * 64 + d) :: ·)

def base64? (cs : List Char) : Option (List UInt8) :=
  base64From 0 0 0 cs

end LineScript.Text
