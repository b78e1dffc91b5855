import LineScript.Calendar.Moment
import LineScript.Text.Numeral
import LineScript.Yaml.Error

/-! # Dates and times in documents

A date is written with dashes, a time with colons after a blank or a letter. A time may have a
fraction and a distance from universal time.
-/

namespace LineScript.Yaml

structure Clock where
  hour : List Char
  minute : List Char
  second : List Char
  fraction : List Char
  offset : Option Int
  deriving DecidableEq, Repr

structure Stamp where
  year : List Char
  month : List Char
  day : List Char
  clock : Option Clock
  deriving DecidableEq, Repr

namespace Stamp

def numberOf (cs : List Char) : Nat :=
  Text.ofDigits (cs.map fun c => c.toNat - 48)

def exactly? (count : Nat) (cs : List Char) : Option (List Char × List Char) :=
  let digits := cs.take count
  if digits.length = count && digits.all Char.isDigit then some (digits, cs.drop count)
  else none

def oneOrTwo? (cs : List Char) : Option (List Char × List Char) :=
  (exactly? 2 cs).or (exactly? 1 cs)

def sign? (sign : Char) : List Char → Option (List Char)
  | c :: cs => if c = sign then some cs else none
  | [] => none

def isBlank (c : Char) : Bool :=
  c = ' ' || c = '\t'

/-- What divides a date from a time: a letter or blanks. -/
def divided? (cs : List Char) : Option (List Char) :=
  match cs with
  | c :: rest =>
    if c = 'T' || c = 't' then some rest
    else if isBlank c then some (cs.dropWhile isBlank)
    else none
  | [] => none

def offsetMinutes? : List Char → Option Nat
  | [] => some 0
  | ':' :: cs => do
    let (digits, rest) ← exactly? 2 cs
    if rest = [] then some (numberOf digits) else none
  | _ => none

/-- A distance from universal time, in seconds, if one is written. -/
def offset? (cs : List Char) : Option (Option Int) :=
  match cs, cs.dropWhile isBlank with
  | [], _ => some none
  | _, ['Z'] => some (some 0)
  | _, s :: rest => do
    let factor : Int ← if s = '+' then some 1 else if s = '-' then some (-1) else none
    let (hours, rest) ← oneOrTwo? rest
    let minutes ← offsetMinutes? rest
    some (some (factor * (numberOf hours * 3600 + minutes * 60 : Nat)))
  | _, [] => none

def clock? (cs : List Char) : Option Clock := do
  let (hour, rest) ← oneOrTwo? cs
  let rest ← sign? ':' rest
  let (minute, rest) ← exactly? 2 rest
  let rest ← sign? ':' rest
  let (second, rest) ← exactly? 2 rest
  let (fraction, rest) :=
    match rest with
    | '.' :: rest => (rest.takeWhile Char.isDigit, rest.dropWhile Char.isDigit)
    | rest => ([], rest)
  let offset ← offset? rest
  some { hour, minute, second, fraction, offset }

def ofChars? (cs : List Char) : Option Stamp := do
  let (year, rest) ← exactly? 4 cs
  let rest ← sign? '-' rest
  let (month, rest) ← oneOrTwo? rest
  let rest ← sign? '-' rest
  let (day, rest) ← oneOrTwo? rest
  if rest = [] then some { year, month, day, clock := none }
  else
    let rest ← divided? rest
    let clock ← clock? rest
    some { year, month, day, clock := some clock }

/-- Whether a plain text is taken for a date or a time. A date on its own has all its digits. -/
def looksLike (cs : List Char) : Bool :=
  match ofChars? cs with
  | some stamp => stamp.clock.isSome || (stamp.month.length = 2 && stamp.day.length = 2)
  | none => false

def date (stamp : Stamp) : Date :=
  { year := numberOf stamp.year, month := numberOf stamp.month, day := numberOf stamp.day }

def micro (fraction : List Char) : Nat :=
  let digits := fraction.take 6
  numberOf (digits ++ List.replicate (6 - digits.length) '0')

def moment (stamp : Stamp) (clock : Clock) : Moment :=
  { date := stamp.date
    hour := numberOf clock.hour
    minute := numberOf clock.minute
    second := numberOf clock.second
    micro := micro clock.fraction
    offset := clock.offset }

end Stamp

end LineScript.Yaml
