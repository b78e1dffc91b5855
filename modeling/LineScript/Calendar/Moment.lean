import LineScript.Text.Quoted

/-! # Dates and moments

A date is a day of the calendar, a moment is a time on a date. A moment may carry the distance of
its clock from universal time; two moments that do are the same if they are at the same instant.
-/

namespace LineScript

structure Date where
  year : Nat
  month : Nat
  day : Nat
  deriving DecidableEq, Repr

/-- A time on a date. `offset` is the number of seconds that the clock is ahead of universal time.
-/
structure Moment where
  date : Date
  hour : Nat
  minute : Nat
  second : Nat
  micro : Nat := 0
  offset : Option Int := none
  deriving DecidableEq, Repr

inductive CalendarError where
  | year (n : Nat)
  | month
  | day
  | hour
  | minute
  | second
  | offset (seconds : Int)
  deriving DecidableEq, Repr

def daySeconds : Nat := 86400

/-- A length of time as messages show it: whole days and the seconds beyond them. -/
def durationShown (seconds : Int) : String :=
  let days := seconds.fdiv daySeconds
  let rest := seconds.fmod daySeconds
  let parts :=
    (if days = 0 then [] else [s!"days={days}"]) ++ (if rest = 0 then [] else [s!"seconds={rest}"])
  "datetime.timedelta(" ++ (if parts = [] then "0" else ", ".intercalate parts) ++ ")"

def CalendarError.message : CalendarError → String
  | .year n => s!"year {n} is out of range"
  | .month => "month must be in 1..12"
  | .day => "day is out of range for month"
  | .hour => "hour must be in 0..23"
  | .minute => "minute must be in 0..59"
  | .second => "second must be in 0..59"
  | .offset seconds =>
    "offset must be a timedelta strictly between -timedelta(hours=24) and timedelta(hours=24), " ++
      s!"not {durationShown seconds}."

def paddedNumber (width n : Nat) : String :=
  let digits := Nat.toDigits 10 n
  String.ofList (List.replicate (width - digits.length) '0' ++ digits)

namespace Date

def isLeap (year : Nat) : Bool :=
  year % 4 = 0 && (year % 100 ≠ 0 || year % 400 = 0)

def daysInMonth (year month : Nat) : Nat :=
  if month = 2 then if isLeap year then 29 else 28
  else if [4, 6, 9, 11].contains month then 30
  else 31

def check (date : Date) : Except CalendarError Unit :=
  if date.year = 0 || 9999 < date.year then .error (.year date.year)
  else if date.month = 0 || 12 < date.month then .error .month
  else if date.day = 0 || daysInMonth date.year date.month < date.day then .error .day
  else .ok ()

/-- The number of days before a date, from the start of the first year on. -/
def daysBefore (date : Date) : Nat :=
  let years := date.year - 1
  let months := (List.range (date.month - 1)).map fun month => daysInMonth date.year (month + 1)
  365 * years + years / 4 - years / 100 + years / 400 + months.foldl (· + ·) 0 + (date.day - 1)

def text (date : Date) : String :=
  s!"{paddedNumber 4 date.year}-{paddedNumber 2 date.month}-{paddedNumber 2 date.day}"

def shown (date : Date) : String :=
  s!"datetime.date({date.year}, {date.month}, {date.day})"

end Date

namespace Moment

def check (moment : Moment) : Except CalendarError Unit := do
  match moment.offset with
  | some seconds => if daySeconds ≤ seconds.natAbs then throw (.offset seconds)
  | none => pure ()
  moment.date.check
  if 23 < moment.hour then .error .hour
  else if 59 < moment.minute then .error .minute
  else if 59 < moment.second then .error .second
  else .ok ()

/-- Seconds from the start of the first year on, by the clock of a moment. -/
def clockSeconds (moment : Moment) : Int :=
  moment.date.daysBefore * daySeconds + moment.hour * 3600 + moment.minute * 60 + moment.second

def same (a b : Moment) : Bool :=
  match a.offset, b.offset with
  | none, none => a = b
  | some ahead, some before =>
    a.clockSeconds - ahead = b.clockSeconds - before && a.micro = b.micro
  | _, _ => false

def offsetText (seconds : Int) : String :=
  let minutes := seconds.natAbs / 60
  (if seconds < 0 then "-" else "+") ++
    s!"{paddedNumber 2 (minutes / 60)}:{paddedNumber 2 (minutes % 60)}"

def text (moment : Moment) : String :=
  let clock :=
    s!"{paddedNumber 2 moment.hour}:{paddedNumber 2 moment.minute}:{paddedNumber 2 moment.second}"
  let micro := if moment.micro = 0 then "" else "." ++ paddedNumber 6 moment.micro
  moment.date.text ++ " " ++ clock ++ micro ++ (moment.offset.map offsetText).getD ""

def zoneShown (seconds : Int) : String :=
  if seconds = 0 then "datetime.timezone.utc" else s!"datetime.timezone({durationShown seconds})"

/-- The moment as messages show it: seconds and microseconds are left out if they are zero. -/
def shown (moment : Moment) : String :=
  let date := moment.date
  let fields := [date.year, date.month, date.day, moment.hour, moment.minute] ++
    (if moment.second = 0 && moment.micro = 0 then [] else [moment.second]) ++
    (if moment.micro = 0 then [] else [moment.micro])
  let zone := moment.offset.toList.map fun seconds => "tzinfo=" ++ zoneShown seconds
  "datetime.datetime(" ++ ", ".intercalate (fields.map toString ++ zone) ++ ")"

end Moment

end LineScript
