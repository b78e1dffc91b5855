import LineScript.Calendar.Moment
import LineScript.Decimal.Shortest
import LineScript.Text.Numeral

/-! # Setting values

The values that a settings file or an application can give, and how messages show them.
-/

namespace LineScript

/-- A value. A collection can hold itself; the place where it comes again is a `loop`. -/
inductive Value where
  | null
  | bool (b : Bool)
  | int (n : Int)
  | real (x : Rounded)
  | str (s : Text)
  | bytes (bs : List UInt8)
  | date (d : Date)
  | moment (m : Moment)
  | list (items : List Value)
  | pairs (items : List (Value × Value))
  | set (items : List Value)
  | map (items : List (Value × Value))
  | loop (mapping : Bool)

namespace Value

def enclosed (first last : String) (items : List String) : String :=
  first ++ ", ".intercalate items ++ last

mutual

def shown : Value → String
  | null => "None"
  | bool true => "True"
  | bool false => "False"
  | int n => toString n
  | real x => x.text
  | str s => s.quoted
  | bytes bs => Text.quotedBytes bs
  | date d => d.shown
  | moment m => m.shown
  | list items => enclosed "[" "]" (shownList items)
  | pairs items => enclosed "[" "]" (shownPairs items)
  | set [] => "set()"
  | set (item :: items) => enclosed "\x7b" "\x7d" (item.shown :: shownList items)
  | map items => enclosed "\x7b" "\x7d" (shownMap items)
  | loop mapping => if mapping then "\x7b...\x7d" else "[...]"

def shownList : List Value → List String
  | [] => []
  | item :: rest => item.shown :: shownList rest

def shownPairs : List (Value × Value) → List String
  | [] => []
  | (key, item) :: rest => enclosed "(" ")" [key.shown, item.shown] :: shownPairs rest

def shownMap : List (Value × Value) → List String
  | [] => []
  | (key, item) :: rest => (key.shown ++ ": " ++ item.shown) :: shownMap rest

end

mutual

def isWritable : Value → Bool
  | int n => Text.isWritable n
  | list items => listWritable items
  | pairs items => pairsWritable items
  | set items => listWritable items
  | map items => pairsWritable items
  | _ => true

def listWritable : List Value → Bool
  | [] => true
  | item :: rest => item.isWritable && listWritable rest

def pairsWritable : List (Value × Value) → Bool
  | [] => true
  | (key, item) :: rest => key.isWritable && item.isWritable && pairsWritable rest

end

/-- The value as part of a message: a text stands for itself. -/
def plain : Value → Text
  | str s => s
  | date d => d.text
  | moment m => m.text
  | value => value.shown

end Value

end LineScript
