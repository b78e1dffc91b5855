import LineScript.Text.Quoted

/-! # JSON text

Values as JSON with two spaces of indentation a level. Characters outside printable ASCII are
written as escapes of sixteen bits, those beyond the first plane as a pair of them.
-/

namespace LineScript.Text

inductive Json where
  | null
  | number (n : Int)
  | text (s : Text)
  | list (items : List Json)
  | object (fields : List (String × Json))

namespace Json

/-- A unit of sixteen bits as an escape. -/
def unit (n : Nat) : List Char :=
  '\\' :: 'u' :: hexDigits 4 n

def escaped (c : Char) : List Char :=
  match c with
  | '"' => ['\\', '"']
  | '\\' => ['\\', '\\']
  | '\n' => ['\\', 'n']
  | '\r' => ['\\', 'r']
  | '\t' => ['\\', 't']
  | c =>
    let n := c.toNat
    if n = 8 then ['\\', 'b']
    else if n = 12 then ['\\', 'f']
    else if 32 ≤ n && n ≤ 126 then [c]
    else if n < 65536 then unit n
    else unit (55296 + (n - 65536) / 1024) ++ unit (56320 + (n - 65536) % 1024)

def escapedCode : CodePoint → List Char
  | .char c => escaped c
  | .half index => unit (CodePoint.half index).toNat

def string (s : Text) : String :=
  String.ofList ('"' :: (s.toList.flatMap escapedCode ++ ['"']))

def margin (level : Nat) : String :=
  String.ofList ('\n' :: List.replicate (2 * level) ' ')

def block (level : Nat) (opening closing : String) (parts : List String) : String :=
  match parts with
  | [] => opening ++ closing
  | parts =>
    let next := margin (level + 1)
    opening ++ next ++ ("," ++ next).intercalate parts ++ margin level ++ closing

mutual

def render (level : Nat) : Json → String
  | null => "null"
  | number n => toString n
  | text s => string s
  | list items => block level "[" "]" (renderItems (level + 1) items)
  | object fields => block level "\x7b" "\x7d" (renderFields (level + 1) fields)

def renderItems (level : Nat) : List Json → List String
  | [] => []
  | item :: rest => item.render level :: renderItems level rest

def renderFields (level : Nat) : List (String × Json) → List String
  | [] => []
  | (name, item) :: rest => (string name ++ ": " ++ item.render level) :: renderFields level rest

end

end Json

end LineScript.Text
