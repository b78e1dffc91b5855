import LineScript.Yaml.Number
import LineScript.Yaml.Stamp

/-! # Tags

A tag says what kind of value a node is. A plain scalar without a tag gets the tag that its text
looks like.
-/

namespace LineScript.Yaml

inductive Tag where
  | null
  | bool
  | int
  | float
  | binary
  | timestamp
  | omap
  | pairs
  | set
  | str
  | seq
  | map
  | merge
  | value
  | other
  deriving DecidableEq, Repr

namespace Tag

/-- What the tags of the common kinds begin with. -/
def commonStem : String := "tag:yaml.org,2002:"

def common : List (String × Tag) :=
  [("null", null), ("bool", bool), ("int", int), ("float", float), ("binary", binary),
   ("timestamp", timestamp), ("omap", omap), ("pairs", pairs), ("set", set), ("str", str),
   ("seq", seq), ("map", map), ("merge", merge), ("value", value)]

def ofText (cs : List Char) : Tag :=
  ((common.find? fun entry => (commonStem ++ entry.1).toList = cs).map (·.2)).getD other

def truthWords : List (String × Bool) :=
  [("yes", true), ("no", false), ("true", true), ("false", false), ("on", true), ("off", false)]

def capitalized : List Char → List Char
  | c :: cs => c.toUpper :: cs
  | [] => []

/-- The ways to write a word: in small letters, with a capital, in capitals. -/
def spellings (word : String) : List (List Char) :=
  let cs := word.toList
  [cs, capitalized cs, cs.map Char.toUpper]

def looksTrueOrFalse (cs : List Char) : Bool :=
  truthWords.any fun entry => (spellings entry.1).contains cs

def looksNull (cs : List Char) : Bool :=
  cs = [] || cs = ['~'] || (spellings "null").contains cs

def trimmed (cs : List Char) : List Char :=
  if cs.getLast? = some '\n' then cs.dropLast else cs

/-- The tag that a text looks like. A line feed at its end does not count, unless the text is
nothing else. -/
def ofPlain (text : Text) : Tag :=
  match text.chars? with
  | none => str
  | some cs =>
    let core := if cs = ['\n'] then cs else trimmed cs
    if looksTrueOrFalse core then bool
    else if Number.looksDecimal core then float
    else if Number.looksWhole core then int
    else if core = "<<".toList then merge
    else if looksNull core then null
    else if Stamp.looksLike core then timestamp
    else if core = ['='] then value
    else str

end Tag

end LineScript.Yaml
