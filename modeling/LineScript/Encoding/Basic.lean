/-! # Text encodings

The encodings in which values are measured and script files are read, and the names under which they
are known.
-/

namespace LineScript

/-- The encodings of text as bytes. A mark is a byte order mark at the front. -/
inductive Encoding where
  | utf8
  | utf8Marked
  | ascii
  | latin1
  | utf16Marked
  | utf16Little
  | utf16Big
  | utf32Marked
  | utf32Little
  | utf32Big
  deriving DecidableEq, Repr

namespace Encoding

/-- Adds characters to a reversed name. A `gap` means that others were left out since the last one.
-/
def addToName (gap : Bool) (name : List Char) : List Char → List Char
  | [] => name
  | c :: cs =>
    if c.isAlphanum || c = '.' then
      addToName false (c.toLower :: (if gap && !name.isEmpty then '_' :: name else name)) cs
    else addToName true name cs

/-- Letters, digits and dots in lower case, with one underscore for every run of other characters
between two of them. -/
def normalName (cs : List Char) : List Char :=
  (addToName false [] cs).reverse

def properNames : List (String × Encoding) :=
  [("utf_8", utf8), ("utf_8_sig", utf8Marked), ("ascii", ascii), ("latin_1", latin1),
   ("utf_16", utf16Marked), ("utf_16_le", utf16Little), ("utf_16_be", utf16Big),
   ("utf_32", utf32Marked), ("utf_32_le", utf32Little), ("utf_32_be", utf32Big)]

def otherNames : List (String × Encoding) :=
  [("u8", utf8), ("utf", utf8), ("utf8", utf8), ("utf8_ucs2", utf8), ("utf8_ucs4", utf8),
   ("cp65001", utf8),
   ("646", ascii), ("ansi_x3.4_1968", ascii), ("ansi_x3_4_1968", ascii),
   ("ansi_x3.4_1986", ascii), ("cp367", ascii), ("csascii", ascii), ("ibm367", ascii),
   ("iso646_us", ascii), ("iso_646.irv_1991", ascii), ("iso_ir_6", ascii), ("us", ascii),
   ("us_ascii", ascii),
   ("8859", latin1), ("cp819", latin1), ("csisolatin1", latin1), ("ibm819", latin1),
   ("iso8859", latin1), ("iso8859_1", latin1), ("iso_8859_1", latin1),
   ("iso_8859_1_1987", latin1), ("iso_ir_100", latin1), ("l1", latin1), ("latin", latin1),
   ("latin1", latin1),
   ("u16", utf16Marked), ("utf16", utf16Marked),
   ("unicodelittleunmarked", utf16Little), ("utf_16le", utf16Little),
   ("unicodebigunmarked", utf16Big), ("utf_16be", utf16Big),
   ("u32", utf32Marked), ("utf32", utf32Marked),
   ("utf_32le", utf32Little), ("utf_32be", utf32Big)]

def named? (list : List (String × Encoding)) (name : List Char) : Option Encoding :=
  (list.find? fun entry => entry.1 == String.ofList name).map (·.2)

def ofName? (name : String) : Option Encoding :=
  let normal := normalName name.toList
  named? properNames normal <|> named? otherNames normal <|>
    named? otherNames (normal.map fun c => if c = '.' then '_' else c)

end Encoding

end LineScript
