/-! # Texts

A text is a list of code points. Nearly all of them are characters. The others are the halves of
surrogate pairs: one that stands alone is no character, but an application can hand it over, and an
escape in a document can name it.
-/

namespace LineScript

/-- A character, or half of a surrogate pair that stands alone. -/
inductive CodePoint where
  | char (c : Char)
  | half (index : Fin 2048)
  deriving DecidableEq, Repr

namespace CodePoint

instance : Coe Char CodePoint where
  coe := char

def toNat : CodePoint → Nat
  | char c => c.toNat
  | half index => 0xD800 + index

def ofNat (n : Nat) : CodePoint :=
  if h : 0xD800 ≤ n ∧ n < 0xE000 then half ⟨n - 0xD800, by omega⟩ else char (Char.ofNat n)

def isHalf : CodePoint → Bool
  | char _ => false
  | half _ => true

def char? : CodePoint → Option Char
  | char c => some c
  | half _ => none

/-- The small letter of a capital letter of ASCII. -/
def toLower : CodePoint → CodePoint
  | char c => char c.toLower
  | half index => half index

end CodePoint

structure Text where
  ofList ::
  toList : List CodePoint
  deriving DecidableEq, Repr

namespace Text

def ofChars (cs : List Char) : Text :=
  ofList (cs.map .char)

def ofString (s : String) : Text :=
  ofChars s.toList

instance : Coe String Text where
  coe := ofString

instance : Append Text where
  append a b := ofList (a.toList ++ b.toList)

def intercalate (separator : Text) (texts : List Text) : Text :=
  ofList (separator.toList.intercalate (texts.map toList))

def codes (text : Text) : List Nat :=
  text.toList.map CodePoint.toNat

/-- Texts are put in order by their code points. -/
instance : LE Text where
  le a b := List.le a.codes b.codes

instance (a b : Text) : Decidable (a ≤ b) :=
  List.decidableLE a.codes b.codes

def length (text : Text) : Nat :=
  text.toList.length

/-- The characters of a text, without halves. -/
def chars (text : Text) : List Char :=
  text.toList.filterMap CodePoint.char?

def chars? (text : Text) : Option (List Char) :=
  if text.toList.any CodePoint.isHalf then none else some text.chars

def string? (text : Text) : Option String :=
  text.chars?.map String.ofList

/-- The text as a stream shows it that replaces halves. -/
def display (text : Text) : String :=
  String.ofList (text.toList.map fun c => c.char?.getD '\uFFFD')

@[simp] theorem toList_ofList {cs : List CodePoint} : (ofList cs).toList = cs :=
  rfl

@[simp] theorem ofList_toList {text : Text} : ofList text.toList = text :=
  rfl

@[simp] theorem toList_ofString (s : String) : (ofString s).toList = s.toList.map .char :=
  rfl

@[simp] theorem length_toList (text : Text) : text.toList.length = text.length :=
  rfl

@[simp] theorem toList_append (a b : Text) : (a ++ b).toList = a.toList ++ b.toList :=
  rfl

@[simp] theorem toList_intercalate (separator : Text) (texts : List Text) :
    (intercalate separator texts).toList = separator.toList.intercalate (texts.map toList) :=
  rfl

@[simp] theorem intercalate_singleton (separator text : Text) :
    intercalate separator [text] = text := by
  simp [intercalate]

theorem intercalate_cons_cons (separator a b : Text) (texts : List Text) :
    intercalate separator (a :: b :: texts) =
      a ++ separator ++ intercalate separator (b :: texts) := by
  apply congrArg ofList
  simp [List.intercalate]

theorem toList_inj {a b : Text} : a.toList = b.toList ↔ a = b := by
  constructor
  · intro h
    cases a
    cases b
    exact congrArg ofList h
  · exact congrArg toList

theorem toList_eq_nil {text : Text} : text.toList = [] ↔ text = "" :=
  toList_inj (b := "")

theorem ofString_append (s t : String) : ofString s ++ ofString t = ofString (s ++ t) := by
  simp [← toList_inj]

theorem ofChars_chars {text : Text} (h : text.toList.any CodePoint.isHalf = false) :
    ofChars text.chars = text := by
  obtain ⟨cs⟩ := text
  apply congrArg ofList
  induction cs with
  | nil => rfl
  | cons c cs ih =>
      simp only [List.any_cons, Bool.or_eq_false_iff] at h
      cases c with
      | half index => cases h.1
      | char c => exact congrArg (CodePoint.char c :: ·) (ih h.2)

theorem string?_eq_some {text : Text} {s : String} :
    text.string? = some s ↔ text = ofString s := by
  constructor
  · intro h
    obtain ⟨cs, hcs, rfl⟩ := Option.map_eq_some_iff.1 h
    unfold chars? at hcs
    split at hcs
    · cases hcs
    · rename_i hhalf
      rw [ofString, String.toList_ofList, ← Option.some.inj hcs,
        ofChars_chars (Bool.not_eq_true _ ▸ hhalf)]
  · rintro rfl
    have hhalf : (ofString s).toList.any CodePoint.isHalf = false := by
      simp [List.any_map, Function.comp_def, CodePoint.isHalf]
    have hchars : (ofString s).chars = s.toList := by
      simp [chars, List.filterMap_map, Function.comp_def, CodePoint.char?]
    rw [string?, chars?, hhalf, hchars]
    simp

theorem ofString_injective {s t : String} (h : ofString s = ofString t) : s = t :=
  Option.some.inj ((string?_eq_some.2 rfl).symm.trans (string?_eq_some.2 h))

@[simp] theorem ofString_inj {s t : String} : ofString s = ofString t ↔ s = t :=
  ⟨ofString_injective, congrArg ofString⟩

@[simp] theorem append_empty (text : Text) : text ++ (ofString "") = text :=
  toList_inj.1 (List.append_nil _)

@[simp] theorem empty_append (text : Text) : ofString "" ++ text = text :=
  rfl

theorem append_assoc (a b c : Text) : a ++ b ++ c = a ++ (b ++ c) :=
  toList_inj.1 (List.append_assoc ..)

end Text

end LineScript
