import LineScript.Proofs.Text.Recognition
import LineScript.Script.QuoteStyle

/-! # Texts with straight quotes

Quotes are made straight one kind after the other, which comes to a single map of characters: no
straight quote is read as another one. A quote is neither blank nor part of a name or of a keyword.
Trimming, cutting into words and looking for a form therefore give the same before and after the
quotes of a text are made straight, whatever quotes it has and however they are paired.
-/

namespace LineScript

/-! ## The table of quotes -/

/-- The quotes that are read as straight ones, each with the one that it stands for. -/
def quoteVariants : List (CodePoint × CodePoint) :=
  [('“', '"'), ('”', '"'), ('″', '"'), ('‘', '\''), ('’', '\''), ('′', '\'')]

def replaced (variant : CodePoint × CodePoint) (cs : List CodePoint) : List CodePoint :=
  cs.map fun c => if c = variant.1 then variant.2 else c

def quoteMarks : List CodePoint :=
  [.char '“', .char '”', .char '″', .char '‘', .char '’', .char '′', .char '"', .char '\'']

theorem isWordChar_quoteMarks : ∀ mark ∈ quoteMarks, Text.isWordChar mark = false := by
  decide +kernel

theorem isBlank_quoteMarks : ∀ mark ∈ quoteMarks, Text.isBlank mark = false := by
  decide

theorem straightQuote_eq_self {c : CodePoint} (h : c ∉ quoteMarks) : straightQuote c = c := by
  simp only [quoteMarks, List.mem_cons, List.not_mem_nil, or_false, not_or] at h
  simp [straightQuote, h]

/-- A law of characters holds if it holds for the quotes and for all characters that are not read as
another one. -/
theorem straightQuote_cases {P : CodePoint → Prop} (hmarks : ∀ mark ∈ quoteMarks, P mark)
    (hothers : ∀ c, c ∉ quoteMarks → P c) (c : CodePoint) : P c := by
  by_cases h : c ∈ quoteMarks
  · exact hmarks c h
  · exact hothers c h

theorem straightQuote_eq_lookup (c : CodePoint) :
    straightQuote c = (quoteVariants.lookup c).getD c := by
  refine straightQuote_cases (P := fun c => straightQuote c = (quoteVariants.lookup c).getD c)
    (by decide) ?_ c
  intro c h
  have hfound : quoteVariants.lookup c = none := by
    rw [List.lookup_eq_none_iff]
    simp only [quoteMarks, List.mem_cons, List.not_mem_nil, or_false, not_or] at h
    simp [quoteVariants, h]
  rw [straightQuote_eq_self h, hfound, Option.getD_none]

theorem straightQuote_eq_foldl (c : CodePoint) :
    straightQuote c =
      quoteVariants.foldl (fun c variant => if c = variant.1 then variant.2 else c) c := by
  refine straightQuote_cases (P := fun c => straightQuote c =
    quoteVariants.foldl (fun c variant => if c = variant.1 then variant.2 else c) c)
    (by decide) ?_ c
  intro c h
  rw [straightQuote_eq_self h]
  simp only [quoteMarks, List.mem_cons, List.not_mem_nil, or_false, not_or] at h
  simp [quoteVariants, h]

theorem straightQuote_straightQuote (c : CodePoint) :
    straightQuote (straightQuote c) = straightQuote c := by
  refine straightQuote_cases (P := fun c => straightQuote (straightQuote c) = straightQuote c)
    (by decide) ?_ c
  intro c h
  rw [straightQuote_eq_self h, straightQuote_eq_self h]

/-- Replacing one character after the other comes to replacing them in each character. -/
theorem foldl_replaced (variants : List (CodePoint × CodePoint)) (cs : List CodePoint) :
    variants.foldl (fun cs variant => replaced variant cs) cs =
      cs.map fun c =>
        variants.foldl (fun c variant => if c = variant.1 then variant.2 else c) c := by
  induction variants generalizing cs with
  | nil => simp
  | cons variant variants ih =>
      rw [List.foldl_cons, ih, replaced, List.map_map]
      rfl

/-! ## Laws of straight quotes -/

@[simp] theorem toList_straightQuotes (s : Text) :
    (straightQuotes s).toList = s.toList.map straightQuote := by
  rw [straightQuotes, Text.toList_ofList]

theorem toList_straightQuotes_eq_foldl (s : Text) :
    (straightQuotes s).toList =
      quoteVariants.foldl (fun cs variant => replaced variant cs) s.toList := by
  rw [toList_straightQuotes, foldl_replaced]
  exact List.map_congr_left fun c _ => straightQuote_eq_foldl c

theorem toList_straightQuotes_eq_lookup (s : Text) :
    (straightQuotes s).toList = s.toList.map fun c => (quoteVariants.lookup c).getD c := by
  rw [toList_straightQuotes]
  exact List.map_congr_left fun c _ => straightQuote_eq_lookup c

theorem straightQuotes_straightQuotes (s : Text) :
    straightQuotes (straightQuotes s) = straightQuotes s := by
  apply Text.toList_inj.1
  rw [toList_straightQuotes, toList_straightQuotes, List.map_map]
  exact List.map_congr_left fun c _ => straightQuote_straightQuote c

theorem length_straightQuotes (s : Text) : (straightQuotes s).length = s.length := by
  rw [← Text.length_toList, ← Text.length_toList, toList_straightQuotes, List.length_map]

theorem straightQuotes_append (s t : Text) :
    straightQuotes (s ++ t) = straightQuotes s ++ straightQuotes t := by
  apply Text.toList_inj.1
  simp

theorem straightQuotes_eq_self {s : Text} (h : ∀ c ∈ s.toList, straightQuote c = c) :
    straightQuotes s = s := by
  have hmap : s.toList.map straightQuote = s.toList := by
    rw [List.map_congr_left h]
    exact List.map_id' _
  rw [straightQuotes, hmap, Text.ofList_toList]

/-! ## Kinds of characters -/

section

variable {kind : CodePoint → Bool} (hkind : ∀ mark ∈ quoteMarks, kind mark = false)

include hkind

theorem not_mem_quoteMarks {c : CodePoint} (h : kind c = true) : c ∉ quoteMarks := by
  intro hmem
  rw [hkind c hmem] at h
  cases h

/-- A kind of characters without quotes does not see how quotes are written. -/
theorem kind_straightQuote (c : CodePoint) : kind (straightQuote c) = kind c := by
  by_cases h : c ∈ quoteMarks
  · have hstraight : ∀ mark ∈ quoteMarks, straightQuote mark ∈ quoteMarks := by decide
    rw [hkind c h, hkind _ (hstraight c h)]
  · rw [straightQuote_eq_self h]

theorem map_straightQuote_eq_iff {cs ds : List CodePoint} (hds : ∀ d ∈ ds, kind d = true) :
    cs.map straightQuote = ds ↔ cs = ds := by
  have hself (ds : List CodePoint) (hds : ∀ d ∈ ds, kind d = true) : ds.map straightQuote = ds := by
    rw [List.map_congr_left fun d hd => straightQuote_eq_self (not_mem_quoteMarks hkind (hds d hd))]
    exact List.map_id' ds
  constructor
  · rintro rfl
    refine (hself cs fun c hc => ?_).symm
    rw [← kind_straightQuote hkind]
    exact hds _ (List.mem_map_of_mem hc)
  · rintro rfl
    exact hself cs hds

end

theorem Text.IsName.straight {name : List CodePoint} (h : Text.IsName name) :
    ∀ c ∈ name, straightQuote c = c :=
  fun c hc => straightQuote_eq_self (not_mem_quoteMarks isWordChar_quoteMarks (h.2 c hc))

theorem isBlank_straightQuote (c : CodePoint) : Text.isBlank (straightQuote c) = Text.isBlank c :=
  kind_straightQuote isBlank_quoteMarks c

/-- A character that is no quote is found where it was before. -/
theorem straightQuote_eq_iff {c mark : CodePoint} (h : mark ∉ quoteMarks) :
    straightQuote c = mark ↔ c = mark := by
  have hkind : ∀ other ∈ quoteMarks, (other == mark) = false := by
    intro other hother
    exact beq_eq_false_iff_ne.2 fun heq => h (heq ▸ hother)
  rw [← beq_iff_eq, kind_straightQuote hkind, beq_iff_eq]

/-! ## Trimming, words and recognisers -/

namespace Text

variable {cs : List CodePoint}

section

variable {f : CodePoint → CodePoint} {kind : CodePoint → Bool} (hf : ∀ c, kind (f c) = kind c)

include hf

theorem takeWhile_map_of_kind (cs : List CodePoint) :
    (cs.map f).takeWhile kind = (cs.takeWhile kind).map f := by
  rw [List.takeWhile_map, show kind ∘ f = kind from funext hf]

theorem dropWhile_map_of_kind (cs : List CodePoint) :
    (cs.map f).dropWhile kind = (cs.dropWhile kind).map f := by
  rw [List.dropWhile_map, show kind ∘ f = kind from funext hf]

end

theorem trimLeft_straight (cs : List CodePoint) :
    trimLeft (cs.map straightQuote) = (trimLeft cs).map straightQuote :=
  dropWhile_map_of_kind isBlank_straightQuote cs

theorem trimRight_straight (cs : List CodePoint) :
    trimRight (cs.map straightQuote) = (trimRight cs).map straightQuote := by
  unfold trimRight
  rw [← List.map_reverse, dropWhile_map_of_kind isBlank_straightQuote, List.map_reverse]

theorem trim_straight (cs : List CodePoint) :
    trim (cs.map straightQuote) = (trim cs).map straightQuote := by
  rw [trim, trimLeft_straight, trimRight_straight, trim]

theorem trimmed_straightQuotes (s : Text) :
    trimmed (straightQuotes s) = straightQuotes (trimmed s) := by
  rw [trimmed, toList_straightQuotes, trim_straight, straightQuotes, trimmed, Text.toList_ofList]

theorem extendFirst_map (c : CodePoint) (pieces : List (List CodePoint)) :
    extendFirst (straightQuote c) (pieces.map (List.map straightQuote)) =
      (extendFirst c pieces).map (List.map straightQuote) := by
  cases pieces with
  | nil => rfl
  | cons piece pieces => rfl

theorem words_straight (cs : List CodePoint) :
    words (cs.map straightQuote) = (words cs).map (List.map straightQuote) := by
  induction cs with
  | nil => rfl
  | cons c cs ih =>
      cases cs with
      | nil =>
          simp only [List.map_cons, List.map_nil, words, isBlank_straightQuote]
          split
          · rfl
          · rfl
      | cons d cs =>
          simp only [List.map_cons] at ih ⊢
          rw [words, words, isBlank_straightQuote]
          simp only [isBlank_straightQuote, ih]
          split
          · rfl
          · split
            · rfl
            · exact extendFirst_map c _

theorem wordsOf_straightQuotes (s : Text) :
    wordsOf (straightQuotes s) = (wordsOf s).map straightQuotes := by
  rw [wordsOf, toList_straightQuotes, words_straight, wordsOf, List.map_map, List.map_map]
  refine List.map_congr_left fun word _ => ?_
  rw [Function.comp_apply, Function.comp_apply, straightQuotes, Text.toList_ofList]

theorem isBlankText_straightQuotes (s : Text) :
    isBlankText (straightQuotes s) = isBlankText s := by
  rw [isBlankText, toList_straightQuotes, List.all_map,
    show isBlank ∘ straightQuote = isBlank from funext isBlank_straightQuote, isBlankText]

theorem after?_straight {beginning : List CodePoint} (h : ∀ b ∈ beginning, b ∉ quoteMarks)
    (cs : List CodePoint) :
    after? beginning (cs.map straightQuote) =
      (after? beginning cs).map (List.map straightQuote) := by
  induction beginning generalizing cs with
  | nil => rfl
  | cons b bs ih =>
      obtain ⟨hb, hbs⟩ := List.forall_mem_cons.1 h
      cases cs with
      | nil => rfl
      | cons c cs =>
          simp only [List.map_cons, after?, eq_comm (a := b), straightQuote_eq_iff hb]
          split
          · exact ih hbs cs
          · rfl

theorem afterAnyCase?_straight {beginning : List CodePoint}
    (h : ∀ b ∈ beginning, ∀ mark ∈ quoteMarks, (mark.toLower == b) = false) (cs : List CodePoint) :
    afterAnyCase? beginning (cs.map straightQuote) =
      (afterAnyCase? beginning cs).map (List.map straightQuote) := by
  induction beginning generalizing cs with
  | nil => rfl
  | cons b bs ih =>
      obtain ⟨hb, hbs⟩ := List.forall_mem_cons.1 h
      cases cs with
      | nil => rfl
      | cons c cs =>
          have hletter : (straightQuote c).toLower = b ↔ c.toLower = b := by
            rw [← beq_iff_eq, kind_straightQuote hb, beq_iff_eq]
          simp only [List.map_cons, afterAnyCase?, eq_comm (a := b), hletter]
          split
          · exact ih hbs cs
          · rfl

theorem afterBlanks?_straight (cs : List CodePoint) :
    afterBlanks? (cs.map straightQuote) = (afterBlanks? cs).map (List.map straightQuote) := by
  cases cs with
  | nil => rfl
  | cons c cs =>
      rw [List.map_cons, afterBlanks?, afterBlanks?, isBlank_straightQuote, trimLeft_straight]
      split
      · rfl
      · rfl

theorem name?_straight (cs : List CodePoint) :
    name? (cs.map straightQuote) =
      (name? cs).map fun found => (found.1, found.2.map straightQuote) := by
  have hword := kind_straightQuote isWordChar_quoteMarks
  have hname : (cs.takeWhile isWordChar).map straightQuote = cs.takeWhile isWordChar :=
    (map_straightQuote_eq_iff isWordChar_quoteMarks (takeWhile_all isWordChar cs)).2 rfl
  unfold name?
  rw [takeWhile_map_of_kind hword, dropWhile_map_of_kind hword, hname]
  cases cs.takeWhile isWordChar with
  | nil => rfl
  | cons c name => rfl

theorem beforeLast?_straight {mark : CodePoint} (h : mark ∉ quoteMarks) (cs : List CodePoint) :
    beforeLast? mark (cs.map straightQuote) =
      (beforeLast? mark cs).map (List.map straightQuote) := by
  induction cs with
  | nil => rfl
  | cons c cs ih =>
      rw [List.map_cons, beforeLast?, ih, beforeLast?]
      cases beforeLast? mark cs with
      | some front => rfl
      | none =>
          simp only [Option.map_none, straightQuote_eq_iff h]
          split
          · rfl
          · rfl

theorem search_map {α : Type} {f : CodePoint → CodePoint} {recognise : List CodePoint → Option α}
    {g : α → α}
    (h : ∀ cs, recognise (cs.map f) = (recognise cs).map g) (cs : List CodePoint) :
    search recognise (cs.map f) = (search recognise cs).map g := by
  induction cs with
  | nil => exact h []
  | cons c cs ih =>
      have hhere := h (c :: cs)
      rw [List.map_cons] at hhere ⊢
      rw [search, search, hhere, ih]
      cases recognise (c :: cs) with
      | some found => rfl
      | none => rfl

end Text

end LineScript
