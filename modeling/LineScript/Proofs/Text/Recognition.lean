import LineScript.Proofs.Text.Trim
import LineScript.Text.Search

/-! # What recognisers find

A recogniser is described by the cut of the text that it stands for: it gives a result exactly if
the text can be cut in the way that its form asks for, and the result is a part of that cut.
`search` goes through the places of a text from the left, so what it finds is decided by the first
place at which the form fits, wherever that is.
-/

namespace LineScript.Text

variable {cs front rest gap name : List CodePoint} {kind : CodePoint → Bool}

/-! ## Runs of characters -/

/-- The text does not start with a character of a kind. -/
def Stops (kind : CodePoint → Bool) (cs : List CodePoint) : Prop :=
  ∀ c ∈ cs.head?, kind c = false

/-- Blanks, at least one. -/
def IsGap (cs : List CodePoint) : Prop :=
  cs ≠ [] ∧ ∀ c ∈ cs, isBlank c = true

/-- Word characters, at least one. -/
def IsName (cs : List CodePoint) : Prop :=
  cs ≠ [] ∧ ∀ c ∈ cs, isWordChar c = true

instance (kind : CodePoint → Bool) (cs : List CodePoint) : Decidable (Stops kind cs) :=
  inferInstanceAs (Decidable (∀ c ∈ cs.head?, kind c = false))

instance (cs : List CodePoint) : Decidable (IsGap cs) :=
  inferInstanceAs (Decidable (_ ∧ _))

instance (cs : List CodePoint) : Decidable (IsName cs) :=
  inferInstanceAs (Decidable (_ ∧ _))

theorem Stops.cons {c : CodePoint} (h : kind c = false) (cs : List CodePoint) :
    Stops kind (c :: cs) := by
  intro d hd
  obtain rfl : c = d := by simpa using hd
  exact h

theorem stops_dropWhile (kind : CodePoint → Bool) (cs : List CodePoint) :
    Stops kind (cs.dropWhile kind) := by
  intro c hc
  have h := List.head?_dropWhile_not kind cs
  rw [Option.mem_def.1 hc] at h
  simpa using h

theorem takeWhile_append_stops (hfront : ∀ c ∈ front, kind c = true) (hrest : Stops kind rest) :
    (front ++ rest).takeWhile kind = front := by
  rw [List.takeWhile_append_of_pos hfront]
  cases rest with
  | nil => simp
  | cons c rest => simp [hrest c (by simp)]

theorem dropWhile_append_stops (hfront : ∀ c ∈ front, kind c = true) (hrest : Stops kind rest) :
    (front ++ rest).dropWhile kind = rest := by
  rw [List.dropWhile_append_of_pos hfront]
  cases rest with
  | nil => rfl
  | cons c rest => simp [hrest c (by simp)]

theorem takeWhile_all (kind : CodePoint → Bool) (cs : List CodePoint) :
    ∀ c ∈ cs.takeWhile kind, kind c = true :=
  List.all_eq_true.1 List.all_takeWhile

/-- Where a run of characters ends is decided by the text. -/
theorem append_stops_inj {front' rest' : List CodePoint} (hfront : ∀ c ∈ front, kind c = true)
    (hfront' : ∀ c ∈ front', kind c = true) (hrest : Stops kind rest) (hrest' : Stops kind rest')
    (h : front ++ rest = front' ++ rest') : front = front' ∧ rest = rest' := by
  constructor
  · rw [← takeWhile_append_stops hfront hrest, h, takeWhile_append_stops hfront' hrest']
  · rw [← dropWhile_append_stops hfront hrest, h, dropWhile_append_stops hfront' hrest']

theorem isBlank_of_isWordChar {c : CodePoint} (h : isWordChar c = true) : isBlank c = false := by
  have hblanks : ∀ n ∈ List.range' 9 5 ++ List.range' 28 5 ++ [133, 160, 5760] ++
      List.range' 8192 11 ++ [8232, 8233, 8239, 8287, 12288],
      isWordChar (Char.ofNat n) = false := by
    decide +kernel
  cases c with
  | half index => cases h
  | char c =>
      rw [← Bool.not_eq_true]
      intro hblank
      have hword : isWordChar (Char.ofNat (CodePoint.char c).toNat) = false := by
        apply hblanks
        simp only [isBlank, Bool.or_eq_true, Bool.and_eq_true, decide_eq_true_eq,
          beq_iff_eq] at hblank
        simp only [List.mem_append, List.mem_range'_1, List.mem_cons, List.not_mem_nil, or_false]
        omega
      rw [CodePoint.toNat, Char.ofNat_toNat, h] at hword
      cases hword

theorem IsName.stops_blank (h : IsName name) (rest : List CodePoint) :
    Stops isBlank (name ++ rest) := by
  obtain ⟨hne, hword⟩ := h
  cases name with
  | nil => exact absurd rfl hne
  | cons c name => exact .cons (isBlank_of_isWordChar (hword c List.mem_cons_self)) _

/-! ## Recognisers -/

theorem after?_eq_some {beginning : List CodePoint} :
    after? beginning cs = some rest ↔ cs = beginning ++ rest := by
  fun_induction after? beginning cs with
  | case1 cs => simp [eq_comm]
  | case2 b bs => simp
  | case3 b bs cs ih => simp [ih]
  | case4 b bs c cs hne => simp [Ne.symm hne]

theorem afterAnyCase?_eq_some {beginning : List CodePoint} :
    afterAnyCase? beginning cs = some rest ↔
      ∃ front, front.map CodePoint.toLower = beginning ∧ cs = front ++ rest := by
  induction beginning generalizing cs with
  | nil => simp [afterAnyCase?, eq_comm]
  | cons b bs ih =>
      constructor
      · intro h
        cases cs with
        | nil => cases h
        | cons c cs =>
            rw [afterAnyCase?] at h
            split at h
            · rename_i hc
              obtain ⟨front, hfront, rfl⟩ := ih.1 h
              exact ⟨c :: front, by rw [List.map_cons, hfront, hc], rfl⟩
            · cases h
      · rintro ⟨front, hfront, rfl⟩
        cases front with
        | nil => cases hfront
        | cons c front =>
            obtain ⟨hc, hfront⟩ := List.cons.inj hfront
            rw [List.cons_append, afterAnyCase?, if_pos hc.symm]
            exact ih.2 ⟨front, hfront, rfl⟩

theorem trimLeft_eq_iff :
    trimLeft cs = rest ↔
      ∃ left, cs = left ++ rest ∧ (∀ c ∈ left, isBlank c = true) ∧ Stops isBlank rest := by
  constructor
  · rintro rfl
    exact ⟨cs.takeWhile isBlank, List.takeWhile_append_dropWhile.symm, takeWhile_all isBlank cs,
      stops_dropWhile isBlank cs⟩
  · rintro ⟨left, rfl, hleft, hrest⟩
    exact dropWhile_append_stops hleft hrest

theorem afterBlanks?_eq_some :
    afterBlanks? cs = some rest ↔ ∃ gap, IsGap gap ∧ cs = gap ++ rest ∧ Stops isBlank rest := by
  constructor
  · intro h
    cases cs with
    | nil => cases h
    | cons c cs =>
        rw [afterBlanks?] at h
        split at h
        · rename_i hc
          obtain ⟨left, rfl, hleft, hrest⟩ := trimLeft_eq_iff.1 (Option.some.inj h)
          exact ⟨c :: left, ⟨by simp, List.forall_mem_cons.2 ⟨hc, hleft⟩⟩, rfl, hrest⟩
        · cases h
  · rintro ⟨gap, ⟨hne, hblank⟩, rfl, hrest⟩
    cases gap with
    | nil => exact absurd rfl hne
    | cons c gap =>
        obtain ⟨hc, hgap⟩ := List.forall_mem_cons.1 hblank
        rw [List.cons_append, afterBlanks?, if_pos hc, trimLeft_eq_iff.2 ⟨gap, rfl, hgap, hrest⟩]

theorem name?_eq_some :
    name? cs = some (name, rest) ↔ IsName name ∧ cs = name ++ rest ∧ Stops isWordChar rest := by
  constructor
  · intro h
    unfold name? at h
    split at h
    · cases h
    · rename_i c front hfront
      obtain ⟨rfl, rfl⟩ := Prod.mk.inj (Option.some.inj h)
      refine ⟨⟨by simp, ?_⟩, ?_, stops_dropWhile isWordChar cs⟩
      · rw [← hfront]
        exact takeWhile_all isWordChar cs
      · rw [← hfront]
        exact List.takeWhile_append_dropWhile.symm
  · rintro ⟨⟨hne, hword⟩, rfl, hrest⟩
    unfold name?
    rw [takeWhile_append_stops hword hrest, dropWhile_append_stops hword hrest]
    cases name with
    | nil => exact absurd rfl hne
    | cons c name => rfl

/-- A gap and a name. The name decides where the gap ends. -/
theorem named_eq_some :
    (afterBlanks? cs).bind name? = some (name, rest) ↔
      ∃ gap, IsGap gap ∧ IsName name ∧ Stops isWordChar rest ∧ cs = gap ++ (name ++ rest) := by
  rw [Option.bind_eq_some_iff]
  constructor
  · rintro ⟨inner, hinner, hname⟩
    obtain ⟨gap, hgap, rfl, -⟩ := afterBlanks?_eq_some.1 hinner
    obtain ⟨hword, rfl, hrest⟩ := name?_eq_some.1 hname
    exact ⟨gap, hgap, hword, hrest, rfl⟩
  · rintro ⟨gap, hgap, hname, hrest, rfl⟩
    exact ⟨name ++ rest, afterBlanks?_eq_some.2 ⟨gap, hgap, rfl, hname.stops_blank rest⟩,
      name?_eq_some.2 ⟨hname, rfl, hrest⟩⟩

theorem afterEquals?_eq_some :
    afterEquals? cs = some rest ↔
      ∃ left right, (∀ c ∈ left, isBlank c = true) ∧ (∀ c ∈ right, isBlank c = true) ∧
        Stops isBlank rest ∧ cs = left ++ .char '=' :: (right ++ rest) := by
  unfold afterEquals?
  rw [Option.map_eq_some_iff]
  constructor
  · rintro ⟨inner, hinner, hrest⟩
    obtain ⟨left, rfl, hleft, -⟩ := trimLeft_eq_iff.1 (after?_eq_some.1 hinner)
    obtain ⟨right, rfl, hright, hstops⟩ := trimLeft_eq_iff.1 hrest
    exact ⟨left, right, hleft, hright, hstops, rfl⟩
  · rintro ⟨left, right, hleft, hright, hstops, rfl⟩
    refine ⟨right ++ rest, after?_eq_some.2 ?_, trimLeft_eq_iff.2 ⟨right, rfl, hright, hstops⟩⟩
    exact trimLeft_eq_iff.2 ⟨left, rfl, hleft, .cons (by decide) _⟩

theorem quoted?_eq_some {text : List CodePoint} :
    quoted? cs = some text ↔
      ∃ rest, (∀ c ∈ text, c ≠ '"' ∧ c ≠ '\n') ∧ cs = .char '"' :: (text ++ .char '"' :: rest) := by
  have hkind : ∀ c : CodePoint, (!(c == '"' || c == '\n')) = true ↔ c ≠ '"' ∧ c ≠ '\n' := by simp
  unfold quoted? upTo
  simp only [Option.bind_eq_bind, Option.bind_eq_some_iff, Option.pure_def, Option.some.injEq]
  constructor
  · rintro ⟨inner, hinner, rest, hrest, rfl⟩
    refine ⟨rest, fun c hc => (hkind c).1 (takeWhile_all _ inner c hc), ?_⟩
    rw [after?_eq_some.1 hinner]
    have hcut :=
      List.takeWhile_append_dropWhile (p := fun c : CodePoint => !(c == '"' || c == '\n'))
        (l := inner)
    rw [after?_eq_some.1 hrest] at hcut
    simpa using hcut.symm
  · rintro ⟨rest, htext, rfl⟩
    have hall : ∀ c ∈ text, (!(c == '"' || c == '\n')) = true :=
      fun c hc => (hkind c).2 (htext c hc)
    have hstops : Stops (fun c => !(c == '"' || c == '\n')) (.char '"' :: rest) := .cons rfl rest
    refine ⟨text ++ .char '"' :: rest, after?_eq_some.2 rfl, rest, after?_eq_some.2 ?_, ?_⟩
    · exact dropWhile_append_stops hall hstops
    · exact takeWhile_append_stops hall hstops

/-! ## Marks and separators -/

theorem beforeLast?_append_mark (mark : CodePoint) (front : List CodePoint) :
    beforeLast? mark (front ++ [mark]) = some front := by
  induction front with
  | nil => simp [beforeLast?]
  | cons c front ih => rw [List.cons_append, beforeLast?, ih]

theorem dropLastIf_append_mark (mark : CodePoint) (front : List CodePoint) :
    dropLastIf mark (front ++ [mark]) = front := by
  rw [dropLastIf, List.getLast?_concat, if_pos rfl, List.dropLast_concat]

theorem dropLastIf_append_of_ne {mark c : CodePoint} (h : c ≠ mark) (front : List CodePoint) :
    dropLastIf mark (front ++ [c]) = front ++ [c] := by
  rw [dropLastIf, List.getLast?_concat, if_neg (by simpa using h)]

theorem splitAt_of_not_mem {separator : CodePoint} (h : separator ∉ cs) :
    splitAt separator cs = [cs] := by
  induction cs with
  | nil => rfl
  | cons c cs ih =>
      simp only [List.mem_cons, not_or] at h
      rw [splitAt, if_neg (Ne.symm h.1), ih h.2]
      rfl

theorem splitAt_append_separator {separator : CodePoint} (h : separator ∉ cs)
    (rest : List CodePoint) :
    splitAt separator (cs ++ separator :: rest) = cs :: splitAt separator rest := by
  induction cs with
  | nil => simp [splitAt]
  | cons c cs ih =>
      simp only [List.mem_cons, not_or] at h
      rw [List.cons_append, splitAt, if_neg (Ne.symm h.1), ih h.2]
      rfl

/-! ## Search -/

/-- The first place of a text at which something fits: no longer end of the text has it. -/
structure FirstPlace (form : List CodePoint → Prop) (cs place : List CodePoint) : Prop where
  suffix : place <:+ cs
  fits : form place
  first : ∀ earlier, earlier <:+ cs → form earlier → earlier.length ≤ place.length

theorem FirstPlace.congr {form form' : List CodePoint → Prop} {place : List CodePoint}
    (hform : ∀ cs, form cs ↔ form' cs) (h : FirstPlace form cs place) :
    FirstPlace form' cs place :=
  ⟨h.suffix, (hform place).1 h.fits, fun earlier hs hf => h.first earlier hs ((hform earlier).2 hf)⟩

theorem FirstPlace.start {form : List CodePoint → Prop} (h : form cs) : FirstPlace form cs cs :=
  ⟨List.suffix_rfl, h, fun _ hs _ => hs.length_le⟩

theorem FirstPlace.eq_start {form : List CodePoint → Prop} {place : List CodePoint}
    (h : FirstPlace form cs place) (hstart : form cs) : place = cs :=
  h.suffix.eq_of_length_le (h.first cs List.suffix_rfl hstart)

variable {α : Type} {recognise : List CodePoint → Option α}

theorem search_eq_none :
    search recognise cs = none ↔ ∀ place, place <:+ cs → recognise place = none := by
  induction cs with
  | nil => simp [search]
  | cons c cs ih =>
      have hplaces : (∀ place, place <:+ c :: cs → recognise place = none) ↔
          recognise (c :: cs) = none ∧ ∀ place, place <:+ cs → recognise place = none := by
        simp only [List.suffix_cons_iff, or_imp, forall_and, forall_eq]
      rw [hplaces, ← ih, search]
      cases recognise (c :: cs) <;> simp

/-- A search fails exactly if no part of the text has the form that is recognised. -/
theorem search_eq_none_iff_form {form : List CodePoint → Prop}
    (h : ∀ cs, (∃ found, recognise cs = some found) ↔ form cs) :
    search recognise cs = none ↔ ∀ place, place <:+ cs → ¬ form place := by
  rw [search_eq_none]
  refine forall₂_congr fun place _ => ?_
  rw [← h, ← Option.isSome_iff_exists, Option.not_isSome_iff_eq_none]

/-- A search gives what is recognised at the first place where something is. -/
theorem search_eq_some {found : α} :
    search recognise cs = some found ↔
      ∃ place, FirstPlace (fun place => (recognise place).isSome) cs place ∧
        recognise place = some found := by
  induction cs with
  | nil =>
      constructor
      · intro h
        exact ⟨[], .start (by rw [show recognise [] = some found from h]; rfl), h⟩
      · rintro ⟨place, hfirst, hplace⟩
        rw [List.suffix_nil.1 hfirst.suffix] at hplace
        exact hplace
  | cons c cs ih =>
      rw [search]
      cases hhere : recognise (c :: cs) with
      | some here =>
          have hstart : (recognise (c :: cs)).isSome := by rw [hhere]; rfl
          constructor
          · intro h
            exact ⟨c :: cs, .start hstart, hhere.trans h⟩
          · rintro ⟨place, hfirst, hplace⟩
            rw [hfirst.eq_start hstart] at hplace
            exact hhere.symm.trans hplace
      | none =>
          refine ih.trans (exists_congr fun place => and_congr_left fun hplace => ?_)
          constructor
          · intro h
            refine ⟨h.suffix.trans (List.suffix_cons c cs), h.fits, fun earlier hs hf => ?_⟩
            rcases List.suffix_cons_iff.1 hs with rfl | hs
            · simp [hhere] at hf
            · exact h.first earlier hs hf
          · intro h
            refine ⟨?_, h.fits, fun earlier hs hf =>
              h.first earlier (hs.trans (List.suffix_cons c cs)) hf⟩
            rcases List.suffix_cons_iff.1 h.suffix with rfl | hs
            · rw [hhere] at hplace
              cases hplace
            · exact hs

theorem search_of_start {found : α} (h : recognise cs = some found) :
    search recognise cs = some found :=
  search_eq_some.2 ⟨cs, .start (by rw [h]; rfl), h⟩

/-! ## Searches that pass a text -/

/-- Nothing is recognised at the places of `front`, if `rest` follows it. -/
def Passes (recognise : List CodePoint → Option α) (front rest : List CodePoint) : Prop :=
  ∀ back, back <:+ front → back ≠ [] → recognise (back ++ rest) = none

theorem search_append_of_passes (h : Passes recognise front rest) :
    search recognise (front ++ rest) = search recognise rest := by
  induction front with
  | nil => rfl
  | cons c front ih =>
      have hhere : recognise (c :: front ++ rest) = none := h _ List.suffix_rfl (by simp)
      rw [List.cons_append] at hhere ⊢
      rw [search, hhere]
      exact ih fun back hback => h back (hback.trans (List.suffix_cons c front))

theorem Passes.append {more : List CodePoint} (hfront : Passes recognise front (more ++ rest))
    (hmore : Passes recognise more rest) : Passes recognise (front ++ more) rest := by
  rintro back ⟨before, hbefore⟩ hne
  rcases List.append_eq_append_iff.1 hbefore with ⟨inner, rfl, rfl⟩ | ⟨inner, rfl, rfl⟩
  · rw [List.append_assoc]
    by_cases hinner : inner = []
    · subst hinner
      exact hmore more List.suffix_rfl hne
    · exact hfront inner (List.suffix_append before inner) hinner
  · exact hmore back (List.suffix_append inner back) hne

/-- What is recognised starts with a keyword. -/
def Led (keyword : List CodePoint) (recognise : List CodePoint → Option α) : Prop :=
  ∀ cs, (recognise cs).isSome → keyword <+: cs

variable {keyword : List CodePoint}

theorem Led.eq_none (h : Led keyword recognise) (hcs : ¬ keyword <+: cs) : recognise cs = none := by
  rw [← Option.not_isSome_iff_eq_none]
  exact fun hsome => hcs (h cs hsome)

/-- A keyword that a text lacks is not found there, unless it reaches into what follows. -/
theorem Led.passes (h : Led keyword recognise) (hfront : ¬ keyword <:+: front)
    (hrest : ∀ c ∈ rest.head?, c ∉ keyword) : Passes recognise front rest := by
  rintro back hback -
  apply h.eq_none
  intro hstart
  rcases Nat.lt_or_ge back.length keyword.length with hlt | hle
  · obtain ⟨more, rfl⟩ : back <+: keyword :=
      List.prefix_of_prefix_length_le (List.prefix_append back rest) hstart (by omega)
    cases more with
    | nil => simp at hlt
    | cons c more =>
        have hmore : c :: more <+: rest := (List.prefix_append_right_inj back).1 hstart
        obtain ⟨tail, rfl⟩ := hmore
        exact hrest c (by simp) (by simp)
  · have hinside : keyword <+: back :=
      List.prefix_of_prefix_length_le hstart (List.prefix_append back rest) hle
    exact hfront (hinside.isInfix.trans hback.isInfix)

/-- Characters that a keyword lacks are passed, whatever follows. -/
theorem Led.passes_foreign (h : Led keyword recognise) (hne : keyword ≠ [])
    (hfront : ∀ c ∈ front, c ∉ keyword) (rest : List CodePoint) : Passes recognise front rest := by
  intro back hback hback'
  apply h.eq_none
  intro hstart
  cases back with
  | nil => exact hback' rfl
  | cons c back =>
      cases keyword with
      | nil => exact hne rfl
      | cons k keyword =>
          have hk : k = c := (List.cons_prefix_cons.1 hstart).1
          exact hfront c (hback.subset List.mem_cons_self) (hk ▸ List.mem_cons_self)

/-- A text that lacks the keyword and ends with a character that the keyword lacks is passed,
whatever follows. -/
theorem Led.passes_concat (h : Led keyword recognise) (hfront : ¬ keyword <:+: front)
    {mark : CodePoint}
    (hmark : mark ∉ keyword) (rest : List CodePoint) : Passes recognise (front ++ [mark]) rest := by
  have hne : keyword ≠ [] := by
    rintro rfl
    exact hfront (List.nil_infix)
  refine Passes.append (h.passes hfront ?_) (h.passes_foreign hne ?_ rest)
  · simpa using hmark
  · simpa using hmark

theorem Led.search_eq_none (h : Led keyword recognise) (hcs : ¬ keyword <:+: cs) :
    search recognise cs = none := by
  rw [Text.search_eq_none]
  intro place hplace
  apply h.eq_none
  exact fun hstart => hcs (hstart.isInfix.trans hplace.isInfix)

/-- A keyword does not reach over a character that it lacks. -/
theorem infix_append_cons {mark : CodePoint} (hmark : mark ∉ keyword) :
    keyword <:+: front ++ mark :: rest ↔ keyword <:+: front ∨ keyword <:+: rest := by
  constructor
  · rintro ⟨before, after, h⟩
    rw [List.append_assoc] at h
    rcases List.append_eq_append_iff.1 h with ⟨inner, rfl, hinner⟩ | ⟨inner, rfl, hinner⟩
    · rcases List.append_eq_append_iff.1 hinner with ⟨more, rfl, -⟩ | ⟨more, rfl, hmore⟩
      · exact .inl ⟨before, more, by rw [List.append_assoc]⟩
      · cases more with
        | nil => exact .inl ⟨before, [], by simp⟩
        | cons c more =>
            obtain ⟨rfl, -⟩ := List.cons.inj hmore
            exact absurd (by simp) hmark
    · cases inner with
      | nil =>
          cases keyword with
          | nil => exact .inl List.nil_infix
          | cons k keyword =>
              obtain ⟨rfl, -⟩ := List.cons.inj hinner
              exact absurd List.mem_cons_self hmark
      | cons c inner =>
          obtain ⟨rfl, rfl⟩ := List.cons.inj hinner
          exact .inr ⟨inner, after, List.append_assoc inner keyword after⟩
  · rintro (h | h)
    · exact h.trans (List.prefix_append _ _).isInfix
    · exact h.trans ((List.suffix_cons _ _).trans (List.suffix_append _ _)).isInfix

end LineScript.Text
