import LineScript.Text.LineBreak

/-! # Trimming, words and line breaks

A text is its trimmed part between blanks. Line breaks are blanks, so a text with one line that is
not blank is trimmed to what this line is trimmed to.
-/

namespace LineScript.Text

variable {cs left right : List CodePoint}

theorem isBlank_of_isLineBreak {c : CodePoint} (h : isLineBreak c = true) : isBlank c = true := by
  simp only [isLineBreak, isBlank, Bool.or_eq_true, Bool.and_eq_true, decide_eq_true_eq,
    beq_iff_eq] at h ⊢
  omega

/-! ## Trimming -/

theorem trimLeft_eq_nil : trimLeft cs = [] ↔ ∀ c ∈ cs, isBlank c = true := by
  unfold trimLeft
  induction cs with
  | nil => simp
  | cons c cs ih =>
      by_cases hc : isBlank c = true
      · simp [hc, ih]
      · simp [hc]

theorem trimLeft_append_of_blank (h : ∀ c ∈ left, isBlank c = true) :
    trimLeft (left ++ cs) = trimLeft cs :=
  List.dropWhile_append_of_pos h

theorem trimRight_append_of_blank (h : ∀ c ∈ right, isBlank c = true) :
    trimRight (cs ++ right) = trimRight cs := by
  have hreversed : ∀ c ∈ right.reverse, isBlank c = true := by simpa using h
  unfold trimRight
  rw [List.reverse_append, List.dropWhile_append_of_pos hreversed]

theorem trimLeft_parts (cs : List CodePoint) :
    ∃ left, cs = left ++ trimLeft cs ∧ ∀ c ∈ left, isBlank c = true := by
  refine ⟨cs.takeWhile isBlank, List.takeWhile_append_dropWhile.symm, ?_⟩
  intro c hc
  exact List.all_eq_true.1 List.all_takeWhile c hc

theorem trimRight_parts (cs : List CodePoint) :
    ∃ right, cs = trimRight cs ++ right ∧ ∀ c ∈ right, isBlank c = true := by
  obtain ⟨left, hleft, hblank⟩ := trimLeft_parts cs.reverse
  refine ⟨left.reverse, ?_, by simpa using hblank⟩
  have h := congrArg List.reverse hleft
  simpa [trimRight, trimLeft] using h

theorem mem_of_mem_trimRight {c : CodePoint} (h : c ∈ trimRight cs) : c ∈ cs := by
  obtain ⟨right, hparts, -⟩ := trimRight_parts cs
  rw [hparts]
  exact List.mem_append_left _ h

/-- A text is its trimmed part between blanks. -/
theorem trim_parts (cs : List CodePoint) :
    ∃ left right, cs = left ++ trim cs ++ right ∧ (∀ c ∈ left, isBlank c = true) ∧
      ∀ c ∈ right, isBlank c = true := by
  obtain ⟨left, hleft, hblank⟩ := trimLeft_parts cs
  obtain ⟨right, hright, hblank'⟩ := trimRight_parts (trimLeft cs)
  refine ⟨left, right, ?_, hblank, hblank'⟩
  rw [List.append_assoc]
  exact hleft.trans (congrArg (left ++ ·) hright)

theorem mem_of_mem_trim {c : CodePoint} (h : c ∈ trim cs) : c ∈ cs := by
  obtain ⟨left, right, hcs, -, -⟩ := trim_parts cs
  rw [hcs]
  simp [h]

theorem trim_append_left (h : ∀ c ∈ left, isBlank c = true) : trim (left ++ cs) = trim cs := by
  unfold trim
  rw [trimLeft_append_of_blank h]

theorem trim_append_right (h : ∀ c ∈ right, isBlank c = true) : trim (cs ++ right) = trim cs := by
  unfold trim
  by_cases hcs : ∀ c ∈ cs, isBlank c = true
  · rw [trimLeft_append_of_blank hcs, trimLeft_eq_nil.2 h, trimLeft_eq_nil.2 hcs]
  · have hne : (List.dropWhile isBlank cs).isEmpty = false := by
      rw [← Bool.not_eq_true, List.isEmpty_iff]
      exact fun hnil => hcs (trimLeft_eq_nil.1 hnil)
    have hpart : trimLeft (cs ++ right) = trimLeft cs ++ right := by
      unfold trimLeft
      rw [List.dropWhile_append, hne]
      rfl
    rw [hpart, trimRight_append_of_blank h]

theorem trim_eq_nil : trim cs = [] ↔ ∀ c ∈ cs, isBlank c = true := by
  constructor
  · intro h
    obtain ⟨left, right, hcs, hleft, hright⟩ := trim_parts cs
    rw [h, List.append_nil] at hcs
    intro c hc
    rw [hcs] at hc
    rcases List.mem_append.1 hc with hc | hc
    · exact hleft c hc
    · exact hright c hc
  · intro h
    have h' : trim (cs ++ []) = trim [] := trim_append_left h
    rwa [List.append_nil] at h'

theorem trim_trim (cs : List CodePoint) : trim (trim cs) = trim cs := by
  obtain ⟨left, right, hcs, hleft, hright⟩ := trim_parts cs
  calc trim (trim cs) = trim (left ++ trim cs) := (trim_append_left hleft).symm
    _ = trim (left ++ trim cs ++ right) := (trim_append_right hright).symm
    _ = trim cs := by rw [← hcs]

theorem trim_eq_self (hfirst : ∀ c ∈ cs.head?, isBlank c = false)
    (hlast : ∀ c ∈ cs.getLast?, isBlank c = false) : trim cs = cs := by
  have hleft : trimLeft cs = cs := by
    cases cs with
    | nil => rfl
    | cons c cs => simp [trimLeft, hfirst c rfl]
  have hright : trimRight cs = cs := by
    unfold trimRight
    cases hcs : cs.reverse with
    | nil => simpa using hcs.symm
    | cons d front =>
        have hd : isBlank d = false := hlast d (by simp [← List.head?_reverse, hcs])
        rw [List.dropWhile_cons_of_neg (by simp [hd]), ← hcs, List.reverse_reverse]
  rw [trim, hleft, hright]

/-- What ends without a blank is kept whole in front of a text that is trimmed on the right. -/
theorem trimRight_append {front : List CodePoint} (hne : front ≠ [])
    (hlast : ∀ c ∈ front.getLast?, isBlank c = false) (cs : List CodePoint) :
    trimRight (front ++ cs) = front ++ trimRight cs := by
  have hfront : front.reverse.dropWhile isBlank = front.reverse := by
    cases hreverse : front.reverse with
    | nil => exact absurd (List.reverse_eq_nil_iff.1 hreverse) hne
    | cons c rest =>
        have hc : isBlank c = false := hlast c (by simp [← List.head?_reverse, hreverse])
        exact List.dropWhile_cons_of_neg (by simp [hc])
  unfold trimRight
  rw [List.reverse_append, List.dropWhile_append]
  split
  · rename_i hblank
    rw [List.isEmpty_iff.1 hblank, hfront]
    simp
  · simp

theorem trim_trimLeft (cs : List CodePoint) : trim (trimLeft cs) = trim cs := by
  obtain ⟨left, hcs, hleft⟩ := trimLeft_parts cs
  calc trim (trimLeft cs) = trim (left ++ trimLeft cs) := (trim_append_left hleft).symm
    _ = trim cs := by rw [← hcs]

theorem trim_trimRight (cs : List CodePoint) : trim (trimRight cs) = trim cs := by
  obtain ⟨right, hcs, hright⟩ := trimRight_parts cs
  calc trim (trimRight cs) = trim (trimRight cs ++ right) := (trim_append_right hright).symm
    _ = trim cs := by rw [← hcs]

/-! ## Words -/

theorem words_eq_nil : words cs = [] ↔ ∀ c ∈ cs, isBlank c = true := by
  induction cs with
  | nil => simp [words]
  | cons c cs ih =>
      by_cases hc : isBlank c = true
      · simp [words, hc, ih]
      · have hne : words (c :: cs) ≠ [] := by
          cases cs with
          | nil => simp [words, hc]
          | cons d rest =>
              rw [words.eq_def]
              simp only [if_neg hc]
              split
              · simp
              · cases words (d :: rest) <;> simp [extendFirst]
        simp [hne, hc]

theorem words_trim_ne_nil (h : trim cs ≠ []) : words (trim cs) ≠ [] := by
  intro hwords
  have hblank := trim_eq_nil.2 (words_eq_nil.1 hwords)
  rw [trim_trim] at hblank
  exact h hblank

theorem words_append_blank {word : List CodePoint} {b : CodePoint} (hword : word ≠ [])
    (hplain : ∀ c ∈ word, isBlank c = false) (hb : isBlank b = true) :
    words (word ++ b :: cs) = word :: words cs := by
  induction word with
  | nil => exact absurd rfl hword
  | cons c word ih =>
      obtain ⟨hc, hplain⟩ := List.forall_mem_cons.1 hplain
      cases word with
      | nil => simp [words, hc, hb]
      | cons d word =>
          have hd := hplain d List.mem_cons_self
          have hrest := ih (by simp) hplain
          rw [List.cons_append, List.cons_append, words, hc]
          rw [List.cons_append] at hrest
          simp [hd, hrest, extendFirst]

theorem words_plain {word : List CodePoint} (hword : word ≠ [])
    (hplain : ∀ c ∈ word, isBlank c = false) : words word = [word] := by
  induction word with
  | nil => exact absurd rfl hword
  | cons c word ih =>
      obtain ⟨hc, hplain⟩ := List.forall_mem_cons.1 hplain
      cases word with
      | nil => simp [words, hc]
      | cons d word =>
          have hrest := ih (by simp) hplain
          rw [words]
          simp [hc, hplain d List.mem_cons_self, hrest, extendFirst]

/-- The first word starts with the first character that is not blank. -/
theorem words_cons {c : CodePoint} (hc : isBlank c = false) (cs : List CodePoint) :
    ∃ word more, words (c :: cs) = (c :: word) :: more := by
  cases cs with
  | nil => exact ⟨[], [], by simp [words, hc]⟩
  | cons d cs =>
      rw [words]
      simp only [hc]
      cases hd : isBlank d with
      | true => exact ⟨[], words (d :: cs), by simp⟩
      | false =>
          cases words (d :: cs) with
          | nil => exact ⟨[], [], by simp [extendFirst]⟩
          | cons word more => exact ⟨word, more, by simp [extendFirst]⟩

/-! ## Lines -/

theorem splitLines_plain (hne : cs ≠ []) (h : ∀ c ∈ cs, isLineBreak c = false) :
    splitLines cs = [cs] := by
  induction cs with
  | nil => exact absurd rfl hne
  | cons c cs ih =>
      obtain ⟨hc, hcs⟩ := List.forall_mem_cons.1 h
      have hcrlf : ∀ rest, c = '\r' → cs = .char '\n' :: rest → False := by
        rintro rest rfl -
        cases hc
      rw [splitLines.eq_3 c cs hcrlf, hc]
      cases cs with
      | nil => rfl
      | cons d cs =>
          rw [ih (by simp) hcs]
          rfl

/-- The pieces with breaks after them, of which there may be none at the end. Breaks are blank. -/
inductive Broken : List (List CodePoint) → List CodePoint → Prop
  | nil : Broken [] []
  | last (piece : List CodePoint) : Broken [piece] piece
  | cons {piece breaks cs : List CodePoint} {pieces : List (List CodePoint)}
      (hbreaks : ∀ c ∈ breaks, isBlank c = true) (h : Broken pieces cs) :
      Broken (piece :: pieces) (piece ++ (breaks ++ cs))

theorem Broken.extendFirst {pieces : List (List CodePoint)} (h : Broken pieces cs) (c : CodePoint) :
    Broken (extendFirst c pieces) (c :: cs) := by
  cases h with
  | nil => exact .last [c]
  | last => exact .last (c :: cs)
  | @cons piece breaks cs pieces hbreaks h =>
      have hcons : Broken ((c :: piece) :: pieces) ((c :: piece) ++ (breaks ++ cs)) :=
        .cons hbreaks h
      exact hcons

theorem broken_splitLines (cs : List CodePoint) : Broken (splitLines cs) cs := by
  induction cs using splitLines.induct with
  | case1 => exact .nil
  | case2 cs ih =>
      rw [splitLines]
      have hbreaks : ∀ c ∈ [CodePoint.char '\r', .char '\n'], isBlank c = true := by
        intro c hc
        simp only [List.mem_cons, List.not_mem_nil, or_false] at hc
        rcases hc with rfl | rfl
        · exact isBlank_of_isLineBreak rfl
        · exact isBlank_of_isLineBreak rfl
      have hcons : Broken ([] :: splitLines cs) ([] ++ ([.char '\r', .char '\n'] ++ cs)) :=
        .cons hbreaks ih
      exact hcons
  | case3 c cs hnot hc ih =>
      rw [splitLines, if_pos hc]
      · have hbreaks : ∀ d ∈ [c], isBlank d = true := by simpa using isBlank_of_isLineBreak hc
        have hcons : Broken ([] :: splitLines cs) ([] ++ ([c] ++ cs)) := .cons hbreaks ih
        exact hcons
      · exact hnot
  | case4 c cs hnot hc ih =>
      rw [splitLines, if_neg hc]
      · exact ih.extendFirst c
      · exact hnot

theorem Broken.blank {pieces : List (List CodePoint)} (h : Broken pieces cs)
    (hpieces : ∀ piece ∈ pieces, trim piece = []) : ∀ c ∈ cs, isBlank c = true := by
  induction h with
  | nil => simp
  | last piece => exact trim_eq_nil.1 (hpieces piece (by simp))
  | cons hbreaks _ ih =>
      have hpiece := trim_eq_nil.1 (hpieces _ List.mem_cons_self)
      have hrest := ih fun piece hmem => hpieces piece (List.mem_cons_of_mem _ hmem)
      intro c hc
      simp only [List.mem_append] at hc
      rcases hc with hc | hc | hc
      · exact hpiece c hc
      · exact hbreaks c hc
      · exact hrest c hc

/-- A text with one piece that is not blank is trimmed to what this piece is trimmed to. -/
theorem Broken.trim_eq {before after : List (List CodePoint)} {piece : List CodePoint}
    (h : Broken (before ++ piece :: after) cs) (hbefore : ∀ other ∈ before, trim other = [])
    (hafter : ∀ other ∈ after, trim other = []) : trim cs = trim piece := by
  induction before generalizing cs with
  | nil =>
      cases h with
      | last => rfl
      | cons hbreaks h =>
          have hrest := h.blank hafter
          apply trim_append_right
          intro c hc
          rcases List.mem_append.1 hc with hc | hc
          · exact hbreaks c hc
          · exact hrest c hc
  | cons first before ih =>
      have hfirst := trim_eq_nil.1 (hbefore first List.mem_cons_self)
      have hothers : ∀ other ∈ before, trim other = [] := fun other hmem =>
        hbefore other (List.mem_cons_of_mem _ hmem)
      generalize hpieces : first :: before ++ piece :: after = pieces at h
      cases h with
      | nil => simp at hpieces
      | last => simp at hpieces
      | cons hbreaks h =>
          obtain ⟨rfl, rfl⟩ := List.cons.inj hpieces
          rw [trim_append_left hfirst, trim_append_left hbreaks]
          exact ih h hothers

end LineScript.Text
