import LineScript.Proofs.Script.Scan
import LineScript.Proofs.Script.Segmentation
import LineScript.Proofs.Table
import LineScript.Script.Check
import Mathlib.Data.List.Pairwise

/-! # The order of a check

Where the lines of a script are numbered in order, segments are apart from each other, and so are
the statements and the bodies of the functions that are left in the end. A check therefore reports
the problems of blocks in strictly increasing order, and after them the unknown commands in the same
way.
-/

namespace LineScript

def Problem.isStructural : Problem → Bool
  | .missingFunctionName | .missingFunctionBrace _ | .unterminatedFunction _
  | .missingWindowBrace | .unterminatedWindow => true
  | _ => false

/-- The codes of problems of blocks start with the same two characters. -/
def Diagnostic.isStructural (d : Diagnostic) : Bool :=
  d.code.toList.take 2 = ['E', '1']

theorem Problem.isStructural_diagnostic (problem : Problem) :
    problem.diagnostic.isStructural = problem.isStructural := by
  cases problem <;> simp [Diagnostic.isStructural, diagnostic, code, isStructural]

theorem Problem.isStructural_on (problem : Problem) (line : Line) :
    (problem.on line).isStructural = problem.isStructural :=
  problem.isStructural_diagnostic

theorem Location.Before.ne {a b : Location} (h : a.Before b) : a.line ≠ b.line := by
  obtain ⟨m, n, ha, hb, hlt⟩ := h
  rw [ha, hb]
  simp only [ne_eq, Option.some.injEq]
  omega

/-! ## Segments -/

namespace Segment

/-- No line of the one segment has the number of a line of the other. -/
def Apart (a b : Segment) : Prop :=
  ∀ x ∈ a.lines, ∀ y ∈ b.lines, x.location.line ≠ y.location.line

instance : Std.Symm Apart where
  symm _ _ h y hy x hx := (h x hx y hy).symm

variable {ls : List Line} {segment other : Segment}

theorem mem_of_mem_lines (hs : segment ∈ ofLines ls) {line : Line} (hl : line ∈ segment.lines) :
    line ∈ ls := by
  rw [← (segmentation_ofLines ls).flatMap_lines]
  exact List.mem_flatMap.2 ⟨segment, hs, hl⟩

theorem pairwise_ofLines {R : Line → Line → Prop} (h : ls.Pairwise R) :
    (∀ segment ∈ ofLines ls, segment.lines.Pairwise R) ∧
      (ofLines ls).Pairwise fun a b => ∀ x ∈ a.lines, ∀ y ∈ b.lines, R x y := by
  have hlines := (segmentation_ofLines ls).flatMap_lines
  rw [← List.pairwise_flatMap, hlines]
  exact h

theorem apart_of_mem (hn : Line.Numbered ls) (hs : segment ∈ ofLines ls) (ho : other ∈ ofLines ls)
    (hne : segment ≠ other) : segment.Apart other := by
  have hapart : (ofLines ls).Pairwise Apart :=
    (pairwise_ofLines hn.order).2.imp fun h x hx y hy => (h x hx y hy).ne
  exact hapart.forall hs ho hne

theorem statement?_eq_some {line : Line} :
    segment.statement? = some line ↔ segment = .statement line := by
  cases segment <;> simp [statement?]

theorem function?_eq_some {routine : Routine} :
    segment.function? = some routine ↔
      ∃ header closing, segment = .function header routine.name routine.body closing ∧
        routine.location = header.location := by
  cases routine with
  | mk name body location =>
      cases segment with
      | function header name' body' closing => simp [function?, eq_comm, and_assoc]
      | _ => simp [function?]

theorem diagnostic?_eq_some {d : Diagnostic} :
    segment.diagnostic? = some d ↔
      ∃ header problem, segment = .rejected header problem ∧ problem.on header = d := by
  cases segment with
  | rejected header problem =>
      constructor
      · intro h
        exact ⟨header, problem, rfl, Option.some.inj h⟩
      · rintro ⟨_, _, heq, rfl⟩
        cases heq
        rfl
  | _ => simp [diagnostic?]

theorem isStructural_of_mem {header : Line} {problem : Problem}
    (h : .rejected header problem ∈ ofLines ls) : problem.isStructural = true := by
  obtain ⟨before, rest, hsplit⟩ := List.append_of_mem h
  have hseg := segmentation_ofLines ls
  rw [hsplit] at hseg
  cases hseg.fits with
  | rejected hfaulty => cases hfaulty <;> rfl

end Segment

/-! ## Functions that are left in the end -/

namespace Table

theorem mem_putEntry_cases {α : Type} {name : Text} {value : α} {entries : List (Text × α)}
    {entry : Text × α} (h : entry ∈ putEntry name value entries) :
    entry = (name, value) ∨ entry ∈ entries := by
  induction entries with
  | nil => simpa [putEntry] using h
  | cons first rest ih =>
      rw [putEntry] at h
      split at h
      · rcases List.mem_cons.1 h with rfl | h
        · exact .inl rfl
        · exact .inr (List.mem_cons_of_mem _ h)
      · rcases List.mem_cons.1 h with rfl | h
        · exact .inr List.mem_cons_self
        · rcases ih h with rfl | h
          · exact .inl rfl
          · exact .inr (List.mem_cons_of_mem _ h)

theorem mem_foldl_put {routines : List Routine} {table : Table Routine} {entry : Text × Routine}
    (h : entry ∈
      (routines.foldl (fun table routine => table.put routine.name routine) table).entries) :
    (entry.2 ∈ routines ∧ entry.1 = entry.2.name) ∨ entry ∈ table.entries := by
  induction routines generalizing table with
  | nil => exact .inr h
  | cons routine routines ih =>
      rcases ih h with ⟨hmem, hname⟩ | hmem
      · exact .inl ⟨List.mem_cons_of_mem _ hmem, hname⟩
      · rcases mem_putEntry_cases hmem with rfl | hmem
        · exact .inl ⟨List.mem_cons_self, rfl⟩
        · exact .inr hmem

theorem distinct_foldl_put {routines : List Routine} {table : Table Routine}
    (h : Distinct table.entries) :
    Distinct
      (routines.foldl (fun table routine => table.put routine.name routine) table).entries := by
  induction routines generalizing table with
  | nil => exact h
  | cons routine routines ih => exact ih (distinct_putEntry routine.name routine h)

end Table

namespace Outline

variable {ls : List Line}

theorem statements_ofLines (ls : List Line) :
    (ofLines ls).statements.toList = (Segment.ofLines ls).filterMap Segment.statement? :=
  (addAll_finds {} 0 (Segment.ofLines ls)).1

theorem problems_ofLines (ls : List Line) :
    (ofLines ls).problems.toList = (Segment.ofLines ls).filterMap Segment.diagnostic? :=
  (addAll_finds {} 0 (Segment.ofLines ls)).2.2.1

theorem functions_ofLines (ls : List Line) :
    (ofLines ls).functions = ((Segment.ofLines ls).filterMap Segment.function?).foldl
      (fun table routine => table.put routine.name routine) {} :=
  (addAll_finds {} 0 (Segment.ofLines ls)).2.2.2

theorem mem_statements {line : Line} :
    line ∈ (ofLines ls).statements.toList ↔ .statement line ∈ Segment.ofLines ls := by
  rw [statements_ofLines, List.mem_filterMap]
  constructor
  · rintro ⟨segment, hmem, hline⟩
    rw [Segment.statement?_eq_some.1 hline] at hmem
    exact hmem
  · intro hmem
    exact ⟨_, hmem, rfl⟩

theorem segment_of_function {entry : Text × Routine}
    (h : entry ∈ (ofLines ls).functions.entries) :
    entry.1 = entry.2.name ∧
      ∃ header closing, .function header entry.2.name entry.2.body closing ∈
        Segment.ofLines ls := by
  rw [functions_ofLines] at h
  rcases Table.mem_foldl_put h with ⟨hmem, hname⟩ | hmem
  · obtain ⟨segment, hsegment, hroutine⟩ := List.mem_filterMap.1 hmem
    obtain ⟨header, closing, rfl, -⟩ := Segment.function?_eq_some.1 hroutine
    exact ⟨hname, header, closing, hsegment⟩
  · cases hmem

theorem distinct_functions (ls : List Line) : Table.Distinct (ofLines ls).functions.entries := by
  rw [functions_ofLines]
  exact Table.distinct_foldl_put List.nodup_nil

/-! ## The lines that a check classifies -/

theorem mem_commandLines {outline : Outline} {line : Line} :
    line ∈ outline.commandLines ↔
      line ∈ outline.statements.toList ∨
        ∃ routine ∈ outline.functions.values, line ∈ routine.body := by
  unfold commandLines
  rw [(List.mergeSort_perm _ _).mem_iff, List.mem_append, List.mem_flatMap]

theorem mem_of_mem_commandLines {line : Line} (h : line ∈ (ofLines ls).commandLines) :
    line ∈ ls := by
  rcases mem_commandLines.1 h with h | ⟨routine, hroutine, h⟩
  · exact Segment.mem_of_mem_lines (mem_statements.1 h) (by simp [Segment.lines])
  · obtain ⟨entry, hentry, rfl⟩ := List.mem_map.1 hroutine
    obtain ⟨-, header, closing, hsegment⟩ := segment_of_function hentry
    exact Segment.mem_of_mem_lines hsegment (by simp [Segment.lines, h])

/-- Statements and the bodies of the functions that are left have different numbers. -/
theorem statement_apart_body (hn : Line.Numbered ls) {line other : Line} {routine : Routine}
    (hline : line ∈ (ofLines ls).statements.toList)
    (hroutine : routine ∈ (ofLines ls).functions.values) (hother : other ∈ routine.body) :
    line.location.line ≠ other.location.line := by
  obtain ⟨entry, hentry, rfl⟩ := List.mem_map.1 hroutine
  obtain ⟨-, header, closing, hsegment⟩ := segment_of_function hentry
  have hapart := Segment.apart_of_mem hn (mem_statements.1 hline) hsegment (by simp)
  exact hapart line (by simp [Segment.lines]) other (by simp [Segment.lines, hother])

theorem statements_apart (hn : Line.Numbered ls) :
    (ofLines ls).statements.toList.Pairwise fun a b => a.location.line ≠ b.location.line := by
  rw [statements_ofLines]
  refine List.Pairwise.filterMap _ ?_ (Segment.pairwise_ofLines hn.order).2
  intro a b h x hx y hy
  rw [Segment.statement?_eq_some.1 hx, Segment.statement?_eq_some.1 hy] at h
  exact (h x (by simp [Segment.lines]) y (by simp [Segment.lines])).ne

theorem bodies_apart (hn : Line.Numbered ls) :
    ((ofLines ls).functions.values.flatMap (·.body)).Pairwise fun a b =>
      a.location.line ≠ b.location.line := by
  rw [List.pairwise_flatMap]
  constructor
  · intro routine hroutine
    obtain ⟨entry, hentry, rfl⟩ := List.mem_map.1 hroutine
    obtain ⟨-, header, closing, hsegment⟩ := segment_of_function hentry
    have hlines := (Segment.pairwise_ofLines hn.order).1 _ hsegment
    have hbody : entry.2.body.Pairwise fun a b => a.location.Before b.location :=
      hlines.sublist ((List.sublist_append_left _ _).trans (List.sublist_cons_self _ _))
    exact hbody.imp fun h => h.ne
  · -- functions of different names come from different segments
    have hnames : (ofLines ls).functions.entries.Pairwise fun a b => a.1 ≠ b.1 :=
      List.pairwise_map.1 (distinct_functions ls)
    refine List.pairwise_map.2 (hnames.imp_of_mem ?_)
    intro a b ha hb hne x hx y hy
    obtain ⟨hname, header, closing, hsegment⟩ := segment_of_function ha
    obtain ⟨hname', header', closing', hsegment'⟩ := segment_of_function hb
    have hdifferent : Segment.function header a.2.name a.2.body closing ≠
        .function header' b.2.name b.2.body closing' := by
      intro heq
      injection heq with _ hsame
      exact hne (hname.trans (hsame.trans hname'.symm))
    have hapart := Segment.apart_of_mem hn hsegment hsegment' hdifferent
    exact hapart x (by simp [Segment.lines, hx]) y (by simp [Segment.lines, hy])

/-- A check classifies lines in strictly increasing order. -/
theorem before_commandLines (hn : Line.Numbered ls) :
    (ofLines ls).commandLines.Pairwise fun a b => a.location.Before b.location := by
  have hsorted : (ofLines ls).commandLines.Pairwise fun a b =>
      a.location.line.getD 0 ≤ b.location.line.getD 0 := by
    have h := @List.pairwise_mergeSort Line
      (fun a b => decide (a.location.line.getD 0 ≤ b.location.line.getD 0))
      (fun a b c hab hbc => by simp only [decide_eq_true_eq] at hab hbc ⊢; omega)
      (fun a b => by simp only [Bool.or_eq_true, decide_eq_true_eq]; omega)
      ((ofLines ls).statements.toList ++ (ofLines ls).functions.values.flatMap (·.body))
    exact h.imp fun hle => of_decide_eq_true hle
  have hapart : (ofLines ls).commandLines.Pairwise fun a b =>
      a.location.line ≠ b.location.line := by
    unfold commandLines
    rw [(List.mergeSort_perm _ _).pairwise_iff fun h => h.symm, List.pairwise_append]
    refine ⟨statements_apart hn, bodies_apart hn, ?_⟩
    intro a ha b hb
    obtain ⟨routine, hroutine, hbody⟩ := List.mem_flatMap.1 hb
    exact statement_apart_body hn ha hroutine hbody
  refine (hsorted.and hapart).imp_of_mem ?_
  intro a b ha hb h
  obtain ⟨m, hm⟩ := hn.number a (mem_of_mem_commandLines ha)
  obtain ⟨n, hnumber⟩ := hn.number b (mem_of_mem_commandLines hb)
  refine ⟨m, n, hm, hnumber, ?_⟩
  rw [hm, hnumber] at h
  simp only [Option.getD_some, ne_eq, Option.some.injEq] at h
  omega

/-! ## What a check reports -/

theorem unknown?_eq_some {line : Line} {d : Diagnostic} (h : unknown? line = some d) :
    d.code = "E201" ∧ d.location = line.location := by
  unfold unknown? at h
  simp only at h
  split at h
  · cases h
    exact ⟨rfl, rfl⟩
  · cases h

theorem diagnostics_check (outline : Outline) :
    outline.check.diagnostics.toList =
      outline.problems.toList ++ outline.commandLines.filterMap unknown? := by
  simp [check]

theorem isStructural_of_mem_problems {d : Diagnostic} (h : d ∈ (ofLines ls).problems.toList) :
    d.isStructural = true := by
  rw [problems_ofLines] at h
  obtain ⟨segment, hsegment, hd⟩ := List.mem_filterMap.1 h
  obtain ⟨header, problem, rfl, rfl⟩ := Segment.diagnostic?_eq_some.1 hd
  rw [Problem.isStructural_on]
  exact Segment.isStructural_of_mem hsegment

theorem not_mem_problems {d : Diagnostic} (hcode : d.code = "E201") :
    d ∉ (ofLines ls).problems.toList := by
  intro hd
  have hstructural := isStructural_of_mem_problems hd
  simp [Diagnostic.isStructural, hcode] at hstructural

theorem before_problems (hn : Line.Numbered ls) :
    (ofLines ls).problems.toList.Pairwise fun a b => a.location.Before b.location := by
  rw [problems_ofLines]
  refine List.Pairwise.filterMap _ ?_ (Segment.pairwise_ofLines hn.order).2
  intro a b h d hd d' hd'
  obtain ⟨header, problem, rfl, rfl⟩ := Segment.diagnostic?_eq_some.1 hd
  obtain ⟨header', problem', rfl, rfl⟩ := Segment.diagnostic?_eq_some.1 hd'
  exact h header (by simp [Segment.lines]) header' (by simp [Segment.lines])

theorem before_unknown (hn : Line.Numbered ls) :
    ((ofLines ls).commandLines.filterMap unknown?).Pairwise fun a b =>
      a.location.Before b.location := by
  refine List.Pairwise.filterMap _ ?_ (before_commandLines hn)
  intro a b h d hd d' hd'
  rw [(unknown?_eq_some hd).2, (unknown?_eq_some hd').2]
  exact h

/-- Each statement has its own place, so no two of them give the same diagnostic. -/
theorem nodup_unknown_statements (hn : Line.Numbered ls) :
    ((ofLines ls).statements.toList.filterMap unknown?).Nodup := by
  refine List.Pairwise.filterMap _ ?_ (statements_apart hn)
  rintro a b hapart d hd _ hd' rfl
  rw [← (unknown?_eq_some hd).2, ← (unknown?_eq_some hd').2] at hapart
  exact hapart rfl

theorem severity_check {d : Diagnostic} (h : d ∈ (ofLines ls).check.diagnostics) :
    d.severity = .error := by
  rw [← Array.mem_toList_iff, diagnostics_check, problems_ofLines] at h
  rcases List.mem_append.1 h with h | h
  · obtain ⟨segment, -, hd⟩ := List.mem_filterMap.1 h
    obtain ⟨header, problem, -, rfl⟩ := Segment.diagnostic?_eq_some.1 hd
    rfl
  · obtain ⟨line, -, hd⟩ := List.mem_filterMap.1 h
    unfold unknown? at hd
    simp only at hd
    split at hd
    · cases hd
      rfl
    · cases hd

theorem diagnostics_eq_nil_of_check (h : (ofLines ls).check.hasErrors = false) :
    (ofLines ls).check.diagnostics.toList = [] := by
  have hcount : (ofLines ls).check.errorCount = (ofLines ls).check.diagnostics.size :=
    (Report.counted_ofList _).eq_size fun d hd => severity_check (Array.mem_toList_iff.1 hd)
  have hnone : (ofLines ls).check.errorCount = 0 := by
    simpa [Report.hasErrors] using h
  rw [← List.length_eq_zero_iff, Array.length_toList, ← hcount, hnone]

end Outline

end LineScript
