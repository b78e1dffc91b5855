import LineScript.Script.Outline

/-! # The segments of a script

`Segmentation` says which cuts of a script into consecutive segments are right, line by line and
without a cursor. There is exactly one for every list of lines, and it is the one that the
structural pass finds.
-/

namespace LineScript

namespace Segment

/-- The lines are cut into a body that meets `P`, a closing line, and the rest. -/
def Cut (P : List Line → Prop) (lines body : List Line) (closing : Line) : Prop :=
  ∃ rest, lines = body ++ closing :: rest ∧ P body ∧ isClosing closing = true

variable {P : List Line → Prop} {line first closing : Line} {lines body : List Line} {depth : Nat}

theorem not_cut_nil : ¬ Cut P [] body closing := by
  rintro ⟨rest, heq, -⟩
  simp at heq

theorem cut_cons_nil :
    Cut P (line :: lines) [] closing ↔ line = closing ∧ P [] ∧ isClosing line = true := by
  constructor
  · rintro ⟨rest, heq, hP, hclosing⟩
    obtain ⟨rfl, -⟩ := List.cons.inj heq
    exact ⟨rfl, hP, hclosing⟩
  · rintro ⟨rfl, hP, hclosing⟩
    exact ⟨lines, rfl, hP, hclosing⟩

theorem cut_cons_cons :
    Cut P (line :: lines) (first :: body) closing ↔
      line = first ∧ Cut (fun body => P (line :: body)) lines body closing := by
  constructor
  · rintro ⟨rest, heq, hP, hclosing⟩
    obtain ⟨rfl, rfl⟩ := List.cons.inj heq
    exact ⟨rfl, rest, rfl, hP, hclosing⟩
  · rintro ⟨rfl, rest, rfl, hP, hclosing⟩
    exact ⟨rest, rfl, hP, hclosing⟩

theorem cut_congr {Q : List Line → Prop} (h : ∀ body, P body ↔ Q body) :
    Cut P lines body closing ↔ Cut Q lines body closing := by
  unfold Cut
  simp only [h]

theorem map_cons_eq_some {found : Option (List Line × Line)} :
    found.map (fun f => (line :: f.1, f.2)) = some (first :: body, closing) ↔
      line = first ∧ found = some (body, closing) := by
  cases found with
  | none => simp
  | some f =>
      cases f with
      | mk inner last => simp [and_assoc]

/-! ## Blocks that end at the first closing brace -/

theorem functionBody?_eq_some :
    functionBody? lines = some (body, closing) ↔
      Cut (fun body => ∀ line ∈ body, isClosing line = false) lines body closing := by
  induction lines generalizing body with
  | nil => simp [functionBody?, not_cut_nil]
  | cons line lines ih =>
      rw [functionBody?]
      cases hline : isClosing line with
      | true =>
          cases body with
          | nil => simp [cut_cons_nil, hline]
          | cons first body =>
              rw [cut_cons_cons, cut_congr (Q := fun _ => False) (by simp [hline])]
              simp [Cut]
      | false =>
          cases body with
          | nil => simp [cut_cons_nil, hline]
          | cons first body =>
              rw [if_neg (by simp), map_cons_eq_some, cut_cons_cons, ih]
              simp [hline]

theorem functionBody?_eq_none :
    functionBody? lines = none ↔ ∀ line ∈ lines, isClosing line = false := by
  induction lines with
  | nil => simp [functionBody?]
  | cons line lines ih =>
      rw [functionBody?]
      cases hline : isClosing line with
      | true => simp [hline]
      | false => simp [hline, ih]

/-! ## Blocks that count braces -/

/-- The lines close the blocks that were open before them, `depth` in number, and those that they
open themselves, and no block besides. -/
def Closes (depth : Nat) (body : List Line) : Prop :=
  body.countP isClosing = body.countP (opensBlock ·.text) + depth ∧
    ∀ start, start <+: body → start.countP isClosing ≤ start.countP (opensBlock ·.text) + depth

theorem not_opensBlock (h : isClosing line = true) :
    opensBlock line.text = false := by
  have htext : line.text = "\x7d" := by simpa [isClosing] using h
  rw [htext]
  decide

theorem closes_nil : Closes depth [] ↔ depth = 0 := by
  simp [Closes]
  omega

private theorem forall_prefix_cons :
    (∀ start, start <+: line :: body → P start) ↔
      P [] ∧ ∀ start, start <+: body → P (line :: start) := by
  constructor
  · intro h
    exact ⟨h [] List.nil_prefix, fun start hs => h _ (List.cons_prefix_cons.2 ⟨rfl, hs⟩)⟩
  · rintro ⟨hnil, hcons⟩ start hs
    rcases List.prefix_cons_iff.1 hs with rfl | ⟨rest, rfl, hrest⟩
    · exact hnil
    · exact hcons rest hrest

theorem closes_cons_closing (hline : isClosing line = true) :
    Closes depth (line :: body) ↔ ∃ inner, depth = inner + 1 ∧ Closes inner body := by
  have hopens := not_opensBlock hline
  unfold Closes
  rw [forall_prefix_cons]
  simp only [List.countP_cons, hline, hopens, if_true, Bool.false_eq_true, if_false,
    List.countP_nil]
  constructor
  · rintro ⟨hcount, -, hstart⟩
    -- the line closes a block on its own, so one was open before it
    have hpos := hstart [] List.nil_prefix
    simp only [List.countP_nil] at hpos
    refine ⟨depth - 1, by omega, by omega, ?_⟩
    intro start hs
    have := hstart start hs
    omega
  · rintro ⟨inner, rfl, hcount, hstart⟩
    refine ⟨by omega, by omega, ?_⟩
    intro start hs
    have := hstart start hs
    omega

theorem closes_cons_other (hline : isClosing line = false) :
    Closes depth (line :: body) ↔
      Closes (if opensBlock line.text then depth + 1 else depth) body := by
  have hclosing : ∀ start : List Line,
      (line :: start).countP isClosing = start.countP isClosing := by
    simp [hline]
  have hopens : ∀ start : List Line,
      (line :: start).countP (opensBlock ·.text) + depth =
        start.countP (opensBlock ·.text) + if opensBlock line.text then depth + 1 else depth := by
    intro start
    rw [List.countP_cons]
    split
    · omega
    · omega
  unfold Closes
  rw [forall_prefix_cons]
  simp only [hclosing, hopens, List.countP_nil, Nat.zero_le, true_and]

theorem windowBody?_cons_other (hline : isClosing line = false) :
    windowBody? depth (line :: lines) =
      (windowBody? (if opensBlock line.text then depth + 1 else depth) lines).map
        fun found => (line :: found.1, found.2) := by
  cases depth with
  | zero => rw [windowBody?, if_neg (by simp [hline])]
  | succ depth => rw [windowBody?, if_neg (by simp [hline])]

theorem windowBody?_eq_some :
    windowBody? depth lines = some (body, closing) ↔ Cut (Closes depth) lines body closing := by
  induction lines generalizing depth body with
  | nil => simp [windowBody?, not_cut_nil]
  | cons line lines ih =>
      cases hline : isClosing line with
      | true =>
          cases depth with
          | zero =>
              rw [windowBody?, if_pos hline]
              cases body with
              | nil => simp [cut_cons_nil, closes_nil, hline]
              | cons first body =>
                  rw [cut_cons_cons, cut_congr fun _ => closes_cons_closing hline]
                  simp [Cut]
          | succ depth =>
              rw [windowBody?, if_pos hline]
              cases body with
              | nil => simp [cut_cons_nil, closes_nil]
              | cons first body =>
                  rw [map_cons_eq_some, cut_cons_cons,
                    cut_congr fun _ => closes_cons_closing hline, ih]
                  simp
      | false =>
          rw [windowBody?_cons_other hline]
          cases body with
          | nil => simp [cut_cons_nil, hline]
          | cons first body =>
              rw [map_cons_eq_some, cut_cons_cons, cut_congr fun _ => closes_cons_other hline, ih]

theorem windowBody?_eq_none :
    windowBody? depth lines = none ↔ ∀ body closing, ¬ Cut (Closes depth) lines body closing := by
  rw [Option.eq_none_iff_forall_ne_some]
  constructor
  · intro h body closing hcut
    exact h (body, closing) (windowBody?_eq_some.2 hcut)
  · intro h found hfound
    exact h found.1 found.2 (windowBody?_eq_some.1 hfound)

/-! ## Segments in their place -/

/-- The header opens no block in a place where the lines `after` follow it, because of the problem.
-/
inductive Faulty (header : Line) (after : List Line) : Problem → Prop
  | missingFunctionName (hf : isFunctionHeader header.text.toList = true)
      (hname : declaredName? header.text = none) : Faulty header after .missingFunctionName
  | missingFunctionBrace {name : Text} (hf : isFunctionHeader header.text.toList = true)
      (hname : declaredName? header.text = some name) (hbrace : .char '{' ∉ header.text.toList) :
      Faulty header after (.missingFunctionBrace name)
  | unterminatedFunction {name : Text} (hf : isFunctionHeader header.text.toList = true)
      (hname : declaredName? header.text = some name) (hbrace : .char '{' ∈ header.text.toList)
      (hafter : ∀ line ∈ after, isClosing line = false) :
      Faulty header after (.unterminatedFunction name)
  | missingWindowBrace (hf : isFunctionHeader header.text.toList = false)
      (hw : isWindowHeader header.text.toList = true) (hopens : opensBlock header.text = false)
      (hbody : inlineBody? header.text = none) : Faulty header after .missingWindowBrace
  | unterminatedWindow (hf : isFunctionHeader header.text.toList = false)
      (hw : isWindowHeader header.text.toList = true) (hopens : opensBlock header.text = true)
      (hafter : ∀ body closing, ¬ Cut (Closes 0) after body closing) :
      Faulty header after .unterminatedWindow

/-- The segment is right in a place where the lines `after` follow it. -/
inductive Fits : Segment → List Line → Prop
  | statement {line : Line} {after : List Line} (hf : isFunctionHeader line.text.toList = false)
      (hw : isWindowHeader line.text.toList = false) : Fits (.statement line) after
  | function {header closing : Line} {name : Text} {body after : List Line}
      (hf : isFunctionHeader header.text.toList = true)
      (hname : declaredName? header.text = some name) (hbrace : .char '{' ∈ header.text.toList)
      (hbody : ∀ line ∈ body, isClosing line = false) (hclosing : isClosing closing = true) :
      Fits (.function header name body closing) after
  | window {header closing : Line} {body after : List Line}
      (hf : isFunctionHeader header.text.toList = false)
      (hw : isWindowHeader header.text.toList = true) (hopens : opensBlock header.text = true)
      (hbody : Closes 0 body) (hclosing : isClosing closing = true) :
      Fits (.window header body closing) after
  | inlineWindow {header : Line} {body : List Text} {after : List Line}
      (hf : isFunctionHeader header.text.toList = false)
      (hw : isWindowHeader header.text.toList = true) (hopens : opensBlock header.text = false)
      (hbody : inlineBody? header.text = some body) : Fits (.inlineWindow header body) after
  | rejected {header : Line} {problem : Problem} {after : List Line}
      (hfaulty : Faulty header after problem) : Fits (.rejected header problem) after

theorem fits_ofFunctionHeader {header : Line} {rest : List Line}
    (hf : isFunctionHeader header.text.toList = true) :
    ∃ after, header :: rest = (ofFunctionHeader header rest).lines ++ after ∧
      (ofFunctionHeader header rest).Fits after := by
  unfold ofFunctionHeader
  cases hname : declaredName? header.text with
  | none => exact ⟨rest, rfl, .rejected (.missingFunctionName hf hname)⟩
  | some name =>
      simp only
      split
      · rename_i hbrace
        exact ⟨rest, rfl, .rejected (.missingFunctionBrace hf hname (by simpa using hbrace))⟩
      · rename_i hbrace
        have hbrace : .char '{' ∈ header.text.toList := by simpa using hbrace
        cases hbody : functionBody? rest with
        | none =>
            exact ⟨rest, rfl, .rejected
              (.unterminatedFunction hf hname hbrace (functionBody?_eq_none.1 hbody))⟩
        | some found =>
            obtain ⟨after, hrest, hopen, hclosing⟩ := functionBody?_eq_some.1 hbody
            refine ⟨after, ?_, .function hf hname hbrace hopen hclosing⟩
            simp [lines, hrest]

theorem fits_ofWindowHeader {header : Line} {rest : List Line}
    (hf : isFunctionHeader header.text.toList = false)
    (hw : isWindowHeader header.text.toList = true) :
    ∃ after, header :: rest = (ofWindowHeader header rest).lines ++ after ∧
      (ofWindowHeader header rest).Fits after := by
  unfold ofWindowHeader
  cases hopens : opensBlock header.text with
  | true =>
      rw [if_pos rfl]
      cases hbody : windowBody? 0 rest with
      | none =>
          exact ⟨rest, rfl, .rejected
            (.unterminatedWindow hf hw hopens (windowBody?_eq_none.1 hbody))⟩
      | some found =>
          obtain ⟨after, hrest, hcloses, hclosing⟩ := windowBody?_eq_some.1 hbody
          refine ⟨after, ?_, .window hf hw hopens hcloses hclosing⟩
          simp [lines, hrest]
  | false =>
      rw [if_neg (by simp)]
      cases hbody : inlineBody? header.text with
      | none => exact ⟨rest, rfl, .rejected (.missingWindowBrace hf hw hopens hbody)⟩
      | some body => exact ⟨rest, rfl, .inlineWindow hf hw hopens hbody⟩

/-- The segment that is found at a line is right in its place. -/
theorem fits_starting (line : Line) (rest : List Line) :
    ∃ after, line :: rest = (starting line rest).lines ++ after ∧
      (starting line rest).Fits after := by
  unfold starting
  cases hf : isFunctionHeader line.text.toList with
  | true =>
      rw [if_pos rfl]
      exact fits_ofFunctionHeader hf
  | false =>
      rw [if_neg (by simp)]
      cases hw : isWindowHeader line.text.toList with
      | true =>
          rw [if_pos rfl]
          exact fits_ofWindowHeader hf hw
      | false =>
          rw [if_neg (by simp)]
          exact ⟨rest, rfl, .statement hf hw⟩

theorem Faulty.rejected_eq {header : Line} {after : List Line} {problem : Problem}
    (h : Faulty header after problem) : .rejected header problem = starting header after := by
  cases h with
  | missingFunctionName hf hname => simp [starting, hf, ofFunctionHeader, hname]
  | missingFunctionBrace hf hname hbrace => simp [starting, hf, ofFunctionHeader, hname, hbrace]
  | unterminatedFunction hf hname hbrace hafter =>
      simp [starting, hf, ofFunctionHeader, hname, hbrace, functionBody?_eq_none.2 hafter]
  | missingWindowBrace hf hw hopens hbody =>
      simp [starting, hf, hw, ofWindowHeader, hopens, hbody]
  | unterminatedWindow hf hw hopens hafter =>
      simp [starting, hf, hw, ofWindowHeader, hopens, windowBody?_eq_none.2 hafter]

/-- No other segment is right in its place. -/
theorem Fits.eq_starting {segment : Segment} {after : List Line} (h : segment.Fits after)
    (heq : line :: lines = segment.lines ++ after) : segment = starting line lines := by
  cases h with
  | statement hf hw =>
      obtain ⟨rfl, -⟩ := List.cons.inj heq
      simp [starting, hf, hw]
  | @function header closing name body _ hf hname hbrace hbody hclosing =>
      obtain ⟨rfl, rfl⟩ := List.cons.inj heq
      have hfound : functionBody? (body ++ closing :: after) = some (body, closing) :=
        functionBody?_eq_some.2 ⟨after, rfl, hbody, hclosing⟩
      simp [starting, hf, ofFunctionHeader, hname, hbrace, hfound]
  | @window header closing body _ hf hw hopens hbody hclosing =>
      obtain ⟨rfl, rfl⟩ := List.cons.inj heq
      have hfound : windowBody? 0 (body ++ closing :: after) = some (body, closing) :=
        windowBody?_eq_some.2 ⟨after, rfl, hbody, hclosing⟩
      simp [starting, hf, hw, ofWindowHeader, hopens, hfound]
  | inlineWindow hf hw hopens hbody =>
      obtain ⟨rfl, -⟩ := List.cons.inj heq
      simp [starting, hf, hw, ofWindowHeader, hopens, hbody]
  | rejected hfaulty =>
      obtain ⟨rfl, rfl⟩ := List.cons.inj heq
      exact hfaulty.rejected_eq

theorem length_lines (segment : Segment) : segment.lines.length = segment.extra + 1 := by
  cases segment with
  | statement line => rfl
  | function header name body closing => simp [lines, extra]
  | window header body closing => simp [lines, extra]
  | inlineWindow header body => rfl
  | rejected header problem => rfl

/-! ## Whole scripts -/

/-- The segments follow one another, take up all the lines, and each is right in its place. -/
inductive Segmentation : List Line → List Segment → Prop
  | nil : Segmentation [] []
  | cons {segment : Segment} {after : List Line} {segments : List Segment}
      (hfits : segment.Fits after) (hafter : Segmentation after segments) :
      Segmentation (segment.lines ++ after) (segment :: segments)

theorem ofLinesAfter_eq (skip : Nat) (lines : List Line) :
    ofLinesAfter skip lines = ofLines (lines.drop skip) := by
  induction lines generalizing skip with
  | nil => cases skip <;> rfl
  | cons line lines ih =>
      cases skip with
      | zero => rfl
      | succ skip => exact ih skip

theorem ofLines_cons {after : List Line} (line : Line) (rest : List Line)
    (heq : line :: rest = (starting line rest).lines ++ after) :
    ofLines (line :: rest) = starting line rest :: ofLines after := by
  have hdrop : rest.drop (starting line rest).extra = after := by
    have h := congrArg (List.drop ((starting line rest).extra + 1)) heq
    rwa [List.drop_succ_cons, ← length_lines, List.drop_left] at h
  change starting line rest :: ofLinesAfter (starting line rest).extra rest = _
  rw [ofLinesAfter_eq, hdrop]

theorem lines_ne_nil (segment : Segment) : segment.lines ≠ [] := by
  cases segment <;> simp [lines]

theorem segmentation_ofLines (lines : List Line) : Segmentation lines (ofLines lines) := by
  induction hn : lines.length using Nat.strongRecOn generalizing lines with
  | ind n ih =>
      cases lines with
      | nil => exact .nil
      | cons line rest =>
          obtain ⟨after, heq, hfits⟩ := fits_starting line rest
          have hlt : after.length < n := by
            have hlen := congrArg List.length heq
            rw [List.length_append, length_lines] at hlen
            omega
          rw [ofLines_cons line rest heq, heq]
          exact .cons hfits (ih after.length hlt after rfl)

/-- A segmentation is the one that is found. -/
theorem Segmentation.eq_ofLines {segments : List Segment} (h : Segmentation lines segments) :
    segments = ofLines lines := by
  induction h with
  | nil => rfl
  | @cons segment after segments hfits hafter ih =>
      cases heq : segment.lines ++ after with
      | nil => simp [lines_ne_nil] at heq
      | cons line rest =>
          have hstart := hfits.eq_starting heq.symm
          rw [ofLines_cons line rest (by rw [← hstart]; exact heq.symm), ← hstart, ih]

/-- The function takes the only closing line, so the window is left open and rejected. -/
example :
    ofLines [{ text := "@NEW WINDOW \x7b" }, { text := "function f \x7b" }, { text := "\x7d" }] =
      [.rejected { text := "@NEW WINDOW \x7b" } .unterminatedWindow,
        .function { text := "function f \x7b" } "f" [] { text := "\x7d" }] := by
  rfl

theorem Segmentation.flatMap_lines {segments : List Segment} (h : Segmentation lines segments) :
    segments.flatMap Segment.lines = lines := by
  induction h with
  | nil => rfl
  | cons _ _ ih => rw [List.flatMap_cons, ih]

theorem Segmentation.fits {before rest : List Segment} {segment : Segment}
    (h : Segmentation lines (before ++ segment :: rest)) :
    segment.Fits (rest.flatMap Segment.lines) := by
  induction before generalizing lines with
  | nil =>
      cases h with
      | cons hfits hafter =>
          rw [hafter.flatMap_lines]
          exact hfits
  | cons first before ih =>
      cases h with
      | cons _ hafter => exact ih hafter

theorem Fits.rejected_iff {segment : Segment} {after later : List Line} {header : Line}
    {problem : Problem} (h : segment.Fits after)
    (heq : header :: later = segment.lines ++ after) :
    segment = .rejected header problem ↔ Faulty header later problem := by
  constructor
  · rintro rfl
    obtain ⟨-, rfl⟩ := List.cons.inj heq
    cases h with
    | rejected hfaulty => exact hfaulty
  · intro hfaulty
    rw [h.eq_starting heq]
    exact hfaulty.rejected_eq.symm

end Segment

/-! ## What the pass finds -/

namespace Table

/-- The last of some functions of a name, or else what the table holds under it. -/
theorem get?_foldl_put (table : Table Routine) (routines : List Routine) (name : Text) :
    (routines.foldl (fun table routine => table.put routine.name routine) table).get? name =
      ((routines.filter (·.name = name)).getLast?).or (table.get? name) := by
  induction routines generalizing table with
  | nil => simp
  | cons routine routines ih =>
      rw [List.foldl_cons, ih, get?_put]
      by_cases h : routine.name = name
      · simp [h, List.getLast?_cons]
      · simp [h]

end Table

namespace Outline

/-- Every segment goes to its own part of the outline, in order. -/
theorem addAll_finds (outline : Outline) (index : Nat) (segments : List Segment) :
    let found := outline.addAll index segments
    found.statements.toList = outline.statements.toList ++ segments.filterMap Segment.statement? ∧
    found.windows.toList.map (·.body) = outline.windows.toList.map (·.body) ++
      (segments.filterMap Segment.window?).map (·.2) ∧
    found.problems.toList = outline.problems.toList ++ segments.filterMap Segment.diagnostic? ∧
    found.functions = (segments.filterMap Segment.function?).foldl
      (fun table routine => table.put routine.name routine) outline.functions := by
  induction segments generalizing outline index with
  | nil => simp [addAll]
  | cons segment segments ih =>
      obtain ⟨hstatements, hwindows, hproblems, hfunctions⟩ :=
        ih (outline.add index segment) (index + segment.extra + 1)
      refine ⟨?_, ?_, ?_, ?_⟩
      · rw [addAll, hstatements]
        cases segment <;> simp [add, Segment.statement?, List.filterMap_cons]
      · rw [addAll, hwindows]
        cases segment <;> simp [add, Segment.window?, List.filterMap_cons]
      · rw [addAll, hproblems]
        cases segment <;> simp [add, Segment.diagnostic?, List.filterMap_cons]
      · rw [addAll, hfunctions]
        cases segment <;> rfl

end Outline

end LineScript
