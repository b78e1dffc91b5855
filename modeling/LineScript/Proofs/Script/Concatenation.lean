import LineScript.Proofs.Script.Check
import Mathlib.Data.List.Forall2

/-! # Scripts one after the other

A header looks ahead for the line that closes its block. Only a header that finds none depends on
where the script ends, so a script that leaves no block open is cut into the same segments whatever
follows it. The same goes for a segment that is moved to another place between segments.
-/

namespace LineScript

/-! ## Segments that do not depend on what follows -/

namespace Segment

def isUnclosed : Segment → Bool
  | .rejected _ (.unterminatedFunction _) => true
  | .rejected _ .unterminatedWindow => true
  | _ => false

/-- The segment is right wherever it stands. -/
def Settled (segment : Segment) : Prop :=
  ∀ after, segment.Fits after

theorem Faulty.settled {header : Line} {after : List Line} {problem : Problem}
    (h : Faulty header after problem)
    (hclosed : (Segment.rejected header problem).isUnclosed = false) (other : List Line) :
    Faulty header other problem := by
  cases h with
  | missingFunctionName hf hname => exact .missingFunctionName hf hname
  | missingFunctionBrace hf hname hbrace => exact .missingFunctionBrace hf hname hbrace
  | unterminatedFunction => cases hclosed
  | missingWindowBrace hf hw hopens hbody => exact .missingWindowBrace hf hw hopens hbody
  | unterminatedWindow => cases hclosed

/-- Only a header without a closing line depends on the lines after it. -/
theorem Fits.settled {segment : Segment} {after : List Line} (h : segment.Fits after)
    (hclosed : segment.isUnclosed = false) : segment.Settled := by
  intro other
  cases h with
  | statement hf hw => exact .statement hf hw
  | function hf hname hbrace hbody hclosing => exact .function hf hname hbrace hbody hclosing
  | window hf hw hopens hbody hclosing => exact .window hf hw hopens hbody hclosing
  | inlineWindow hf hw hopens hbody => exact .inlineWindow hf hw hopens hbody
  | rejected hfaulty => exact .rejected (hfaulty.settled hclosed other)

theorem Segmentation.append {segments more : List Segment} {rest : List Line}
    (hsettled : ∀ segment ∈ segments, segment.Settled) (hrest : Segmentation rest more) :
    Segmentation (segments.flatMap Segment.lines ++ rest) (segments ++ more) := by
  induction segments with
  | nil => exact hrest
  | cons segment segments ih =>
      obtain ⟨hfirst, hothers⟩ := List.forall_mem_cons.1 hsettled
      rw [List.flatMap_cons, List.append_assoc]
      exact .cons (hfirst _) (ih hothers)

/-- Settled segments are found again when their lines are put together. -/
theorem ofLines_flatMap_append {segments : List Segment}
    (hsettled : ∀ segment ∈ segments, segment.Settled) (rest : List Line) :
    ofLines (segments.flatMap Segment.lines ++ rest) = segments ++ ofLines rest :=
  (Segmentation.append hsettled (segmentation_ofLines rest)).eq_ofLines.symm

theorem ofLines_statements {ls : List Line}
    (h : ∀ line ∈ ls, isFunctionHeader line.text.toList = false ∧
      isWindowHeader line.text.toList = false) :
    ofLines ls = ls.map .statement := by
  have hcut : Segmentation ls (ls.map .statement) := by
    induction ls with
    | nil => exact .nil
    | cons line ls ih =>
        obtain ⟨⟨hfunction, hwindow⟩, hls⟩ := List.forall_mem_cons.1 h
        exact .cons (.statement hfunction hwindow) (ih hls)
  exact hcut.eq_ofLines.symm

end Segment

/-- No block is left open: neither a function nor a window lacks its closing line. -/
def Outline.Closed (outline : Outline) : Prop :=
  ∀ d ∈ outline.problems, d.code ≠ "E103" ∧ d.code ≠ "E105"

instance (outline : Outline) : Decidable outline.Closed :=
  inferInstanceAs (Decidable (∀ d ∈ outline.problems, d.code ≠ "E103" ∧ d.code ≠ "E105"))

variable {ls : List Line}

theorem Outline.Closed.settled (h : (Outline.ofLines ls).Closed) :
    ∀ segment ∈ Segment.ofLines ls, segment.Settled := by
  intro segment hmem
  have hclosed : segment.isUnclosed = false := by
    rw [← Bool.not_eq_true]
    intro hunclosed
    have hproblem : ∀ d, segment.diagnostic? = some d → d.code ≠ "E103" ∧ d.code ≠ "E105" := by
      intro d hd
      apply h d
      rw [← Array.mem_toList_iff, Outline.problems_ofLines]
      exact List.mem_filterMap.2 ⟨segment, hmem, hd⟩
    unfold Segment.isUnclosed at hunclosed
    split at hunclosed
    · exact (hproblem _ rfl).1 rfl
    · exact (hproblem _ rfl).2 rfl
    · cases hunclosed
  obtain ⟨before, rest, hsplit⟩ := List.append_of_mem hmem
  have hseg := Segment.segmentation_ofLines ls
  rw [hsplit] at hseg
  exact hseg.fits.settled hclosed

/-- What follows a script that leaves no block open is cut as if it stood alone. -/
theorem Segment.ofLines_append (h : (Outline.ofLines ls).Closed) (rest : List Line) :
    ofLines (ls ++ rest) = ofLines ls ++ ofLines rest := by
  have hlines := (segmentation_ofLines ls).flatMap_lines
  have happend := ofLines_flatMap_append h.settled rest
  rwa [hlines] at happend

/-! ## Outlines -/

def WindowBlock.shift (count : Nat) (w : WindowBlock) : WindowBlock :=
  { w with index := count + w.index }

namespace Outline

theorem addAll_append (outline : Outline) (index : Nat) (segments more : List Segment) :
    outline.addAll index (segments ++ more) =
      (outline.addAll index segments).addAll
        (index + (segments.flatMap Segment.lines).length) more := by
  induction segments generalizing outline index with
  | nil => rfl
  | cons segment segments ih =>
      have hlength := segment.length_lines
      simp only [List.cons_append, addAll]
      rw [ih, List.flatMap_cons, List.length_append]
      congr 1
      omega

theorem windows_add (outline : Outline) (index : Nat) (segment : Segment) :
    (outline.add index segment).windows =
      outline.windows ++ (({} : Outline).add 0 segment).windows.map (WindowBlock.shift index) := by
  cases segment <;> simp [add, WindowBlock.shift]

/-- Windows are found in the same order from every place on, with their own places counted from
there. -/
theorem windows_addAll (outline : Outline) (index : Nat) (segments : List Segment) :
    (outline.addAll index segments).windows =
      outline.windows ++ (({} : Outline).addAll 0 segments).windows.map
        (WindowBlock.shift index) := by
  induction segments generalizing outline index with
  | nil => simp [addAll]
  | cons segment segments ih =>
      have hshift : WindowBlock.shift (index + segment.extra + 1) =
          WindowBlock.shift index ∘ WindowBlock.shift (0 + segment.extra + 1) := by
        funext w
        simp only [Function.comp_apply, WindowBlock.shift, WindowBlock.mk.injEq, true_and]
        omega
      rw [addAll, addAll, ih, ih (({} : Outline).add 0 segment), windows_add, Array.map_append,
        Array.map_map, ← hshift, Array.append_assoc]

variable {ls : List Line}

theorem windows_ofLines_append (h : (ofLines ls).Closed) (rest : List Line) :
    (ofLines (ls ++ rest)).windows =
      (ofLines ls).windows ++ (ofLines rest).windows.map (WindowBlock.shift ls.length) := by
  have hlines := (Segment.segmentation_ofLines ls).flatMap_lines
  unfold ofLines
  rw [Segment.ofLines_append h, addAll_append, hlines, windows_addAll, Nat.zero_add]

end Outline

theorem Table.update_foldl_put (table more : Table Routine) (hmore : Distinct more.entries)
    (routines : List Routine) :
    table.update (routines.foldl (fun table routine => table.put routine.name routine) more) =
      routines.foldl (fun table routine => table.put routine.name routine) (table.update more) := by
  induction routines generalizing more with
  | nil => rfl
  | cons routine routines ih =>
      have hput : Distinct (more.put routine.name routine).entries :=
        distinct_putEntry routine.name routine hmore
      rw [List.foldl_cons, ih _ hput, update_put table hmore]
      rfl

/-- Functions that are set one by one on top of a table, and all at once. -/
theorem Outline.update_functions (table : Table Routine) (ls : List Line) :
    table.update (ofLines ls).functions =
      ((Segment.ofLines ls).filterMap Segment.function?).foldl
        (fun table routine => table.put routine.name routine) table := by
  rw [functions_ofLines, Table.update_foldl_put table {} List.nodup_nil]
  rfl

/-! ## Texts -/

namespace Text

theorem splitLines_eq_nil {cs : List CodePoint} (h : splitLines cs = []) : cs = [] := by
  fun_cases splitLines cs with
  | case1 => rfl
  | case2 cs => simp [splitLines] at h
  | case3 c cs hcrlf hbreak => simp [splitLines, hbreak] at h
  | case4 c cs hcrlf hbreak =>
      rw [splitLines.eq_3 c cs hcrlf, if_neg hbreak] at h
      cases hcs : splitLines cs <;> simp [hcs, extendFirst] at h

/-- A line feed between two texts ends the last line of the first one, or makes an empty line, or
completes the break that the first text ends with. -/
theorem splitLines_append (cs ds : List CodePoint) :
    ∃ gap, (∀ piece ∈ gap, piece = []) ∧
      splitLines (cs ++ .char '\n' :: ds) = splitLines cs ++ gap ++ splitLines ds := by
  fun_induction splitLines cs with
  | case1 =>
      refine ⟨[[]], by simp, ?_⟩
      rw [List.nil_append, splitLines.eq_def]
      simp
  | case2 cs ih =>
      obtain ⟨gap, hgap, hcs⟩ := ih
      refine ⟨gap, hgap, ?_⟩
      simp [splitLines, hcs]
  | case3 c cs hcrlf hbreak ih =>
      obtain ⟨gap, hgap, hcs⟩ := ih
      by_cases hreturn : c = '\r' ∧ cs = []
      · obtain ⟨rfl, rfl⟩ := hreturn
        exact ⟨[], by simp, by simp [splitLines]⟩
      · refine ⟨gap, hgap, ?_⟩
        have hnone : ∀ rest, c = '\r' → cs ++ .char '\n' :: ds = .char '\n' :: rest → False := by
          intro rest hc heq
          cases cs with
          | nil => exact hreturn ⟨hc, rfl⟩
          | cons d cs =>
              obtain ⟨rfl, -⟩ := List.cons.inj heq
              exact hcrlf cs hc rfl
        rw [List.cons_append, splitLines.eq_3 c _ hnone, if_pos hbreak, hcs]
        rfl
  | case4 c cs hcrlf hbreak ih =>
      obtain ⟨gap, hgap, hcs⟩ := ih
      have hnone : ∀ rest, c = '\r' → cs ++ .char '\n' :: ds = .char '\n' :: rest → False := by
        rintro rest rfl -
        exact hbreak (by decide)
      rw [List.cons_append, splitLines.eq_3 c _ hnone, if_neg hbreak]
      cases hpieces : splitLines cs with
      | nil =>
          -- the character is the last one of the first text, and the line feed ends its line
          obtain rfl := splitLines_eq_nil hpieces
          refine ⟨[], by simp, ?_⟩
          rw [List.nil_append, splitLines.eq_def]
          simp [extendFirst]
      | cons piece pieces =>
          refine ⟨gap, hgap, ?_⟩
          rw [hcs, hpieces]
          rfl

end Text

namespace Line

theorem scanFrom_append (file : Option Text) (count source : Nat)
    (pieces more : List (List CodePoint)) :
    ∃ count' source', scanFrom file count source (pieces ++ more) =
      scanFrom file count source pieces ++ scanFrom file count' source' more := by
  induction pieces generalizing count source with
  | nil => exact ⟨count, source, rfl⟩
  | cons piece pieces ih =>
      rw [List.cons_append, scanFrom, scanFrom]
      split
      · exact ih count (source + 1)
      · obtain ⟨count', source', h⟩ := ih (count + 1) (source + 1)
        exact ⟨count', source', by rw [h]; rfl⟩

/-- The texts of the lines do not depend on where they are counted from. -/
theorem map_text_scanFrom (file : Option Text) (count source : Nat)
    (pieces : List (List CodePoint)) :
    (scanFrom file count source pieces).map (·.text) =
      ((pieces.map Text.trim).filter (!·.isEmpty)).map Text.ofList := by
  induction pieces generalizing count source with
  | nil => rfl
  | cons piece pieces ih =>
      rw [scanFrom]
      split
      · rename_i hpiece
        simp [hpiece, ih]
      · rename_i c cs hpiece
        simp [hpiece, ih]

theorem forall₂_text {ls ls' : List Line} (h : ls'.map (·.text) = ls.map (·.text)) :
    List.Forall₂ (fun line line' => line'.text = line.text) ls ls' := by
  rw [← List.forall₂_eq_eq_eq, List.forall₂_map_left_iff, List.forall₂_map_right_iff] at h
  exact h.flip

/-- Of two texts on top of each other, the first has its own lines, and the second has lines with
the same texts as when it stands alone. -/
theorem scan_append (first second : Text) (file : Option Text) :
    ∃ more, scan (first ++ "\n" ++ second) file = scan first file ++ more ∧
      more.map (·.text) = (scan second file).map (·.text) := by
  obtain ⟨gap, hgap, hsplit⟩ := Text.splitLines_append first.toList second.toList
  have htext : (first ++ "\n" ++ second).toList = first.toList ++ .char '\n' :: second.toList := by
    simp
  unfold scan
  rw [htext, hsplit, List.append_assoc]
  obtain ⟨count, source, happend⟩ := scanFrom_append file 0 1 (Text.splitLines first.toList)
    (gap ++ Text.splitLines second.toList)
  refine ⟨_, happend, ?_⟩
  have hblank : (gap.map Text.trim).filter (!·.isEmpty) = [] := by
    rw [List.filter_eq_nil_iff]
    intro piece hpiece
    obtain ⟨raw, hraw, rfl⟩ := List.mem_map.1 hpiece
    rw [hgap raw hraw]
    simp [Text.trim, Text.trimLeft, Text.trimRight]
  rw [map_text_scanFrom, map_text_scanFrom, List.map_append, List.filter_append, hblank,
    List.nil_append]

theorem map_text_scan_append (first second : Text) (file : Option Text) :
    (scan (first ++ "\n" ++ second) file).map (·.text) =
      (scan first file).map (·.text) ++ (scan second file).map (·.text) := by
  obtain ⟨more, hscan, htexts⟩ := scan_append first second file
  rw [hscan, List.map_append, htexts]

/-- The text of a line as scanning gives it: not empty, trimmed, without line breaks. -/
structure IsText (text : Text) : Prop where
  ne_nil : text.toList ≠ []
  trimmed : Text.trim text.toList = text.toList
  unbroken : ∀ c ∈ text.toList, Text.isLineBreak c = false

theorem IsText.scan {text : Text} (h : IsText text) (file : Option Text) :
    (scan text file).map (·.text) = [text] := by
  unfold Line.scan
  rw [map_text_scanFrom, Text.splitLines_plain h.ne_nil h.unbroken]
  simp [h.trimmed, h.ne_nil]

/-- Scanning gives the lines back that a text was put together from. -/
theorem map_text_scan_intercalate {texts : List Text} (h : ∀ text ∈ texts, IsText text)
    (file : Option Text) :
    (scan (Text.intercalate "\n" texts) file).map (·.text) = texts := by
  induction texts with
  | nil => rfl
  | cons text texts ih =>
      obtain ⟨htext, hrest⟩ := List.forall_mem_cons.1 h
      cases texts with
      | nil => rw [Text.intercalate_singleton, htext.scan]
      | cons next texts =>
          rw [Text.intercalate_cons_cons, map_text_scan_append, htext.scan, ih hrest]
          rfl

end Line

end LineScript
