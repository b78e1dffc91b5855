import LineScript.Files.Disk
import LineScript.Proofs.Script.Concatenation

/-! # The layout of a text

Scanning keeps of a text the trimmed lines that are not blank. How they are laid out does not
matter: which breaks end them, how many blank lines stand between them, how many blanks stand around
them. A text can be cut at every line break without a change to what is kept of it, and this gives
all the laws.
-/

namespace LineScript

namespace Text

def kept (cs : List CodePoint) : List (List CodePoint) :=
  ((splitLines cs).map trim).filter (!·.isEmpty)

/-! ## Cutting at line breaks -/

/-- A text is taken apart line by line. The induction is on the characters, with the part of the
first line that lies behind already. -/
theorem line_induction {P : List CodePoint → Prop}
    (plain : ∀ line, (∀ c ∈ line, isLineBreak c = false) → P line)
    (cut : ∀ line b cs, (∀ c ∈ line, isLineBreak c = false) → isLineBreak b = true → P cs →
      P (line ++ b :: cs))
    (cs : List CodePoint) : P cs := by
  have hbehind : ∀ line : List CodePoint, (∀ c ∈ line, isLineBreak c = false) → P (line ++ cs) := by
    induction cs with
    | nil =>
        intro line hline
        rw [List.append_nil]
        exact plain line hline
    | cons c cs ih =>
        intro line hline
        cases hc : isLineBreak c with
        | true => exact cut line c cs hline hc (ih [] (by simp))
        | false =>
            have hlonger : ∀ d ∈ line ++ [c], isLineBreak d = false := by
              simpa [or_imp, forall_and] using ⟨hline, hc⟩
            have hrest := ih (line ++ [c]) hlonger
            rwa [List.append_assoc] at hrest
  exact hbehind [] (by simp)

/-- What stands before the first break is a line. The lines after it begin behind the break; this
may pass over a line feed that follows a carriage return. -/
theorem splitLines_line {line : List CodePoint} {b : CodePoint}
    (hline : ∀ c ∈ line, isLineBreak c = false) (hb : isLineBreak b = true) (cs : List CodePoint) :
    ∃ rest, splitLines (line ++ b :: cs) = line :: splitLines rest ∧
      (rest = cs ∨ cs = .char '\n' :: rest) := by
  induction line with
  | nil =>
      by_cases hcrlf : ∃ rest, b = '\r' ∧ cs = .char '\n' :: rest
      · obtain ⟨rest, rfl, rfl⟩ := hcrlf
        exact ⟨rest, by simp [splitLines], .inr rfl⟩
      · have hnone : ∀ rest, b = '\r' → cs = .char '\n' :: rest → False :=
          fun rest hreturn hfeed => hcrlf ⟨rest, hreturn, hfeed⟩
        exact ⟨cs, by rw [List.nil_append, splitLines.eq_3 b cs hnone, if_pos hb], .inl rfl⟩
  | cons c line ih =>
      obtain ⟨hc, hline⟩ := List.forall_mem_cons.1 hline
      obtain ⟨rest, hsplit, hrest⟩ := ih hline
      refine ⟨rest, ?_, hrest⟩
      have hnone : ∀ more, c = '\r' → line ++ b :: cs = .char '\n' :: more → False := by
        rintro more rfl -
        cases hc
      rw [List.cons_append, splitLines.eq_3 c _ hnone, hc, hsplit]
      rfl

theorem kept_plain {line : List CodePoint} (hline : ∀ c ∈ line, isLineBreak c = false) :
    kept line = [trim line].filter (!·.isEmpty) := by
  cases line with
  | nil => rfl
  | cons c line => rw [kept, splitLines_plain (by simp) hline, List.map_singleton]

theorem kept_of_splitLines {line cs rest : List CodePoint}
    (hline : ∀ c ∈ line, isLineBreak c = false) (h : splitLines cs = line :: splitLines rest) :
    kept cs = kept line ++ kept rest := by
  rw [kept_plain hline, kept, h, List.map_cons, ← List.singleton_append, List.filter_append]
  rfl

theorem kept_line {line : List CodePoint} {b : CodePoint}
    (hline : ∀ c ∈ line, isLineBreak c = false)
    (hb : isLineBreak b = true) (cs : List CodePoint) :
    kept (line ++ b :: cs) = kept line ++ kept cs := by
  obtain ⟨rest, hsplit, rfl | rfl⟩ := splitLines_line hline hb cs
  · exact kept_of_splitLines hline hsplit
  · -- the line feed that was passed over would be a blank line of its own
    have hfeed : splitLines (.char '\n' :: rest) = [] :: splitLines rest := by
      simp [splitLines]
    rw [kept_of_splitLines hline hsplit, kept_of_splitLines (by simp) hfeed]
    rfl

theorem kept_append_break {b : CodePoint} (hb : isLineBreak b = true) (cs ds : List CodePoint) :
    kept (cs ++ b :: ds) = kept cs ++ kept ds := by
  induction cs using line_induction with
  | plain line hline => exact kept_line hline hb ds
  | cut line b' cs hline hb' ih =>
      rw [List.append_assoc, List.cons_append, kept_line hline hb', ih, kept_line hline hb',
        List.append_assoc]

/-! ## Blanks at the edges of lines -/

theorem kept_cons_blank {c : CodePoint} (hc : isBlank c = true) (cs : List CodePoint) :
    kept (c :: cs) = kept cs := by
  cases hbreak : isLineBreak c with
  | true => exact kept_append_break hbreak [] cs
  | false =>
      have hnone : ∀ rest, c = '\r' → cs = .char '\n' :: rest → False := by
        rintro rest rfl -
        cases hbreak
      unfold kept
      rw [splitLines.eq_3 c cs hnone, hbreak]
      have hblank : ∀ d ∈ [c], isBlank d = true := by simpa using hc
      cases splitLines cs with
      | nil =>
          have htrim : trim [c] = [] := trim_eq_nil.2 hblank
          simp [extendFirst, htrim]
      | cons piece pieces =>
          have htrim : trim (c :: piece) = trim piece := trim_append_left hblank
          simp [extendFirst, htrim]

theorem kept_concat_blank {c : CodePoint} (hc : isBlank c = true) (cs : List CodePoint) :
    kept (cs ++ [c]) = kept cs := by
  induction cs using line_induction with
  | plain line hline =>
      cases hbreak : isLineBreak c with
      | true =>
          rw [kept_line hline hbreak]
          exact List.append_nil _
      | false =>
          have hlonger : ∀ d ∈ line ++ [c], isLineBreak d = false := by
            simpa [or_imp, forall_and] using ⟨hline, hbreak⟩
          rw [kept_plain hlonger, kept_plain hline, trim_append_right (by simpa using hc)]
  | cut line b cs hline hb ih =>
      rw [List.append_assoc, List.cons_append, kept_line hline hb, ih, kept_line hline hb]

theorem kept_append_left {blanks : List CodePoint} (h : ∀ c ∈ blanks, isBlank c = true)
    (cs : List CodePoint) : kept (blanks ++ cs) = kept cs := by
  induction blanks with
  | nil => rfl
  | cons c blanks ih =>
      obtain ⟨hc, hblanks⟩ := List.forall_mem_cons.1 h
      rw [List.cons_append, kept_cons_blank hc, ih hblanks]

theorem kept_append_right {blanks : List CodePoint} (h : ∀ c ∈ blanks, isBlank c = true)
    (cs : List CodePoint) : kept (cs ++ blanks) = kept cs := by
  induction blanks generalizing cs with
  | nil => rw [List.append_nil]
  | cons c blanks ih =>
      obtain ⟨hc, hblanks⟩ := List.forall_mem_cons.1 h
      have hrest := ih hblanks (cs ++ [c])
      rw [List.append_assoc] at hrest
      exact hrest.trans (kept_concat_blank hc cs)

/-- Between the two texts a line begins or ends. -/
def IsEdge (before after : List CodePoint) : Prop :=
  (∀ c ∈ before.getLast?, isLineBreak c = true) ∨ ∀ c ∈ after.head?, isLineBreak c = true

/-- The second text has more blanks where lines begin or end, and line breaks are blanks: lines are
indented, blanks follow them, or blank lines stand between them. -/
inductive Respaced (cs : List CodePoint) : List CodePoint → Prop
  | refl : Respaced cs cs
  | insert {before after : List CodePoint} (blanks : List CodePoint)
      (h : Respaced cs (before ++ after))
      (hblanks : ∀ c ∈ blanks, isBlank c = true) (hedge : IsEdge before after) :
      Respaced cs (before ++ blanks ++ after)

theorem kept_insert {before blanks after : List CodePoint}
    (hblanks : ∀ c ∈ blanks, isBlank c = true)
    (hedge : IsEdge before after) : kept (before ++ blanks ++ after) = kept (before ++ after) := by
  rcases hedge with hlast | hfirst
  · rcases List.eq_nil_or_concat before with rfl | ⟨front, b, rfl⟩
    · exact kept_append_left hblanks after
    · have hb : isLineBreak b = true := hlast b (by simp)
      simp only [List.concat_eq_append, List.append_assoc, List.cons_append, List.nil_append]
      rw [kept_append_break hb, kept_append_break hb, kept_append_left hblanks]
  · cases after with
    | nil => rw [List.append_nil, List.append_nil, kept_append_right hblanks]
    | cons b rest =>
        have hb : isLineBreak b = true := hfirst b rfl
        rw [kept_append_break hb, kept_append_break hb, kept_append_right hblanks]

theorem Respaced.kept_eq {cs ds : List CodePoint} (h : Respaced cs ds) : kept ds = kept cs := by
  induction h with
  | refl => rfl
  | insert blanks _ hblanks hedge ih => rw [kept_insert hblanks hedge, ih]

/-! ## Newlines -/

theorem splitLines_unifyNewlines (cs : List CodePoint) :
    splitLines (unifyNewlines cs) = splitLines cs := by
  fun_induction unifyNewlines cs with
  | case1 => rfl
  | case2 cs ih => simp [splitLines, ih]
  | case3 c cs hcrlf ih =>
      rw [splitLines.eq_3 c cs hcrlf]
      by_cases hreturn : c = '\r'
      · subst hreturn
        simp [splitLines, ih]
      · have hnone : ∀ rest, c = '\r' → unifyNewlines cs = .char '\n' :: rest → False :=
          fun _ h _ => hreturn h
        rw [if_neg hreturn, splitLines.eq_3 c _ hnone, ih]

theorem return_not_mem_unifyNewlines (cs : List CodePoint) : .char '\r' ∉ unifyNewlines cs := by
  fun_induction unifyNewlines cs with
  | case1 => simp
  | case2 cs ih => simpa using ih
  | case3 c cs hcrlf ih =>
      by_cases hreturn : c = '\r'
      · simpa [hreturn] using ih
      · simpa [hreturn, eq_comm] using ih

theorem unbroken_of_mem_splitLines {cs piece : List CodePoint} (h : piece ∈ splitLines cs) :
    ∀ c ∈ piece, isLineBreak c = false := by
  fun_induction splitLines cs generalizing piece with
  | case1 => cases h
  | case2 cs ih =>
      rcases List.mem_cons.1 h with rfl | h
      · simp
      · exact ih h
  | case3 c cs hcrlf hbreak ih =>
      rcases List.mem_cons.1 h with rfl | h
      · simp
      · exact ih h
  | case4 c cs hcrlf hbreak ih =>
      have hc : isLineBreak c = false := by simpa using hbreak
      cases hpieces : splitLines cs with
      | nil =>
          rw [hpieces, extendFirst, List.mem_singleton] at h
          simpa [h] using hc
      | cons first pieces =>
          rw [hpieces] at ih h
          rcases List.mem_cons.1 h with rfl | h
          · exact List.forall_mem_cons.2 ⟨hc, ih List.mem_cons_self⟩
          · exact ih (List.mem_cons_of_mem _ h)

end Text

namespace Line

def mark (line : Line) : Text × Location :=
  (line.text, line.location)

theorem isText_of_scan {source : Text} {file : Option Text} {line : Line}
    (h : line ∈ scan source file) : IsText line.text := by
  obtain ⟨-, piece, hpiece, htrim, htext⟩ := mem_scanFrom h
  rw [htext]
  constructor
  · simpa using htrim
  · simp [Text.trim_trim]
  · intro c hc
    rw [Text.toList_ofList] at hc
    exact Text.unbroken_of_mem_splitLines hpiece c (Text.mem_of_mem_trim hc)

theorem map_location_scan (source : Text) (file : Option Text) :
    (scan source file).map (·.location) =
      (List.range (scan source file).length).map fun k =>
        { line := some (Int.ofNat (k + 1)), file } := by
  apply List.ext_getElem
  · simp
  · intro k hk _
    have hline : k < (scan source file).length := by simpa using hk
    simp [location_of_scan (List.getElem?_eq_getElem hline)]

/-- Lines with the same texts are reported at the same places, whichever text they come from. -/
theorem map_mark_scan {source other : Text} {file : Option Text}
    (h : (scan other file).map (·.text) = (scan source file).map (·.text)) :
    (scan other file).map mark = (scan source file).map mark := by
  have hlength : (scan other file).length = (scan source file).length := by
    simpa using congrArg List.length h
  have hplaces : (scan other file).map (·.location) = (scan source file).map (·.location) := by
    rw [map_location_scan, map_location_scan, hlength]
  have hzip : ∀ ls : List Line, ls.map mark = (ls.map (·.text)).zip (ls.map (·.location)) := by
    intro ls
    rw [List.zip_map', List.map_congr_left]
    intros
    rfl
  rw [hzip, hzip, h, hplaces]

theorem map_text_scan (source : Text) (file : Option Text) :
    (scan source file).map (·.text) = (Text.kept source.toList).map Text.ofList :=
  map_text_scanFrom file 0 1 _

/-- Each line that is kept has the number that it has among all lines of the text. -/
theorem map_sourceLine_scanFrom (file : Option Text) (count source : Nat)
    (pieces : List (List CodePoint)) :
    (scanFrom file count source pieces).map (fun line => (line.text, line.sourceLine)) =
      (((pieces.map Text.trim).zipIdx source).filter (!·.1.isEmpty)).map fun (cs, n) =>
        (Text.ofList cs, some n) := by
  induction pieces generalizing count source with
  | nil => rfl
  | cons piece pieces ih =>
      rw [scanFrom]
      split
      · rename_i hpiece
        simp [hpiece, ih]
      · rename_i c cs hpiece
        simp [hpiece, ih]

theorem sourceLine_lt_scanFrom (file : Option Text) (count source : Nat)
    (pieces : List (List CodePoint)) :
    (∀ line ∈ scanFrom file count source pieces, ∃ n, line.sourceLine = some n ∧ source ≤ n) ∧
      (scanFrom file count source pieces).Pairwise fun a b =>
        ∃ m n, a.sourceLine = some m ∧ b.sourceLine = some n ∧ m < n := by
  induction pieces generalizing count source with
  | nil => exact ⟨by simp [scanFrom], .nil⟩
  | cons piece pieces ih =>
      rw [scanFrom]
      split
      · obtain ⟨hnumber, horder⟩ := ih count (source + 1)
        refine ⟨?_, horder⟩
        intro line hmem
        obtain ⟨n, hn, hle⟩ := hnumber line hmem
        exact ⟨n, hn, by omega⟩
      · obtain ⟨hnumber, horder⟩ := ih (count + 1) (source + 1)
        refine ⟨?_, .cons ?_ horder⟩
        · intro line hmem
          rcases List.mem_cons.1 hmem with rfl | hmem
          · exact ⟨source, rfl, Nat.le_refl source⟩
          · obtain ⟨n, hn, hle⟩ := hnumber line hmem
            exact ⟨n, hn, by omega⟩
        · intro line hmem
          obtain ⟨n, hn, hle⟩ := hnumber line hmem
          exact ⟨source, n, rfl, hn, hle⟩

theorem scan_unifyNewlines (source : Text) (file : Option Text) :
    scan (Text.ofList (Text.unifyNewlines source.toList)) file = scan source file := by
  unfold scan
  rw [Text.toList_ofList, Text.splitLines_unifyNewlines]

/-- The lines of a text are its trimmed lines that are not blank, with their numbers in two ways.
Neither the newlines nor the blanks at the edges of lines have a part in their texts and places. -/
theorem scan_laws (source : Text) (file : Option Text) :
    (∀ line ∈ scan source file, IsText line.text) ∧
    (scan source file).map (·.location) =
      (List.range (scan source file).length).map (fun k =>
        { line := some (Int.ofNat (k + 1)), file }) ∧
    (scan source file).map (fun line => (line.text, line.sourceLine)) =
      ((((Text.splitLines source.toList).map Text.trim).zipIdx 1).filter (!·.1.isEmpty)).map
        (fun (cs, n) => (Text.ofList cs, some n)) ∧
    (scan source file).Pairwise (fun a b =>
      ∃ m n, a.sourceLine = some m ∧ b.sourceLine = some n ∧ m < n) ∧
    (scan (Text.intercalate "\n" ((scan source file).map (·.text))) file).map mark =
      (scan source file).map mark ∧
    (.char '\r' ∉ Text.unifyNewlines source.toList ∧
      scan (Text.ofList (Text.unifyNewlines source.toList)) file = scan source file) ∧
    (∀ (codec : Codec) bytes, codec.decode bytes = .ok source →
      ∃ text, Disk.scriptText codec bytes = .ok (.ok text) ∧
        scan text file = scan source file) ∧
    (∀ more, (scan (source ++ "\n" ++ more) file).map (·.text) =
      (scan source file).map (·.text) ++ (scan more file).map (·.text)) ∧
    (∀ other : Text, Text.Respaced source.toList other.toList →
      (scan other file).map mark = (scan source file).map mark) := by
  have htexts : ∀ text ∈ (scan source file).map (·.text), IsText text := by
    intro text hmem
    obtain ⟨line, hline, rfl⟩ := List.mem_map.1 hmem
    exact isText_of_scan hline
  refine ⟨fun line hmem => isText_of_scan hmem, map_location_scan source file,
    map_sourceLine_scanFrom file 0 1 _, (sourceLine_lt_scanFrom file 0 1 _).2,
    map_mark_scan (map_text_scan_intercalate htexts file),
    ⟨Text.return_not_mem_unifyNewlines _, scan_unifyNewlines source file⟩, ?_,
    fun more => map_text_scan_append source more file, ?_⟩
  · intro codec bytes hdecode
    exact ⟨_, by rw [Disk.scriptText, hdecode], scan_unifyNewlines source file⟩
  · intro other hspaced
    apply map_mark_scan
    rw [map_text_scan, map_text_scan, hspaced.kept_eq]

/-- The breaks are a carriage return, then a carriage return with a line feed. The other layout puts
a line separator between these two, indents `b` by a tab and ends with a space. -/
theorem scan_laws_returns :
    let line : Line :=
      { text := "b", location := { line := some 2, file := none }, sourceLine := some 3 }
    (line ∈ scan "a\r\r\nb" none ∧ IsText line.text) ∧
    (Encoding.utf8.codec.decode [97, 13, 13, 10, 98] = .ok "a\r\r\nb" ∧
      ∃ text, Disk.scriptText Encoding.utf8.codec [97, 13, 13, 10, 98] = .ok (.ok text) ∧
        scan text none = scan "a\r\r\nb" none) ∧
    Text.Respaced (Text.toList "a\r\r\nb") (Text.toList "a\r\r\u2028\n\tb ") ∧
      (scan "a\r\r\u2028\n\tb " none).map mark = (scan "a\r\r\nb" none).map mark := by
  obtain ⟨htext, -, -, -, -, -, hread, -, hlayout⟩ := scan_laws "a\r\r\nb" none
  have hmem : ({ text := "b", location := { line := some 2, file := none }, sourceLine := some 3 } :
      Line) ∈ scan "a\r\r\nb" none := by decide
  have hdecode : Encoding.utf8.codec.decode [97, 13, 13, 10, 98] = .ok "a\r\r\nb" := by
    decide
  have hspaced : Text.Respaced (Text.toList "a\r\r\nb") (Text.toList "a\r\r\u2028\n\tb ") := by
    have hstart : Text.Respaced (Text.toList "a\r\r\nb") ([.char 'a', .char '\r', .char '\r'] ++
      [.char '\n', .char 'b']) := .refl
    have hseparator : Text.Respaced (Text.toList "a\r\r\nb")
        ([.char 'a', .char '\r', .char '\r', .char '\u2028', .char '\n'] ++ [.char 'b']) :=
      .insert [.char '\u2028'] hstart (by decide) (.inl (by decide))
    have htab : Text.Respaced (Text.toList "a\r\r\nb")
        ([.char 'a', .char '\r', .char '\r', .char '\u2028', .char '\n', .char '\t', .char 'b'] ++
          []) :=
      .insert [.char '\t'] hseparator (by decide) (.inl (by decide))
    exact .insert [.char ' '] htab (by decide) (.inr (by simp))
  exact ⟨⟨hmem, htext _ hmem⟩, ⟨hdecode, hread _ _ hdecode⟩, hspaced, hlayout _ hspaced⟩

end Line

end LineScript
