import LineScript.Proofs.Text.Trim
import LineScript.Script.Statement

/-! # Scanned lines

Scanning numbers the lines that it keeps, and none of them is blank. If it keeps one line only, that
is the trimmed text.
-/

namespace LineScript

def Location.Before (a b : Location) : Prop :=
  ∃ m n : Int, a.line = some m ∧ b.line = some n ∧ m < n

namespace Line

structure Numbered (ls : List Line) : Prop where
  number : ∀ line ∈ ls, ∃ n, line.location.line = some n
  order : ls.Pairwise fun a b => a.location.Before b.location

/-- Every line that is kept is a trimmed piece of the text, with a number above those before it. -/
theorem mem_scanFrom {file : Option Text} {count source : Nat} {pieces : List (List CodePoint)}
    {line : Line} (h : line ∈ scanFrom file count source pieces) :
    (∃ n : Nat, count < n ∧ line.location.line = some (Int.ofNat n)) ∧
      ∃ piece ∈ pieces, Text.trim piece ≠ [] ∧ line.text = Text.ofList (Text.trim piece) := by
  induction pieces generalizing count source with
  | nil => simp [scanFrom] at h
  | cons piece pieces ih =>
      rw [scanFrom] at h
      split at h
      · obtain ⟨hnumber, other, hmem, htrim, htext⟩ := ih h
        exact ⟨hnumber, other, List.mem_cons_of_mem _ hmem, htrim, htext⟩
      · rename_i c cs hpiece
        rcases List.mem_cons.1 h with rfl | h
        · refine ⟨⟨count + 1, Nat.lt_succ_self count, rfl⟩, piece, List.mem_cons_self, ?_, ?_⟩
          · simp [hpiece]
          · rw [hpiece]
        · obtain ⟨⟨n, hn, hline⟩, other, hmem, htrim, htext⟩ := ih h
          exact ⟨⟨n, by omega, hline⟩, other, List.mem_cons_of_mem _ hmem, htrim, htext⟩

theorem before_scanFrom (file : Option Text) (count source : Nat) (pieces : List (List CodePoint)) :
    (scanFrom file count source pieces).Pairwise fun a b => a.location.Before b.location := by
  induction pieces generalizing count source with
  | nil => exact .nil
  | cons piece pieces ih =>
      rw [scanFrom]
      split
      · exact ih count (source + 1)
      · refine .cons ?_ (ih (count + 1) (source + 1))
        intro line hmem
        obtain ⟨⟨n, hn, hline⟩, -⟩ := mem_scanFrom hmem
        refine ⟨_, _, rfl, hline, ?_⟩
        simp only [Int.ofNat_eq_natCast]
        omega

theorem numbered_scan (source : Text) (file : Option Text) : Numbered (scan source file) where
  number line hmem := by
    obtain ⟨⟨n, -, hline⟩, -⟩ := mem_scanFrom hmem
    exact ⟨n, hline⟩
  order := before_scanFrom file 0 1 _

theorem location_of_scanFrom {file : Option Text} {count source k : Nat}
    {pieces : List (List CodePoint)} {line : Line}
    (h : (scanFrom file count source pieces)[k]? = some line) :
    line.location = { line := some (Int.ofNat (count + k + 1)), file } := by
  induction pieces generalizing count source k with
  | nil => simp [scanFrom] at h
  | cons piece pieces ih =>
      rw [scanFrom] at h
      split at h
      · exact ih h
      · cases k with
        | zero =>
            cases h
            rfl
        | succ k =>
            rw [List.getElem?_cons_succ] at h
            rw [ih h, Nat.add_right_comm count 1 k, Nat.add_assoc count k 1]

/-- The lines of a script are numbered from one on, and bear the name of the script. -/
theorem location_of_scan {source : Text} {file : Option Text} {k : Nat} {line : Line}
    (h : (scan source file)[k]? = some line) :
    line.location = { line := some (Int.ofNat (k + 1)), file } := by
  rw [location_of_scanFrom h, Nat.zero_add]

theorem trimmed_of_scan {source : Text} {file : Option Text} {line : Line}
    (h : line ∈ scan source file) : Text.trimmed line.text = line.text := by
  obtain ⟨-, piece, -, -, htext⟩ := mem_scanFrom h
  simp [htext, Text.trimmed, Text.trim_trim]

/-- A scanned line is a statement with words, and they are the words of the line. -/
theorem words_of_scan {source : Text} {file : Option Text} {line : Line}
    (h : line ∈ scan source file) :
    (Statement.ofLine line).words = Text.wordsOf line.text ∧ Text.wordsOf line.text ≠ [] := by
  obtain ⟨-, piece, -, htrim, htext⟩ := mem_scanFrom h
  refine ⟨by simp only [Statement.ofLine, trimmed_of_scan h], ?_⟩
  simpa [htext, Text.wordsOf] using Text.words_trim_ne_nil htrim

theorem scanFrom_eq_nil {file : Option Text} {count source : Nat} {pieces : List (List CodePoint)}
    (h : scanFrom file count source pieces = []) : ∀ piece ∈ pieces, Text.trim piece = [] := by
  induction pieces generalizing count source with
  | nil => simp
  | cons piece pieces ih =>
      rw [scanFrom] at h
      split at h
      · rename_i hpiece
        exact List.forall_mem_cons.2 ⟨hpiece, ih h⟩
      · cases h

theorem scanFrom_eq_singleton {file : Option Text} {count source : Nat}
    {pieces : List (List CodePoint)} {line : Line}
    (h : scanFrom file count source pieces = [line]) :
    ∃ before piece after, pieces = before ++ piece :: after ∧
      (∀ other ∈ before, Text.trim other = []) ∧ (∀ other ∈ after, Text.trim other = []) ∧
      line.text = Text.ofList (Text.trim piece) := by
  induction pieces generalizing count source with
  | nil => simp [scanFrom] at h
  | cons first pieces ih =>
      rw [scanFrom] at h
      split at h
      · rename_i hfirst
        obtain ⟨before, piece, after, rfl, hbefore, hafter, htext⟩ := ih h
        exact ⟨first :: before, piece, after, rfl, List.forall_mem_cons.2 ⟨hfirst, hbefore⟩, hafter,
          htext⟩
      · rename_i c cs hfirst
        obtain ⟨rfl, hrest⟩ := List.cons.inj h
        exact ⟨[], first, pieces, rfl, by simp, scanFrom_eq_nil hrest, by rw [hfirst]⟩

theorem text_of_scan {source : Text} {file : Option Text} {line : Line}
    (h : scan source file = [line]) : line.text = Text.trimmed source := by
  obtain ⟨before, piece, after, hpieces, hbefore, hafter, htext⟩ := scanFrom_eq_singleton h
  have hbroken := Text.broken_splitLines source.toList
  rw [hpieces] at hbroken
  rw [htext, Text.trimmed, hbroken.trim_eq hbefore hafter]

end Line

end LineScript
