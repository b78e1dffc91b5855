import LineScript.Proofs.Script.Concatenation
import LineScript.Proofs.Session.Nesting
import LineScript.Proofs.Session.WritesFor
import LineScript.Proofs.Session.Outcome

/-! # Running scripts one after the other

A script that leaves no block open can be cut off from what follows it: the structural pass over
both is the pass over the first, and then the pass over the second. If the second opens no blocks at
all, then running both together comes to the same as running one after the other.
-/

namespace LineScript

namespace Exec

theorem takeSegments_append {id : Nat} {base : Path} {segments more : List Segment}
    {windows others : List OpenWindow} {s t u : Session}
    (h : takeSegments id base segments s = (.ok windows, t))
    (hmore : takeSegments id base more t = (.ok others, u)) :
    takeSegments id base (segments ++ more) s = (.ok (windows ++ others), u) := by
  induction segments generalizing s windows with
  | nil =>
      obtain ⟨hwindows, rfl⟩ := Prod.mk.inj h
      cases hwindows
      exact hmore
  | cons segment segments ih =>
      obtain ⟨opened, v, hsegment, h⟩ := bind_ok h
      obtain ⟨rest, w, hrest, h⟩ := bind_ok h
      obtain ⟨hwindows, rfl⟩ := Prod.mk.inj h
      cases hwindows
      simp only [List.cons_append, takeSegments, bind_apply, hsegment, ih hrest, pure_apply,
        List.append_assoc]

/-- The structural pass puts the functions of a script on top of those that were there. -/
theorem functions_takeSegments {id : Nat} {base : Path} {ls : List Line}
    {windows : List OpenWindow} {s t : Session} (hid : id < s.interpreters.size)
    (h : takeSegments id base (Segment.ofLines ls) s = (.ok windows, t)) :
    (t.interpreter id).store.functions =
      (s.interpreter id).store.functions.update (Outline.ofLines ls).functions := by
  obtain ⟨t', htaken, hi⟩ := takeSegments_apply hid base (Segment.ofLines ls)
  obtain ⟨-, rfl⟩ := Prod.mk.inj (htaken.symm.trans h)
  rw [hi, Outline.update_functions]
  exact ((s.interpreter id).foldl_taking (Segment.ofLines ls)).2.1

end Exec

/-- The structural pass over two lists of lines in a row, of which the first leaves no block open.
Statements, windows and problems are those of the first and then those of the second; the windows of
the second stand further down by the lines of the first. Functions of the second take the place of
those of the first, on top of whatever table there was. In a run, the pass opens and reports the
same in the same order as the pass over the first and then the pass over the second, which finds the
functions that the first has left. -/
theorem structuralPass_append (a b : List Line) (hclosed : (Outline.ofLines a).Closed) :
    let first := Outline.ofLines a
    let second := Outline.ofLines b
    let whole := Outline.ofLines (a ++ b)
    whole.statements = first.statements ++ second.statements ∧
    whole.windows = first.windows ++ second.windows.map (WindowBlock.shift a.length) ∧
    whole.problems = first.problems ++ second.problems ∧
    whole.functions = first.functions.update second.functions ∧
    (∀ table : Table Routine,
      table.update whole.functions = (table.update first.functions).update second.functions) ∧
    ∀ (s : Session) (id : Nat) (base : Path), id < s.interpreters.size →
      ∃ windows more t u,
        Exec.takeSegments id base (Segment.ofLines a) s = (.ok windows, t) ∧
        Exec.takeSegments id base (Segment.ofLines b) t = (.ok more, u) ∧
        Exec.takeSegments id base (Segment.ofLines (a ++ b)) s = (.ok (windows ++ more), u) ∧
        (t.interpreter id).store.functions =
          (s.interpreter id).store.functions.update first.functions ∧
        (u.interpreter id).store.functions =
          (s.interpreter id).store.functions.update whole.functions := by
  intro first second whole
  have hsegments := Segment.ofLines_append hclosed b
  have htable : ∀ table : Table Routine, table.update whole.functions =
      (table.update first.functions).update second.functions := by
    intro table
    rw [Outline.update_functions, Outline.update_functions, Outline.update_functions, hsegments,
      List.filterMap_append, List.foldl_append]
  refine ⟨?_, Outline.windows_ofLines_append hclosed b, ?_, ?_, htable, ?_⟩
  · apply Array.toList_inj.1
    rw [Array.toList_append, Outline.statements_ofLines, Outline.statements_ofLines,
      Outline.statements_ofLines, hsegments, List.filterMap_append]
  · apply Array.toList_inj.1
    rw [Array.toList_append, Outline.problems_ofLines, Outline.problems_ofLines,
      Outline.problems_ofLines, hsegments, List.filterMap_append]
  · rw [Outline.update_functions, Outline.functions_ofLines, Outline.functions_ofLines, hsegments,
      List.filterMap_append, List.foldl_append]
  · intro s id base hid
    obtain ⟨windows, t, hfirst, -⟩ := Exec.calm_takeSegments id base (Segment.ofLines a) s
    obtain ⟨more, u, hsecond, -⟩ := Exec.calm_takeSegments id base (Segment.ofLines b) t
    have hwhole := Exec.takeSegments_append hfirst hsecond
    rw [← hsegments] at hwhole
    exact ⟨windows, more, t, u, hfirst, hsecond, hwhole, Exec.functions_takeSegments hid hfirst,
      Exec.functions_takeSegments hid hwhole⟩

/-- The first list defines a function, opens a window and has a header without a name, the second
starts with a closing line and defines the function anew. -/
theorem structuralPass_append_redefinition :
    let a : List Line :=
      [{ text := "function f \x7b" }, { text := "print 1" }, { text := "\x7d" },
        { text := "function" }, { text := "@NEW WINDOW \x7b" }, { text := "\x7d" }]
    let b : List Line :=
      [{ text := "\x7d" }, { text := "@NEW WINDOW \x7b\x7d" }, { text := "function f \x7b" },
        { text := "\x7d" }]
    (Outline.ofLines a).Closed ∧
    (Outline.ofLines (a ++ b)).windows =
      (Outline.ofLines a).windows ++ (Outline.ofLines b).windows.map (WindowBlock.shift 6) ∧
    (Outline.ofLines (a ++ b)).functions =
      (Outline.ofLines a).functions.update (Outline.ofLines b).functions ∧
    (Outline.ofLines (a ++ b)).windows.toList.map (·.index) = [4, 7] ∧
    (Outline.ofLines (a ++ b)).functions.values.map (·.body) = [[]] := by
  intro a b
  have hclosed : (Outline.ofLines a).Closed := by decide +kernel
  obtain ⟨-, hwindows, -, hfunctions, -⟩ := structuralPass_append a b hclosed
  exact ⟨hclosed, hwindows, hfunctions, by decide +kernel, by decide +kernel⟩

/-! ## Runs in pieces -/

namespace Exec

open Session

variable {disk : Disk} {say : Text → Exec Unit} {id : Nat} {s t : Session}

theorem takeSegments_statements (id : Nat) (base : Path) (ls : List Line) (s : Session) :
    takeSegments id base (ls.map .statement) s = (.ok [], s) := by
  induction ls with
  | nil => rfl
  | cons line ls ih =>
      have htaken : takeSegment id base (.statement line) s = (.ok none, s) := rfl
      simp only [List.map_cons, takeSegments, bind_apply, htaken, ih, pure_apply]
      rfl

/-- Before its first statement, a script without blocks shows nothing outside the debug channel. -/
theorem prepare_statements {source : Text} {file : Option Text}
    (hstatements : ∀ line ∈ Line.scan source file,
      Segment.isFunctionHeader line.text.toList = false ∧
        Segment.isWindowHeader line.text.toList = false) (id : Nat) (base : Path) :
    ∃ script t, prepare id source base file s = (.ok script, t) ∧
      script.statements = Line.scan source file ∧ t.outcome = s.outcome := by
  have hsegments := Segment.ofLines_statements hstatements
  have htaken := takeSegments_statements id base (Line.scan source file) s
  rw [← hsegments] at htaken
  obtain ⟨script, text, hp, hlines, -⟩ := prepare_taken htaken
  refine ⟨script, _, hp, ?_, ?_⟩
  · simp [hlines, hsegments, List.filterMap_map, Function.comp_def, Segment.statement?]
  · exact (outcome_eq_of_content (content_beginRun _ id)).trans
      ((outcome_debug _ _).trans (outcome_eq_of_content (content_record _ rfl)))

/-- Statements below a script change nothing about how it is prepared, but come after its own. -/
theorem prepare_append {first second : Text} {file : Option Text}
    (hclosed : (Outline.ofLines (Line.scan first file)).Closed)
    (hstatements : ∀ line ∈ Line.scan second file,
      Segment.isFunctionHeader line.text.toList = false ∧
        Segment.isWindowHeader line.text.toList = false) (base : Path) :
    ∃ script script' u v more, prepare id first base file s = (.ok script, u) ∧
      prepare id (first ++ "\n" ++ second) base file s = (.ok script', v) ∧
      script'.frame = script.frame ∧ script'.statements = script.statements ++ more ∧
      more.map (·.text) = (Line.scan second file).map (·.text) ∧
      v.outcome = u.outcome ∧ v.nesting = u.nesting := by
  obtain ⟨more, hscan, htexts⟩ := Line.scan_append first second file
  have hmore : Segment.ofLines more = more.map .statement := by
    apply Segment.ofLines_statements
    intro line hline
    obtain ⟨other, hother, htext⟩ := List.mem_map.1 (htexts ▸ List.mem_map_of_mem hline)
    exact htext ▸ hstatements other hother
  have hsegments : Segment.ofLines (Line.scan (first ++ "\n" ++ second) file) =
      Segment.ofLines (Line.scan first file) ++ more.map .statement := by
    rw [hscan, Segment.ofLines_append hclosed, hmore]
  obtain ⟨windows, taken, htaken, -⟩ :=
    calm_takeSegments id base (Segment.ofLines (Line.scan first file)) s
  have htaken' := takeSegments_append htaken (takeSegments_statements id base more taken)
  rw [← hsegments] at htaken'
  obtain ⟨script, script', u, v, hp, hp', hlines, hlines', hframe, hR, hnesting⟩ :=
    prepare_coupled outcome_coupling rfl htaken htaken' rfl
  refine ⟨script, script', u, v, more, hp, hp', hframe, ?_, htexts, hR, hnesting⟩
  rw [hlines', hsegments, List.filterMap_append, ← hlines]
  simp [List.filterMap_map, Function.comp_def, Segment.statement?]

/-- Statements below a script are executed as if they were a script of their own, which is run once
the first has returned. -/
theorem match_run_append
    (hsay : ∀ text, Matches (fun s t => t.outcome = s.outcome) Eq (say text) (say text))
    (hbalanced : ∀ text, Balanced (say text)) {first second : Text} {base : Path}
    {file : Option Text} {result : RunResult}
    (hclosed : (Outline.ofLines (Line.scan first file)).Closed)
    (hstatements : ∀ line ∈ Line.scan second file,
      Segment.isFunctionHeader line.text.toList = false ∧
        Segment.isWindowHeader line.text.toList = false)
    (hreturns : run disk say id first base file s = (.ok result, t)) :
    Match (fun s t => t.outcome = s.outcome) (fun _ _ => True)
      (run disk say id second base file t)
      (run disk say id (first ++ "\n" ++ second) base file s) := by
  obtain ⟨script, script', u, v, more, hp, hp', hframe, hlines, htexts, hR, hnesting⟩ :=
    prepare_append hclosed hstatements base
  -- the statements of the first script are executed in the same way, and have all returned
  obtain ⟨u', hu', ht⟩ := run_returns hp hreturns
  have hfirst : Match (fun s t => t.outcome = s.outcome) Eq (.ok (), u')
      (each (executeLine disk say (lines disk say (2 * (s.interpreter id).config.depthLimit.toNat))
        id script.frame) script.statements (v.enter id script.frame)) := by
    rw [← hu']
    exact match_each_lines outcome_coupling hsay hbalanced _ (List.forall₂_same.2 fun _ _ => rfl)
      (outcome_coupling.entered id _ _ hR) (nesting_enter_congr hnesting id _)
  obtain ⟨⟨⟩, v', hv', -, hR'⟩ := hfirst.of_ok
  -- the second script finds the books as the first one found them
  have hreturned : t.books = s.books :=
    Balanced.books_eq (within_run disk books_law hbalanced id first base file) hreturns
  have hconfig : (t.interpreter id).config = (s.interpreter id).config :=
    congrArg (·.1) (interpreter_books_congr hreturned id)
  obtain ⟨script₂, w, hp₂, hlines₂, hw⟩ := prepare_statements (s := t) hstatements id base
  obtain ⟨hframes, hwu⟩ := prepare_nesting_congr (nesting_eq_of_books hreturned) hp hp₂
  have hv'w : v'.nesting = (w.enter id script.frame).nesting := by
    rw [← nesting_enter_congr (hnesting.trans hwu.symm)]
    have hkept := within_lines disk books_law hbalanced
      (2 * (s.interpreter id).config.depthLimit.toNat)
    exact nesting_eq_of_books (Balanced.books_eq (within_each books_law
      (within_executeLine disk books_law hbalanced hkept id script.frame) _) hv')
  have houtcome : v'.outcome = (w.enter id script.frame).outcome :=
    calc v'.outcome = u'.outcome := hR'
      _ = t.outcome := by
          rw [ht, outcome_eq_of_content (content_endRun _ id),
            outcome_eq_of_content (content_leave _ id _)]
      _ = w.outcome := hw.symm
      _ = (w.enter id script.frame).outcome :=
          (outcome_eq_of_content (content_enter w id _)).symm
  refine match_run outcome_coupling hp₂ hp' (fun _ _ _ => trivial) ?_
  rw [hframe, hframes, hlines, each_append hv', hconfig, hlines₂]
  exact match_each_lines outcome_coupling hsay hbalanced _ (Line.forall₂_text htexts) houtcome hv'w

end Exec

open Exec in
/-- A script that leaves no block open and returns, and then a script that opens no blocks at all,
come to the same as one script of both, in any state of the interpreter. Both ways return or break
off with the same fault; they print the same lines, open and update the same windows, leave the same
variables, sizes, functions and budget, and report the same, apart from the places that diagnostics
name. -/
theorem run_append_agrees_with_runs (s : Session) (disk : Disk) (id : Nat) (first second : Text)
    (base : Path) (file : Option Text) (hplain : s.reactions = [])
    (hclosed : (Outline.ofLines (Line.scan first file)).Closed)
    (hstatements : ∀ line ∈ Line.scan second file,
      Segment.isFunctionHeader line.text.toList = false ∧
        Segment.isWindowHeader line.text.toList = false)
    (hreturns : (s.run disk id first base file).1.isOk) :
    let whole := s.run disk id (first ++ "\n" ++ second) base file
    let later := (s.run disk id first base file).2.run disk id second base file
    whole.1.map (fun _ => ()) = later.1.map (fun _ => ()) ∧ whole.2.outcome = later.2.outcome ∧
      ∀ other, (whole.2.interpreter other).report.codes =
        (later.2.interpreter other).report.codes := by
  intro whole later
  have hbalanced : ∀ text, Balanced (Exec.say disk 0 text) := within_say disk Session.books_law 0
  have hsay : ∀ text, Matches (fun s t => t.outcome = s.outcome) Eq (Exec.say disk 0 text)
      (Exec.say disk 0 text) := fun text => matches_tell Session.outcome_coupling _
  have hserved := Session.reactions_run disk id first base file hplain
  cases hfirst : s.run disk id first base file with
  | mk ended t =>
      cases ended with
      | error fault => simp [hfirst, Except.isOk, Except.toBool] at hreturns
      | ok result =>
          have hlater : later = Exec.run disk (Exec.say disk 0) id second base file t := by
            simp only [later, hfirst]
            rw [hfirst] at hserved
            exact Session.run_plain disk id second base file hserved
          rw [Session.run_plain disk id first base file hplain] at hfirst
          have hmatch := match_run_append hsay hbalanced hclosed hstatements hfirst
          rw [show whole = _ from Session.run_plain disk id _ base file hplain, hlater]
          exact ⟨hmatch.ends, hmatch.sessions, Session.codes_outcome_congr hmatch.sessions⟩

/-- The first script defines a function and opens a window. The second one calls the function,
writes into the window and asks for a variable that is not there. -/
theorem run_append_agrees_with_runs_of_call :
    let disk : Disk := { Disk.blank with read := fun _ => .error .notFound }
    let s : Session :=
      { host := some { surface := .buffer {} }, interpreters := #[{ config := {} }] }
    let first := "function f \x7b\nprint \"in f\"\n\x7d\n@NEW WINDOW \x7b\x7d"
    let second := "call f\n@UPDATE WINDOW TEXT = \"b\"\nprint @y"
    let whole := s.run disk 0 (first ++ "\n" ++ second) {} none
    let later := (s.run disk 0 first {} none).2.run disk 0 second {} none
    (s.reactions = [] ∧ (Outline.ofLines (Line.scan first none)).Closed ∧
      (∀ line ∈ Line.scan second none, Segment.isFunctionHeader line.text.toList = false ∧
        Segment.isWindowHeader line.text.toList = false) ∧
      (s.run disk 0 first {} none).1.isOk) ∧
    whole.2.outcome = later.2.outcome ∧ (whole.2.interpreter 0).report.codes = ["E301"] ∧
    whole.2.windows.size = 1 := by
  intro disk s first second
  have hclosed : (Outline.ofLines (Line.scan first none)).Closed := by decide +kernel
  have hstatements : ∀ line ∈ Line.scan second none,
      Segment.isFunctionHeader line.text.toList = false ∧
        Segment.isWindowHeader line.text.toList = false := by decide +kernel
  have hreturns : (s.run disk 0 first {} none).1.isOk := by decide +kernel
  obtain ⟨-, houtcome, -⟩ := run_append_agrees_with_runs s disk 0 first second {} none rfl hclosed
    hstatements hreturns
  exact ⟨⟨rfl, hclosed, hstatements, hreturns⟩, houtcome, by decide +kernel⟩

end LineScript
