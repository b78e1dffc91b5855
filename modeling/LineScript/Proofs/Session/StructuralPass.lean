import LineScript.Proofs.Script.Segmentation
import LineScript.Proofs.Session.Refusal

/-! # The structural pass of a run

Before a script is executed, its functions go into the store of the interpreter, its windows are
opened and its rejected headers are reported, all in the order of the segments. A function takes the
place of an earlier one of its name, whether that came from the same script or was there before.
-/

namespace LineScript

def Interpreter.taking (i : Interpreter) (segment : Segment) : Interpreter :=
  { i with
    store := segment.function?.elim i.store i.store.addFunction
    report := segment.diagnostic?.elim i.report i.report.add }

def Interpreter.opening (i : Interpreter) (id : Nat) (base : Path) (segment : Segment) :
    Option OpenWindow :=
  segment.window?.map fun found =>
    { window := Window.ofBody found.2 i.config.defaultWindowTitle, owner := id, base }

namespace Interpreter

/-- Segments change the functions and the report of an interpreter and nothing else. -/
theorem foldl_taking (i : Interpreter) (segments : List Segment) :
    let taken := segments.foldl taking i
    taken = { i with store := { i.store with functions := taken.store.functions }
                     report := taken.report } ∧
    taken.store.functions = (segments.filterMap Segment.function?).foldl
      (fun table routine => table.put routine.name routine) i.store.functions ∧
    taken.report.diagnostics.toList =
      i.report.diagnostics.toList ++ segments.filterMap Segment.diagnostic? := by
  induction segments generalizing i with
  | nil => simp
  | cons segment segments ih =>
      obtain ⟨hrest, hfunctions, hreport⟩ := ih (i.taking segment)
      refine ⟨?_, ?_, ?_⟩
      · rw [List.foldl_cons]
        refine hrest.trans ?_
        cases segment <;> rfl
      · rw [List.foldl_cons]
        refine hfunctions.trans ?_
        cases segment <;> rfl
      · rw [List.foldl_cons]
        refine hreport.trans ?_
        cases segment <;>
          simp [taking, Segment.diagnostic?, List.filterMap_cons, Report.add]

end Interpreter

namespace Exec

open Session

theorem openWindow_apply (id : Nat) (base : Path) (body : List Text) (s : Session) :
    ∃ t, openWindow id base body s =
      (.ok { window := Window.ofBody body (s.interpreter id).config.defaultWindowTitle
             owner := id, base }, t) ∧ t.interpreters = s.interpreters :=
  ⟨_, rfl, interpreters_tell _ _⟩

theorem addFunction_apply {s : Session} {id : Nat} (hid : id < s.interpreters.size)
    (routine : Routine) :
    ∃ t, addFunction id routine s = (.ok (), t) ∧ t.interpreters.size = s.interpreters.size ∧
      t.interpreter id =
        { s.interpreter id with store := (s.interpreter id).store.addFunction routine } := by
  unfold addFunction
  simp only [bind_apply, interpreter]
  split
  · exact ⟨_, rfl, size_modifyInterpreter _ _ _, interpreter_modifyInterpreter_self hid _⟩
  · exact ⟨_, rfl, size_modifyInterpreter _ _ _, interpreter_modifyInterpreter_self hid _⟩

theorem takeSegment_apply {s : Session} {id : Nat} (hid : id < s.interpreters.size) (base : Path)
    (segment : Segment) :
    ∃ t, takeSegment id base segment s = (.ok ((s.interpreter id).opening id base segment), t) ∧
      t.interpreters.size = s.interpreters.size ∧
      t.interpreter id = (s.interpreter id).taking segment := by
  cases segment with
  | statement line => exact ⟨s, rfl, rfl, rfl⟩
  | function header name body closing =>
      obtain ⟨t, ht, hsize, hi⟩ :=
        addFunction_apply hid { name, body, location := header.location }
      refine ⟨t, ?_, hsize, hi⟩
      simp only [takeSegment, bind_apply, ht]
      rfl
  | window header body closing =>
      obtain ⟨t, ht, hi⟩ := openWindow_apply id base (body.map (·.text)) s
      refine ⟨t, ?_, by rw [hi], ?_⟩
      · simp only [takeSegment, bind_apply, ht]
        rfl
      · simp only [Session.interpreter, hi]
        rfl
  | inlineWindow header body =>
      obtain ⟨t, ht, hi⟩ := openWindow_apply id base body s
      refine ⟨t, ?_, by rw [hi], ?_⟩
      · simp only [takeSegment, bind_apply, ht]
        rfl
      · simp only [Session.interpreter, hi]
        rfl
  | rejected header problem =>
      obtain ⟨t, ht, hrefused⟩ := report_refused id (problem.on header) s
      refine ⟨t, ?_, hrefused.size_eq, hrefused.interpreter_eq hid⟩
      simp only [takeSegment, bind_apply, ht]
      rfl

theorem takeSegments_apply {s : Session} {id : Nat} (hid : id < s.interpreters.size) (base : Path)
    (segments : List Segment) :
    ∃ t, takeSegments id base segments s =
        (.ok (segments.filterMap ((s.interpreter id).opening id base)), t) ∧
      t.interpreter id = segments.foldl Interpreter.taking (s.interpreter id) := by
  induction segments generalizing s with
  | nil => exact ⟨s, rfl, rfl⟩
  | cons segment segments ih =>
      obtain ⟨t, ht, hsize, hi⟩ := takeSegment_apply hid base segment
      obtain ⟨u, hu, hfold⟩ := ih (s := t) (by rw [hsize]; exact hid)
      have hopening : (t.interpreter id).opening id base =
          (s.interpreter id).opening id base := by
        rw [hi]
        rfl
      refine ⟨u, ?_, ?_⟩
      · simp only [takeSegments, bind_apply, ht, hu, hopening, pure_apply, List.filterMap_cons]
        cases (s.interpreter id).opening id base segment <;> rfl
      · rw [List.foldl_cons, ← hi]
        exact hfold

/-- After the structural pass, preparing a script logs a line, shows the banner and begins a run. -/
theorem prepare_taken {s t : Session} {id : Nat} {source : Text} {base : Path}
    {file : Option Text} {windows : List OpenWindow}
    (h : takeSegments id base (Segment.ofLines (Line.scan source file)) s = (.ok windows, t)) :
    ∃ script text, prepare id source base file s =
        (.ok script,
          ((t.record (.logged .execution text)).tell (.debug .banner)).beginRun id) ∧
      script.statements = (Segment.ofLines (Line.scan source file)).filterMap Segment.statement? ∧
      script.frame =
        { base, depth := if (s.interpreter id).activeRuns = 0 then 0
            else (s.interpreter id).depth + 1 } := by
  unfold prepare
  simp only [bind_apply, interpreter, h]
  exact ⟨_, _, rfl, rfl, rfl⟩

theorem windows_of_prepare {s t u : Session} {id : Nat} {source : Text} {base : Path}
    {file : Option Text} {windows : List OpenWindow} {script : Prepared}
    (h : takeSegments id base (Segment.ofLines (Line.scan source file)) s = (.ok windows, t))
    (hp : prepare id source base file s = (.ok script, u)) : script.windows = windows := by
  unfold prepare at hp
  simp only [bind_apply, interpreter, h] at hp
  cases (Prod.mk.inj hp).1
  rfl

end Exec

open Segment in
/-- The structural pass cuts a script into the one list of segments that take up all its lines in
order and are each right in their place. A header is rejected exactly if it is faulty there. Each
segment goes to its part of the outline, in order. In a run, functions join those that the
interpreter has already, the last one of a name counts, and each rejected header is reported once.
-/
theorem structuralPass_cuts (ls : List Line) :
    let segments := ofLines ls
    let outline := Outline.ofLines ls
    let latest := fun name => ((segments.filterMap function?).filter (·.name = name)).getLast?
    (∀ cut, Segmentation ls cut ↔ cut = segments) ∧
    segments.flatMap Segment.lines = ls ∧
    (∀ before segment rest header later, segments = before ++ segment :: rest →
      header :: later = segment.lines ++ rest.flatMap Segment.lines →
      ∀ problem, segment = .rejected header problem ↔ Faulty header later problem) ∧
    (∀ name, [Problem.missingFunctionName, .missingFunctionBrace name, .unterminatedFunction name,
      .missingWindowBrace, .unterminatedWindow].map Problem.code =
        ["E101", "E102", "E103", "E104", "E105"]) ∧
    outline.statements.toList = segments.filterMap statement? ∧
    outline.windows.toList.map (·.body) = (segments.filterMap window?).map (·.2) ∧
    outline.problems.toList = segments.filterMap diagnostic? ∧
    (∀ name, outline.functions.get? name = latest name) ∧
    ∀ (s : Session) (id : Nat) (base : Path), id < s.interpreters.size →
      ∃ t, Exec.takeSegments id base segments s =
          (.ok (segments.filterMap ((s.interpreter id).opening id base)), t) ∧
        (∀ name, (t.interpreter id).store.functions.get? name =
          (latest name).or ((s.interpreter id).store.functions.get? name)) ∧
        (t.interpreter id).report.diagnostics.toList =
          (s.interpreter id).report.diagnostics.toList ++ segments.filterMap diagnostic? ∧
        t.interpreter id =
          { s.interpreter id with
            store := { (s.interpreter id).store with
              functions := (t.interpreter id).store.functions }
            report := (t.interpreter id).report } := by
  intro segments outline latest
  have hseg : Segmentation ls segments := segmentation_ofLines ls
  obtain ⟨hstatements, hwindows, hproblems, hfunctions⟩ := Outline.addAll_finds {} 0 segments
  refine ⟨?_, hseg.flatMap_lines, ?_, fun name => rfl, ?_, ?_, ?_, ?_, ?_⟩
  · intro cut
    constructor
    · exact Segmentation.eq_ofLines
    · rintro rfl
      exact hseg
  · intro before segment rest header later hsplit heq problem
    rw [hsplit] at hseg
    exact hseg.fits.rejected_iff heq
  · exact hstatements
  · exact hwindows
  · exact hproblems
  · intro name
    change (Outline.addAll {} 0 segments).functions.get? name = _
    rw [hfunctions, Table.get?_foldl_put]
    exact Option.or_none
  · intro s id base hid
    obtain ⟨t, htaken, hi⟩ := Exec.takeSegments_apply hid base segments
    obtain ⟨hrest, htable, hreport⟩ := (s.interpreter id).foldl_taking segments
    rw [← hi] at hrest htable hreport
    refine ⟨t, htaken, ?_, hreport, hrest⟩
    intro name
    rw [htable, Table.get?_foldl_put]

open Segment in
/-- A header without a brace comes before a function and a window. -/
theorem structuralPass_cuts_at_missing_brace :
    let header : Line := { text := "function g" }
    let later : List Line :=
      [{ text := "function f \x7b" }, { text := "print 1" }, { text := "\x7d" },
        { text := "@NEW WINDOW \x7b\x7d" }]
    let s : Session := { interpreters := #[{}] }
    Faulty header later (.missingFunctionBrace "g") ∧
    starting header later = .rejected header (.missingFunctionBrace "g") ∧
    0 < s.interpreters.size ∧
    ∃ windows t, Exec.takeSegments 0 {} (ofLines (header :: later)) s = (.ok windows, t) ∧
      windows.length = 1 ∧
      ((t.interpreter 0).store.functions.get? "f").map (·.body.map (·.text)) =
        some [.ofString "print 1"] ∧
      (t.interpreter 0).report.diagnostics.toList.map (·.code) = ["E102"] := by
  intro header later s
  have hfaulty : Faulty header later (.missingFunctionBrace "g") :=
    .missingFunctionBrace (by decide +kernel) (by decide +kernel) (by decide +kernel)
  have hid : 0 < s.interpreters.size := by decide
  obtain ⟨-, hlines, hrejected, -, -, -, -, -, hrun⟩ := structuralPass_cuts (header :: later)
  obtain ⟨t, ht, hfunctions, hreport, -⟩ := hrun s 0 {} hid
  refine ⟨hfaulty, ?_, hid, _, t, ht, by decide +kernel, ?_, ?_⟩
  · exact (hrejected [] _ _ header later rfl hlines.symm _).2 hfaulty
  · rw [hfunctions]
    decide +kernel
  · rw [hreport]
    decide +kernel

end LineScript
