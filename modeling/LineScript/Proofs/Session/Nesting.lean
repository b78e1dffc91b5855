import LineScript.Proofs.Session.Coupling
import LineScript.Proofs.Session.StructuralPass

/-! # Nesting

The nesting of a session is the part of its books that frames come from: for every interpreter the
depth limit, the depth and the unfinished runs, and the interpreters that the host takes to be
executing. Coupled sessions whose nesting agrees open the same frames. Lines that are akin are
therefore executed in the same way in both, with any number of levels: they end with the same fault
or with none, and in sessions that are still coupled. Since every line puts the books back, the
nesting agrees again between any two lines.
-/

namespace LineScript

def Interpreter.nesting (i : Interpreter) : Int × Int × Nat :=
  (i.config.depthLimit, i.depth, i.activeRuns)

namespace Session

def nesting (s : Session) : Array (Int × Int × Nat) × Option (List Nat) :=
  (s.interpreters.map Interpreter.nesting, s.host.map (·.executing))

theorem map_modify {α : Type} (interpreters : Array Interpreter) (id : Nat)
    (view : Interpreter → α) (change : Interpreter → Interpreter) (change' : α → α)
    (h : ∀ i, view (change i) = change' (view i)) :
    (interpreters.modify id change).map view = (interpreters.map view).modify id change' := by
  apply Array.ext_getElem?
  intro k
  simp only [Array.getElem?_map, Array.getElem?_modify]
  by_cases hk : id = k
  · cases interpreters[k]? <;> simp [hk, h]
  · simp [hk]

variable {s t : Session}

/-! ## Reading the nesting -/

theorem nesting_eq_of_books (h : t.books = s.books) : t.nesting = s.nesting := by
  have hread : ∀ u : Session, u.nesting =
      (u.books.1.map fun b => (b.1.depthLimit, b.2), u.books.2) := by
    intro u
    simp only [nesting, books, Array.map_map]
    rfl
  rw [hread, hread, h]

theorem interpreter_nesting_congr (h : t.nesting = s.nesting) (id : Nat) :
    (t.interpreter id).nesting = (s.interpreter id).nesting :=
  view_interpreter_congr Interpreter.nesting (congrArg (·.1) h) id

theorem activeInterpreter_nesting_congr (h : t.nesting = s.nesting) :
    t.activeInterpreter = s.activeInterpreter :=
  activeInterpreter_eq_of_executing (congrArg (·.2) h)

/-- Scripts that are opened in sessions with the same nesting are equally deep. -/
theorem scriptDepth_congr (h : t.nesting = s.nesting) (id : Nat) :
    (if (t.interpreter id).activeRuns = 0 then 0 else (t.interpreter id).depth + 1) =
      if (s.interpreter id).activeRuns = 0 then 0 else (s.interpreter id).depth + 1 := by
  have hi := interpreter_nesting_congr h id
  simp only [Interpreter.nesting, Prod.mk.injEq] at hi
  rw [hi.2.1, hi.2.2]

theorem nesting_beginRun_congr (h : t.nesting = s.nesting) (id : Nat) :
    (t.beginRun id).nesting = (s.beginRun id).nesting := by
  have hread : ∀ u : Session, (u.beginRun id).nesting =
      (u.nesting.1.modify id fun b => (b.1, b.2.1, b.2.2 + 1), u.nesting.2) := by
    intro u
    refine Prod.ext ?_ rfl
    exact map_modify u.interpreters id Interpreter.nesting
      (fun i => { i with activeRuns := i.activeRuns + 1 }) (fun b => (b.1, b.2.1, b.2.2 + 1))
      fun _ => rfl
  rw [hread, hread, h]

theorem nesting_enter_congr (h : t.nesting = s.nesting) (id : Nat) (frame : Frame) :
    (t.enter id frame).nesting = (s.enter id frame).nesting := by
  have hread : ∀ u : Session, (u.enter id frame).nesting =
      (u.nesting.1.modify id fun b => (b.1, frame.depth, b.2.2), u.nesting.2.map (id :: ·)) := by
    intro u
    refine Prod.ext ?_ ?_
    · exact map_modify u.interpreters id Interpreter.nesting
        (fun i => { i with depth := frame.depth }) (fun b => (b.1, frame.depth, b.2.2)) fun _ => rfl
    · cases hhost : u.host <;>
        simp [nesting, enter, pushExecuting, modifyInterpreter, record, hhost]
  rw [hread, hread, h]

end Session

namespace Exec

open Session

variable {R : Session → Session → Prop} {kin : Line → Line → Prop} {disk : Disk}
  {say : Text → Exec Unit} {id : Nat} {frame : Frame} {s t : Session}

/-- The depth of what a statement opens, and the nesting of the session then, rest on the nesting
before. -/
theorem opened_nesting (hbalanced : ∀ text, Balanced (say text)) {line : Line} {o : Opening}
    {s' : Session} (h : step disk say id frame line s = (.ok (some o), s')) :
    (o.script = none ∧ o.frame.depth = frame.depth + 1 ∧ s'.nesting = s.nesting) ∨
    (o.script.isSome ∧ o.interpreter = s.activeInterpreter ∧
      o.frame.depth = (if (s.interpreter s.activeInterpreter).activeRuns = 0 then 0
        else (s.interpreter s.activeInterpreter).depth + 1) ∧
      s'.nesting = (s.beginRun s.activeInterpreter).nesting) := by
  have hbooks : ((s.traced id line).act id frame line (s.actionOf id frame line)).books =
      s.books := by
    rw [books_act, books_traced]
  rw [step_apply] at h
  rcases perform_some h with ⟨name, arguments, -, hcall⟩ | ⟨path, -, hscript⟩
  · obtain ⟨u, hu, hc⟩ := openCall_apply id name arguments frame
      ((s.traced id line).act id frame line (s.actionOf id frame line))
    obtain ⟨ho, rfl⟩ := Prod.mk.inj (hu.symm.trans hcall)
    cases ho
    exact .inl ⟨rfl, rfl, nesting_eq_of_books ((books_law.changes hc).trans hbooks)⟩
  · obtain ⟨-, hi, hpath, hdepth, u, hu, rfl⟩ := openScript_some hbalanced hscript
    have hactive := activeInterpreter_congr hbooks
    have hruns := interpreter_books_congr hbooks s.activeInterpreter
    simp only [Interpreter.books, Prod.mk.injEq] at hruns
    rw [hactive] at hi hdepth
    rw [hruns.2.1, hruns.2.2] at hdepth
    refine .inr ⟨by simp [hpath], hi, hdepth, ?_⟩
    rw [hi]
    exact nesting_beginRun_congr (nesting_eq_of_books (hu.trans hbooks)) _

/-- Statements of coupled sessions open the same frame, and leave the nesting equal. -/
theorem opened_coupled (hbalanced : ∀ text, Balanced (say text)) {line line' : Line}
    {o o' : Opening} {s' t' : Session} (hnesting : t.nesting = s.nesting) (ho : o.Alike kin o')
    (h : step disk say id frame line s = (.ok (some o), s'))
    (h' : step disk say id frame line' t = (.ok (some o'), t')) :
    o'.frame = o.frame ∧ t'.nesting = s'.nesting := by
  have hactive := activeInterpreter_nesting_congr hnesting
  have hdepth : o'.frame.depth = o.frame.depth → o'.frame = o.frame := by
    intro hsame
    rw [ho.frame, hsame]
  rcases opened_nesting hbalanced h with ⟨hnone, hframe, hs'⟩ | ⟨hsome, -, hframe, hs'⟩
  · rcases opened_nesting hbalanced h' with ⟨-, hframe', ht'⟩ | ⟨hsome', -⟩
    · exact ⟨hdepth (hframe'.trans hframe.symm), by rw [ht', hs', hnesting]⟩
    · rw [ho.script, hnone] at hsome'
      cases hsome'
  · rcases opened_nesting hbalanced h' with ⟨hnone', -⟩ | ⟨-, -, hframe', ht'⟩
    · rw [ho.script] at hnone'
      rw [hnone'] at hsome
      cases hsome
    · rw [hactive, scriptDepth_congr hnesting] at hframe'
      rw [hactive] at ht'
      exact ⟨hdepth (hframe'.trans hframe.symm), by
        rw [ht', hs', nesting_beginRun_congr hnesting]⟩

theorem books_takeSegments {base : Path} {segments : List Segment} {windows : List OpenWindow}
    (h : takeSegments id base segments s = (.ok windows, t)) : t.books = s.books := by
  have hbalanced : Balanced (takeSegments id base segments) :=
    (calm_takeSegments id base segments).within books_law
  exact hbalanced.books_eq h

/-- A prepared script is one level below what is running, and its run has begun. -/
theorem prepare_nesting {source : Text} {base : Path} {file : Option Text} {script : Prepared}
    (h : prepare id source base file s = (.ok script, t)) :
    script.frame =
      { base, depth := if (s.interpreter id).activeRuns = 0 then 0
          else (s.interpreter id).depth + 1 } ∧
    t.nesting = (s.beginRun id).nesting := by
  obtain ⟨windows, u, htaken, -⟩ :=
    calm_takeSegments id base (Segment.ofLines (Line.scan source file)) s
  obtain ⟨script', text, hp, -, hframe⟩ := prepare_taken htaken
  obtain ⟨hscript, rfl⟩ := Prod.mk.inj (hp.symm.trans h)
  cases hscript
  have hbooks := books_takeSegments htaken
  refine ⟨hframe, ?_⟩
  apply nesting_beginRun_congr
  apply nesting_eq_of_books
  rw [books_tell]
  exact hbooks

theorem prepare_nesting_congr {source source' : Text} {base : Path} {file file' : Option Text}
    {script script' : Prepared} {u v : Session} (hnesting : t.nesting = s.nesting)
    (h : prepare id source base file s = (.ok script, u))
    (h' : prepare id source' base file' t = (.ok script', v)) :
    script'.frame = script.frame ∧ v.nesting = u.nesting := by
  obtain ⟨hframe, hu⟩ := prepare_nesting h
  obtain ⟨hframe', hv⟩ := prepare_nesting h'
  constructor
  · rw [hframe, hframe', scriptDepth_congr hnesting]
  · rw [hu, hv, nesting_beginRun_congr hnesting]

section Coupled

variable (coupling : Coupling R kin) (hsay : ∀ text, Matches R Eq (say text) (say text))
  (hbalanced : ∀ text, Balanced (say text))

/-- A runner executes lines that are akin in the same way, in coupled sessions with the same
nesting. -/
def RunsCoupled (R : Session → Session → Prop) (kin : Line → Line → Prop) (runner : Runner) :
    Prop :=
  ∀ id frame ls ls' s t, List.Forall₂ kin ls ls' → R s t → t.nesting = s.nesting →
    Match R Eq (runner id frame ls s) (runner id frame ls' t)

include coupling hsay hbalanced

theorem match_executeLine_of_step {runner : Runner} (hrunner : RunsCoupled R kin runner)
    {line line' : Line} (hnesting : t.nesting = s.nesting)
    (hstep : Match R (Option.Rel (Opening.Alike kin)) (step disk say id frame line s)
      (step disk say id frame line' t)) :
    Match R Eq (executeLine disk say runner id frame line s)
      (executeLine disk say runner id frame line' t) := by
  refine hstep.bind fun opened opened' s' t' h h' ho hR' => ?_
  cases ho with
  | none => exact .ok rfl hR'
  | @some o o' ho =>
      obtain ⟨hframe, hnesting'⟩ := opened_coupled hbalanced hnesting ho h h'
      have hbody : Match R Eq (runner o.interpreter o.frame o.lines s')
          (runner o'.interpreter o'.frame o'.lines t') := by
        rw [ho.interpreter, hframe]
        exact hrunner _ _ _ _ _ _ ho.lines hR' hnesting'
      have hcompleted := match_complete (s := s') (t := t') coupling hsay ho hbody
      change Match R Eq (complete say runner o s') (complete say runner o' t')
      rw [complete_congr say rfl, complete_congr say rfl]
      exact hcompleted

theorem match_executeLine {runner : Runner} (hrunner : RunsCoupled R kin runner)
    {line line' : Line} (hline : kin line line') (hR : R s t) (hnesting : t.nesting = s.nesting) :
    Match R Eq (executeLine disk say runner id frame line s)
      (executeLine disk say runner id frame line' t) := by
  have hlimit : (t.interpreter id).config.depthLimit = (s.interpreter id).config.depthLimit :=
    congrArg (·.1) (interpreter_nesting_congr hnesting id)
  exact match_executeLine_of_step coupling hsay hbalanced hrunner hnesting
    (match_step coupling hsay hR (activeInterpreter_nesting_congr hnesting) rfl hline
      (coupling.action hR hline id frame hlimit))

theorem match_each {runner : Runner} (hrunner : RunsCoupled R kin runner)
    (hkept : ∀ id frame ls, Balanced (runner id frame ls)) {ls ls' : List Line}
    (hlines : List.Forall₂ kin ls ls') (hR : R s t) (hnesting : t.nesting = s.nesting) :
    Match R Eq (each (executeLine disk say runner id frame) ls s)
      (each (executeLine disk say runner id frame) ls' t) := by
  induction hlines generalizing s t with
  | nil => exact .ok rfl hR
  | @cons line line' ls ls' hline _ ih =>
      rw [each_cons, each_cons]
      refine (match_executeLine coupling hsay hbalanced hrunner hline hR hnesting).bind ?_
      intro _ _ s' t' h h' _ hR'
      have hs' := within_executeLine disk books_law hbalanced hkept id frame line s
      have ht' := within_executeLine disk books_law hbalanced hkept id frame line' t
      rw [h] at hs'
      rw [h'] at ht'
      exact ih hR' (by rw [nesting_eq_of_books ht', nesting_eq_of_books hs', hnesting])

/-- Lines that are akin are executed in the same way, with any number of levels. -/
theorem runsCoupled_lines (levels : Nat) : RunsCoupled R kin (lines disk say levels) := by
  induction levels with
  | zero => exact fun _ _ _ _ _ _ _ hR _ => .ok rfl hR
  | succ levels ih =>
      intro id frame ls ls' s t hlines hR hnesting
      have hkept := within_lines disk books_law hbalanced levels
      have heach : Match R Eq
          (each (executeLine disk say (lines disk say levels) id frame) ls (s.enter id frame))
          (each (executeLine disk say (lines disk say levels) id frame) ls' (t.enter id frame)) :=
        match_each coupling hsay hbalanced ih hkept hlines (coupling.entered id frame frame hR)
          (nesting_enter_congr hnesting id frame)
      exact match_left coupling heach id _ _

theorem match_each_lines (levels : Nat) {ls ls' : List Line} (hlines : List.Forall₂ kin ls ls')
    (hR : R s t) (hnesting : t.nesting = s.nesting) :
    Match R Eq (each (executeLine disk say (lines disk say levels) id frame) ls s)
      (each (executeLine disk say (lines disk say levels) id frame) ls' t) :=
  match_each coupling hsay hbalanced (runsCoupled_lines coupling hsay hbalanced levels)
    (within_lines disk books_law hbalanced levels) hlines hR hnesting

omit hsay hbalanced in
theorem prepare_coupled {source source' : Text} {base : Path} {file file' : Option Text}
    {windows windows' : List OpenWindow} {s' t' : Session} (hnesting : t.nesting = s.nesting)
    (htaken : takeSegments id base (Segment.ofLines (Line.scan source file)) s =
      (.ok windows, s'))
    (htaken' : takeSegments id base (Segment.ofLines (Line.scan source' file')) t =
      (.ok windows', t')) (hR : R s' t') :
    ∃ script script' u v, prepare id source base file s = (.ok script, u) ∧
      prepare id source' base file' t = (.ok script', v) ∧
      script.statements = (Segment.ofLines (Line.scan source file)).filterMap Segment.statement? ∧
      script'.statements =
        (Segment.ofLines (Line.scan source' file')).filterMap Segment.statement? ∧
      script'.frame = script.frame ∧ R u v ∧ v.nesting = u.nesting := by
  obtain ⟨script, text, hp, hstatements, -⟩ := prepare_taken htaken
  obtain ⟨script', text', hp', hstatements', -⟩ := prepare_taken htaken'
  obtain ⟨hframe, hnesting'⟩ := prepare_nesting_congr hnesting hp hp'
  refine ⟨script, script', _, _, hp, hp', hstatements, hstatements', hframe, ?_, hnesting'⟩
  exact coupling.begun id (coupling.told _ rfl (coupling.logged _ _ _ _ hR))

end Coupled

/-! ## Runs -/

theorem each_append {β : Type} {f : β → Exec Unit} {bs more : List β} {u : Session}
    (h : each f bs s = (.ok (), u)) : each f (bs ++ more) s = each f more u := by
  induction bs generalizing s with
  | nil =>
      obtain ⟨-, rfl⟩ := Prod.mk.inj h
      rfl
  | cons b bs ih =>
      obtain ⟨_, v, hb, hbs⟩ := bind_ok h
      rw [List.cons_append, each_cons, bind_apply, hb]
      exact ih hbs

theorem run_apply {source : Text} {base : Path} {file : Option Text} {script : Prepared}
    (hp : prepare id source base file s = (.ok script, t)) :
    let levels := 2 * (s.interpreter id).config.depthLimit.toNat
    let out := each (executeLine disk say (lines disk say levels) id script.frame)
      script.statements (t.enter id script.frame)
    let left := (out.2.leave id (t.interpreter id).depth).endRun id
    run disk say id source base file s =
      (out.1.map fun _ => script.result (left.interpreter id), left) := by
  intro levels out left
  have hrun : run disk say id source base file s =
      runWith (activation disk say (lines disk say levels)) id source base file s := rfl
  rw [hrun, runWith_congr hp (activation_apply disk say _ id script.frame script.statements t),
    runWith_outcome hp]

theorem run_returns {source : Text} {base : Path} {file : Option Text} {script : Prepared}
    {result : RunResult} {u : Session} (hp : prepare id source base file s = (.ok script, t))
    (h : run disk say id source base file s = (.ok result, u)) :
    ∃ v, each (executeLine disk say
      (lines disk say (2 * (s.interpreter id).config.depthLimit.toNat)) id
        script.frame) script.statements (t.enter id script.frame) = (.ok (), v) ∧
      u = (v.leave id (t.interpreter id).depth).endRun id := by
  rw [run_apply hp] at h
  revert h
  generalize each _ script.statements _ = out
  obtain ⟨ends, v⟩ := out
  intro h
  obtain ⟨hends, rfl⟩ := Prod.mk.inj h
  cases ends with
  | ok done => exact ⟨v, rfl, rfl⟩
  | error fault => cases hends

theorem match_run (coupling : Coupling R kin) {q : RunResult → RunResult → Prop}
    {source source' : Text} {base base' : Path} {file file' : Option Text}
    {script script' : Prepared} {u v : Session}
    (hp : prepare id source base file s = (.ok script, u))
    (hp' : prepare id source' base' file' t = (.ok script', v))
    (hresult : ∀ s' t', R s' t' →
      q (script.result (s'.interpreter id)) (script'.result (t'.interpreter id)))
    (hbody : Match R Eq
      (each (executeLine disk say (lines disk say (2 * (s.interpreter id).config.depthLimit.toNat))
        id script.frame) script.statements (u.enter id script.frame))
      (each (executeLine disk say (lines disk say (2 * (t.interpreter id).config.depthLimit.toNat))
        id script'.frame) script'.statements (v.enter id script'.frame))) :
    Match R q (run disk say id source base file s)
      (run disk say id source' base' file' t) := by
  rw [run_apply hp, run_apply hp']
  have hended : ∀ {s' t' : Session}, R s' t' →
      R ((s'.leave id (u.interpreter id).depth).endRun id)
        ((t'.leave id (v.interpreter id).depth).endRun id) := fun hR =>
    coupling.ended id (coupling.left id _ _ hR)
  revert hbody
  generalize each _ script.statements _ = out, each _ script'.statements _ = out'
  rintro (⟨-, hR⟩ | hR)
  · exact .ok (hresult _ _ (hended hR)) (hended hR)
  · exact .error (hended hR)

end Exec

end LineScript
