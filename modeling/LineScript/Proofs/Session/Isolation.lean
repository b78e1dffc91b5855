import LineScript.Proofs.Memory.Ledger
import LineScript.Proofs.Session.WritesFor
import LineScript.Proofs.Session.Prediction

/-! # Interpreters that share a host

Any number of interpreters may work for one host, one operation after the other. The main result is
that an operation touches only the interpreter that it is invoked on, and that every external script
that it gets to, at any nesting depth, is taken and executed in this interpreter.
-/

namespace LineScript

/-- What an application does with a host and its interpreters. -/
inductive Operation where
  | add (config : Config)
  | run (id : Nat) (source : Text) (base : Path) (file : Option Text)
  | execute (id : Nat) (text : Text) (base : Path)
  | press (index : Int)

def Engine.operate (engine : Engine) (s : Session) : Operation → Session
  | .add config => s.addInterpreter config
  | .run id source base file => (engine.run id source base file s).2
  | .execute id text base => (engine.execute id text base s).2
  | .press index => (engine.press index s).2

namespace Session

/-- The session after an operation, whether it returns or breaks off. -/
def operate (s : Session) (disk : Disk) : Operation → Session
  | .add config => s.addInterpreter config
  | .run id source base file => (s.run disk id source base file).2
  | .execute id text base => (s.execute disk id text base).2
  | .press index => (s.press disk index).2

def operateOn (s : Session) (stack : Nat) (disk : Disk) (operation : Operation) : Session :=
  (Exec.engineOn disk (Exec.sayOn disk s.reactions.length) stack).operate s operation

def ExecuteReaches (s : Session) (disk : Disk) (id : Nat) (text : Text) (base : Path)
    (p : Place) : Prop :=
  Exec.Reaches disk (Exec.say disk s.reactions.length) [] id { base } [.ofStatement text]
    (s.enter id { base }) p

end Session

namespace Operation

open Session

/-- The interpreter that an operation is invoked on. The button of a window belongs to the
interpreter that opened it. -/
def interpreter? (s : Session) : Operation → Option Nat
  | .add _ => none
  | .run id _ _ _ => some id
  | .execute id _ _ => some id
  | .press index => (windowAt? s.windows index).map (·.owner)

/-- The interpreter that an operation names is there. -/
def Suits (s : Session) : Operation → Prop
  | .run id _ _ _ => id < s.interpreters.size
  | .execute id _ _ => id < s.interpreters.size
  | _ => True

def Reaches (disk : Disk) (s : Session) : Operation → Place → Prop
  | .add _, _ => False
  | .run id source base file, p => s.Reaches disk id source base file p
  | .execute id text base, p => s.ExecuteReaches disk id text base p
  | .press index, p => ∃ w button, windowAt? s.windows index = some w ∧
      w.window.button = some button ∧ s.ExecuteReaches disk w.owner button.statement w.base p

end Operation

/-- The sessions that come about when an application uses a host, with any disk at any time. -/
inductive Session.Operated (surface : Surface) : Session → Prop
  | start : Operated surface { host := some { surface } }
  | next {s : Session} (h : Operated surface s) (disk : Disk) (operation : Operation)
      (hsuits : operation.Suits s) : Operated surface (s.operate disk operation)

/-! ## For whom an operation writes -/

namespace Engine

open Exec Session

variable {s : Session} {index : Int} {w : OpenWindow}

theorem press_of_none (engine : Engine) (hw : windowAt? s.windows index = none) :
    engine.press index s = (.error .windowIndex, s) := by
  unfold windows at hw
  simp only [press, bind_apply, Exec.get, hw, fail]

theorem press_of_some (engine : Engine) (hw : windowAt? s.windows index = some w) :
    engine.press index s = engine.pressWindow w s := by
  unfold windows at hw
  simp only [press, bind_apply, Exec.get, hw]

theorem press_button {button : Button} (engine : Engine) (hw : windowAt? s.windows index = some w)
    (hbutton : w.window.button = some button) :
    engine.press index s =
      ((engine.execute w.owner button.statement w.base s).1.map fun _ => true,
        (engine.execute w.owner button.statement w.base s).2) := by
  have hpressed : engine.pressWindow w =
      (engine.execute w.owner button.statement w.base >>= fun _ => pure true) := by
    simp only [pressWindow, hbutton]
  rw [press_of_some engine hw, hpressed, bind_apply]
  cases engine.execute w.owner button.statement w.base s with
  | mk result t => cases result <;> rfl

/-- The statement of a button that is pressed is executed; otherwise pressing does nothing. -/
theorem operate_press (engine : Engine) (s : Session) (index : Int) :
    engine.operate s (.press index) = s ∨
      ∃ w button, windowAt? s.windows index = some w ∧ w.window.button = some button ∧
        engine.operate s (.press index) =
          (engine.execute w.owner button.statement w.base s).2 := by
  cases hw : windowAt? s.windows index with
  | none =>
      left
      rw [operate, press_of_none engine hw]
  | some w =>
      cases hbutton : w.window.button with
      | none =>
          left
          rw [operate, press_of_some engine hw, pressWindow, hbutton]
          rfl
      | some button =>
          refine .inr ⟨w, button, rfl, hbutton, ?_⟩
          rw [operate, press_button engine hw hbutton]

end Engine

namespace Session

/-- A law holds across every operation, if it does when an interpreter is added. -/
theorem Law.operate {R : Session → Session → Prop} (law : Law R)
    (hadd : ∀ s config, R s (s.addInterpreter config)) (s : Session) (disk : Disk)
    (operation : Operation) : R s (s.operate disk operation) := by
  have hsay := Exec.within_say disk law s.reactions.length
  cases operation with
  | add config => exact hadd s config
  | run id source base file => exact Exec.within_run disk law hsay id source base file s
  | execute id text base => exact Exec.within_execute disk law hsay id text base s
  | press index => exact (Exec.respects_engine disk law hsay).press law index s

theorem mem_of_windowAt? {windows : Array OpenWindow} {index : Int} {w : OpenWindow}
    (h : windowAt? windows index = some w) : w ∈ windows := by
  unfold windowAt? at h
  split at h
  · exact Array.mem_of_getElem? h
  · split at h
    · exact Array.mem_of_getElem? h
    · cases h

variable {s : Session} {disk : Disk} {operation : Operation} {id : Nat}

theorem operate_eq (s : Session) (disk : Disk) (operation : Operation) :
    s.operate disk operation =
      (Exec.engine disk (Exec.say disk s.reactions.length)).operate s operation := by
  cases operation <;> rfl

end Session

namespace Engine

open Exec Session

variable {engine : Engine} {s : Session} {operation : Operation} {id : Nat}

/-- What the engine does for interpreter `id` comes to writes for this interpreter. -/
structure Serves (id : Nat) (engine : Engine) : Prop where
  execute : ∀ text base, Within (WritesFor id) (engine.execute id text base)
  run : ∀ source base file, Within (WritesFor id) (engine.run id source base file)

theorem Serves.operate (hserves : engine.Serves id) (hid : operation.interpreter? s = some id) :
    WritesFor id s (engine.operate s operation) := by
  cases operation with
  | add config => cases hid
  | run other source base file =>
      cases hid
      exact hserves.run source base file s
  | execute other text base =>
      cases hid
      exact hserves.execute text base s
  | press index =>
      obtain ⟨w, hw, rfl⟩ := Option.map_eq_some_iff.1 hid
      rw [Engine.operate, press_of_some _ hw, pressWindow]
      cases w.window.button with
      | none => exact .refl
      | some button =>
          exact serves_bind (hserves.execute _ _) (fun _ => serves_pure true) s

theorem operate_of_none (engine : Engine) (hid : operation.interpreter? s = none) :
    (∃ config, engine.operate s operation = s.addInterpreter config) ∨
      engine.operate s operation = s := by
  cases operation with
  | add config => exact .inl ⟨config, rfl⟩
  | run other source base file => cases hid
  | execute other text base => cases hid
  | press index =>
      rw [operate, press_of_none _ (Option.map_eq_none_iff.1 hid)]
      exact .inr rfl

theorem serves_engine (disk : Disk) (id : Nat) :
    (Exec.engine disk (Exec.say disk 0)).Serves id where
  execute := serves_execute (serves_say disk) (within_say disk books_law 0)
  run := serves_run (serves_say disk) (within_say disk books_law 0)

theorem serves_engineOn (stack : Nat) (disk : Disk) (id : Nat) :
    (engineOn disk (fun _ => Exec.say disk 0) stack).Serves id where
  execute := serves_executeOn (serves_say disk) (within_say disk books_law 0) stack
  run := serves_runOn (serves_say disk) (within_say disk books_law 0) stack

end Engine

namespace Session

variable {s : Session} {disk : Disk} {operation : Operation} {id : Nat}

theorem operate_plain (disk : Disk) (operation : Operation) (hplain : s.reactions = []) :
    s.operate disk operation = (Exec.engine disk (Exec.say disk 0)).operate s operation := by
  rw [operate_eq, hplain]
  rfl

theorem operateOn_plain (stack : Nat) (disk : Disk) (operation : Operation)
    (hplain : s.reactions = []) :
    s.operateOn stack disk operation =
      (Exec.engineOn disk (fun _ => Exec.say disk 0) stack).operate s operation := by
  rw [operateOn, hplain]
  rfl

theorem operate_of_none (disk : Disk) (hid : operation.interpreter? s = none) :
    (∃ config, s.operate disk operation = s.addInterpreter config) ∨
      s.operate disk operation = s := by
  rw [operate_eq]
  exact Engine.operate_of_none _ hid

theorem writesFor_operate (hplain : s.reactions = []) (hid : operation.interpreter? s = some id) :
    WritesFor id s (s.operate disk operation) := by
  rw [operate_plain disk operation hplain]
  exact (Engine.serves_engine disk id).operate hid

/-- There is a host, it does not react to what is printed, and its windows belong to interpreters
that are there. -/
structure Hosted (s : Session) : Prop where
  host : s.host.isSome
  plain : s.reactions = []
  owners : ∀ w ∈ s.windows, w.owner < s.interpreters.size

theorem Hosted.interpreter_lt (hs : s.Hosted) (hsuits : operation.Suits s)
    (hid : operation.interpreter? s = some id) : id < s.interpreters.size := by
  cases operation with
  | add config => cases hid
  | run other source base file =>
      cases hid
      exact hsuits
  | execute other text base =>
      cases hid
      exact hsuits
  | press index =>
      obtain ⟨w, hw, rfl⟩ := Option.map_eq_some_iff.1 hid
      exact hs.owners w (mem_of_windowAt? hw)

theorem Hosted.engine_operate {engine : Engine} (hs : s.Hosted)
    (hserves : ∀ id, engine.Serves id) (hsuits : operation.Suits s) :
    (engine.operate s operation).Hosted := by
  cases hid : operation.interpreter? s with
  | none =>
      rcases engine.operate_of_none hid with ⟨config, heq⟩ | heq
      · rw [heq]
        refine ⟨hs.host, hs.plain, ?_⟩
        intro w hw
        have hlt := hs.owners w hw
        simp only [addInterpreter, Array.size_push]
        omega
      · rw [heq]
        exact hs
  | some id =>
      have hserved : Served id s (engine.operate s operation) := ((hserves id).operate hid).served
      have hlt := hs.interpreter_lt hsuits hid
      refine ⟨by rw [hserved.host]; exact hs.host, hserved.reactions.trans hs.plain, ?_⟩
      intro w hw
      rw [hserved.size]
      rcases hserved.owners w hw with howner | ⟨w', hw', howner⟩
      · rw [howner]
        exact hlt
      · rw [← howner]
        exact hs.owners w' hw'

theorem Hosted.operate (hs : s.Hosted) (hsuits : operation.Suits s) :
    (s.operate disk operation).Hosted := by
  rw [operate_plain disk operation hs.plain]
  exact hs.engine_operate (Engine.serves_engine disk) hsuits

theorem Operated.hosted {surface : Surface} (h : Operated surface s) : s.Hosted := by
  induction h with
  | start => exact ⟨rfl, rfl, by simp [windows]⟩
  | next _ disk operation hsuits ih => exact ih.operate hsuits

end Session

/-! ## Places -/

namespace Exec

open Session

variable {disk : Disk} {say : Text → Exec Unit} {id : Nat} {limit : Int} {s t : Session} {p : Place}

theorem prepare_interpreter (hid : id < s.interpreters.size) (source : Text) (base : Path)
    (file : Option Text) :
    let segments := Segment.ofLines (Line.scan source file)
    let taken := segments.foldl Interpreter.taking (s.interpreter id)
    ∃ script t, prepare id source base file s = (.ok script, t) ∧
      script.statements = segments.filterMap Segment.statement? ∧
      t.interpreter id = { taken with activeRuns := taken.activeRuns + 1 } := by
  intro segments taken
  obtain ⟨t, htaken, hi⟩ := takeSegments_apply hid base segments
  have hsize : t.interpreters.size = s.interpreters.size := by
    have hserved := (serves_takeSegments id base segments s).served.size
    rwa [htaken] at hserved
  obtain ⟨script, text, hp, hstatements, -⟩ := prepare_taken htaken
  refine ⟨script, _, hp, hstatements, ?_⟩
  rw [beginRun, interpreter_modifyInterpreter_self, interpreter_tell]
  · exact congrArg (fun i : Interpreter => { i with activeRuns := i.activeRuns + 1 }) hi
  · rw [interpreters_tell]
    exact hsize.symm ▸ hid

variable {path : Text} {base : Path}

theorem openScript_unreadable {reason : Unreadable} (hid : id < s.interpreters.size)
    (hhost : s.host.isSome) (hactive : s.activeInterpreter = id)
    (hread : disk.readScript (s.interpreter id).config.codec (base.join (.ofText path)) =
      .ok (.error reason)) :
    ∃ t, openScript disk (Exec.say disk 0) path base s = (.ok none, t) ∧
      t.interpreter id =
        { s.interpreter id with
          report := (s.interpreter id).report.add
            (Problem.unreadableScript path (base.join (.ofText path)).text).diagnostic } := by
  have hopened : ∃ u : Session, u.interpreters = s.interpreters ∧
      openScript disk (Exec.say disk 0) path base s = (.ok none, (report id
        (Problem.unreadableScript path (base.join (.ofText path)).text).diagnostic u).2) := by
    unfold openScript
    simp only [bind_apply, get, hhost, if_true, hactive, hread]
    refine ⟨(((s.record (.sought (base.join (.ofText path)))).record (.logged .host _)).tell
      (.output _)).tell (.output _), ?_, rfl⟩
    rw [interpreters_tell, interpreters_tell]
    rfl
  obtain ⟨u, hu, hopened⟩ := hopened
  obtain ⟨t, ht, hrefused⟩ := report_refused id
    (Problem.unreadableScript path (base.join (.ofText path)).text).diagnostic u
  have hsame : u.interpreter id = s.interpreter id := by
    rw [Session.interpreter, Session.interpreter, hu]
  rw [ht] at hopened
  refine ⟨t, hopened, ?_⟩
  rw [hrefused.interpreter_eq (by rw [hu]; exact hid), hsame]

theorem openScript_reads {source : Text} (hid : id < s.interpreters.size)
    (hhost : s.host.isSome) (hactive : s.activeInterpreter = id)
    (hread : disk.readScript (s.interpreter id).config.codec (base.join (.ofText path)) =
      .ok (.ok source)) :
    let segments := Segment.ofLines (Line.scan source (some path))
    let taken := segments.foldl Interpreter.taking (s.interpreter id)
    ∃ opening t, openScript disk (Exec.say disk 0) path base s = (.ok (some opening), t) ∧
      opening.interpreter = id ∧ opening.script = some path ∧
      opening.lines = segments.filterMap Segment.statement? ∧
      t.interpreter id = { taken with activeRuns := taken.activeRuns + 1 } := by
  intro segments taken
  generalize hu : (s.record (.sought (base.join (.ofText path)))).tell
    (.output ("--- Running external script: " ++ path ++ " ---")) = u
  have hi : u.interpreters = s.interpreters := by
    rw [← hu, interpreters_tell]
    rfl
  have hsame : u.interpreter id = s.interpreter id := by
    rw [Session.interpreter, Session.interpreter, hi]
  obtain ⟨script, t, hp, hstatements, htaken⟩ := prepare_interpreter (s := u)
    (by rw [hi]; exact hid) source (base.join (.ofText path)).parent (some path)
  rw [hsame] at htaken
  have hopened : openScript disk (Exec.say disk 0) path base s =
      (prepare id source (base.join (.ofText path)).parent (some path) >>= fun script =>
        pure (some (⟨id, script.frame, script.statements, some path⟩ : Opening))) u := by
    rw [← hu]
    unfold openScript
    simp only [bind_apply, get, hhost, if_true, hactive, hread]
    rfl
  rw [bind_apply, hp] at hopened
  exact ⟨_, t, hopened, rfl, rfl, hstatements, htaken⟩

/-- The statement at a place comes to one diagnostic for an interpreter. -/
def ReportsTo (disk : Disk) (id : Nat) (p : Place) (d : Diagnostic) : Prop :=
  ∃ u, stepAt disk (Exec.say disk 0) p = (.ok none, u) ∧
    u.interpreter id =
      { p.session.interpreter id with report := (p.session.interpreter id).report.add d }

def ReportsCodeTo (disk : Disk) (id : Nat) (p : Place) (code : String) : Prop :=
  ∃ d, d.code = code ∧ ReportsTo disk id p d

/-- An interpreter is at work at a place. What its statement reports is reported to this
interpreter, and an external script that it runs is taken by this interpreter, to be executed in
it. -/
structure WorksFor (disk : Disk) (id : Nat) (p : Place) : Prop where
  interpreter : p.interpreter = id
  active : p.session.activeInterpreter = id
  served : Served id p.session (stepAt disk (Exec.say disk 0) p).2
  refused : ∀ problem, p.action = .refuse problem →
    ReportsTo disk id p (problem.on (Statement.citedLine p.line))
  overBudget : ∀ name size budget, p.action = .overBudget name size budget →
    Text.isWritable size = true →
    ReportsTo disk id p ((Problem.budgetExceeded name size).on (Statement.citedLine p.line))
  unreadable : ∀ path reason, p.action = .external path →
    disk.readScript (p.session.interpreter id).config.codec
      (p.frame.base.join (.ofText path)) = .ok (.error reason) →
    ReportsTo disk id p
      (Problem.unreadableScript path (p.frame.base.join (.ofText path)).text).diagnostic
  taken : ∀ path source, p.action = .external path →
    disk.readScript (p.session.interpreter id).config.codec
      (p.frame.base.join (.ofText path)) = .ok (.ok source) →
    let segments := Segment.ofLines (Line.scan source (some path))
    let taken := segments.foldl Interpreter.taking (p.session.interpreter id)
    ∃ opening u, stepAt disk (Exec.say disk 0) p = (.ok (some opening), u) ∧
      opening.interpreter = id ∧ opening.script = some path ∧
      opening.lines = segments.filterMap Segment.statement? ∧
      u.interpreter id = { taken with activeRuns := taken.activeRuns + 1 }

/-- A nested activation at the depth limit, a definition beyond the budget and a script without a
text are reported to the interpreter at work, under the codes that they have. -/
theorem WorksFor.reports_codes (h : WorksFor disk id p) :
    ((Statement.ofLine p.line).Nests →
      (p.session.interpreter id).config.depthLimit ≤ p.frame.depth →
      ReportsCodeTo disk id p "E303") ∧
    (∀ name size budget, p.action = .overBudget name size budget →
      Text.isWritable size = true → ReportsCodeTo disk id p "E401") ∧
    ∀ path reason, p.action = .external path →
      disk.readScript (p.session.interpreter id).config.codec
        (p.frame.base.join (.ofText path)) = .ok (.error reason) →
      ReportsCodeTo disk id p "E501" := by
  refine ⟨?_, ?_, ?_⟩
  · intro hnests hdepth
    have haction : p.action =
        .refuse (.depthExceeded (p.session.interpreter id).config.depthLimit) := by
      rw [p.action_eq, h.interpreter]
      exact Action.of_nests_at_limit hnests hdepth
    exact ⟨_, rfl, h.refused _ haction⟩
  · intro name size budget haction hsize
    exact ⟨_, rfl, h.overBudget name size budget haction hsize⟩
  · intro path reason haction hread
    exact ⟨_, rfl, h.unreadable path reason haction hread⟩

/-- Up to the script that it runs, a statement leaves the interpreters alone. -/
theorem stepAt_external {path : Text} (haction : p.action = .external path) :
    ∃ u : Session, u.interpreters = p.session.interpreters ∧ u.books = p.session.books ∧
      stepAt disk say p = openScript disk say path p.frame.base u := by
  refine ⟨(p.session.traced p.interpreter p.line).act p.interpreter p.frame p.line
    (.external path), ?_, ?_, ?_⟩
  · rw [interpreters_act fun _ => rfl, interpreters_traced]
  · rw [books_act, books_traced]
  · rw [stepAt_eq, haction]
    rfl

theorem worksFor_of_acting (hi : p.interpreter = id) (hhost : p.session.host.isSome)
    (hp : Acting p.session id p.frame limit) : WorksFor disk id p := by
  subst hi
  have hactive := hp.active hhost
  have hturn : p.session.Turn p.interpreter := hp.active
  have hopens : ∀ path, p.action = .external path → ∃ u : Session,
      u.interpreter p.interpreter = p.session.interpreter p.interpreter ∧
      p.interpreter < u.interpreters.size ∧ u.host.isSome ∧
      u.activeInterpreter = p.interpreter ∧
      stepAt disk (Exec.say disk 0) p =
        openScript disk (Exec.say disk 0) path p.frame.base u := by
    intro path haction
    obtain ⟨u, hsame, hbooks, hstep⟩ := stepAt_external haction
    refine ⟨u, ?_, ?_, ?_, ?_, hstep⟩
    · rw [Session.interpreter, Session.interpreter, hsame]
    · rw [hsame]
      exact hp.present
    · exact (congrArg (·.2) (settings_eq_of_books hbooks)).trans hhost
    · exact (activeInterpreter_congr hbooks).trans hactive
  refine ⟨rfl, hactive, (writesFor_step (serves_say disk) hturn p.frame p.line).served,
    ?_, ?_, ?_, ?_⟩
  · intro problem haction
    obtain ⟨u, hstep, hrefused⟩ := step_refused disk (Exec.say disk 0) haction
    exact ⟨u, hstep, hrefused.interpreter_eq hp.present⟩
  · intro name size budget haction hsize
    obtain ⟨u, hstep, hrefused⟩ := step_overBudget disk (Exec.say disk 0) haction hsize
    exact ⟨u, hstep, hrefused.interpreter_eq hp.present⟩
  · intro path reason haction hread
    obtain ⟨u, hi, hid, hhost', hactive', hstep⟩ := hopens path haction
    rw [← hi] at hread
    obtain ⟨t, hopened, ht⟩ := openScript_unreadable hid hhost' hactive' hread
    exact ⟨t, hstep.trans hopened, by rw [ht, hi]⟩
  · intro path source haction hread
    obtain ⟨u, hi, hid, hhost', hactive', hstep⟩ := hopens path haction
    rw [← hi] at hread
    obtain ⟨opening, t, hopened, hinterpreter, hscript, hlines, ht⟩ :=
      openScript_reads hid hhost' hactive' hread
    rw [hi] at ht
    exact ⟨opening, t, hstep.trans hopened, hinterpreter, hscript, hlines, ht⟩

end Exec

namespace Session

variable {s : Session} {disk : Disk} {p : Place} {id : Nat}

theorem ExecuteReaches.worksFor {text : Text} {base : Path} (hhost : s.host.isSome)
    (hid : id < s.interpreters.size) (h : s.ExecuteReaches disk id text base p) :
    Exec.WorksFor disk id p := by
  have hbalanced := Exec.within_say disk books_law s.reactions.length
  obtain ⟨hi, hacting⟩ := Exec.Reaches.acting hbalanced h (.enter hid rfl _)
  have hstable := settings_stable (s.enter id { base }).settings
  have hsettings := Exec.Reaches.stable hstable (Exec.within_say disk hstable.law _) h rfl
  refine Exec.worksFor_of_acting hi ?_ hacting
  exact (congrArg (·.2) (hsettings.trans (settings_enter s id { base }))).trans hhost

theorem Reaches.worksFor {source : Text} {base : Path} {file : Option Text}
    (hhost : s.host.isSome) (hid : id < s.interpreters.size)
    (h : s.Reaches disk id source base file p) : Exec.WorksFor disk id p := by
  have hbalanced := Exec.within_say disk books_law s.reactions.length
  obtain ⟨hi, hstanding⟩ := Exec.RunReaches.standing hbalanced hid h
  have hstable := settings_stable s.settings
  have hsettings := Exec.RunReaches.stable hstable (Exec.within_say disk hstable.law _) h rfl
  exact Exec.worksFor_of_acting hi ((congrArg (·.2) hsettings).trans hhost) hstanding.toActing

theorem Hosted.worksFor {operation : Operation} (hs : s.Hosted) (hsuits : operation.Suits s)
    (hid : operation.interpreter? s = some id) (h : operation.Reaches disk s p) :
    Exec.WorksFor disk id p := by
  have hlt := hs.interpreter_lt hsuits hid
  cases operation with
  | add config => cases h
  | run other source base file =>
      cases hid
      exact Reaches.worksFor hs.host hlt h
  | execute other text base =>
      cases hid
      exact ExecuteReaches.worksFor hs.host hlt h
  | press index =>
      obtain ⟨w, button, hw, -, hreached⟩ := h
      have howner : w.owner = id := by simpa [Operation.interpreter?, hw] using hid
      subst howner
      exact hreached.worksFor hs.host hlt

end Session

open Session in
/-- Interpreters that share a host do not get into each other's way, whatever operations came
before. An operation leaves every interpreter alone but the one that it is invoked on, or whose
button is pressed. Everything on record since is the work of that interpreter, and what the host was
told of as diagnostics is what its report grew by. At every place that the operation reaches, inside
external scripts at any depth too, this interpreter is at work and the host knows it: diagnostics go
to its report, those of exceeded limits and unreadable scripts among them, and an external script is
scanned, registered and executed in it. -/
theorem operation_confined_to_interpreter (surface : Surface) (s : Session)
    (hs : Operated surface s) (disk : Disk) (operation : Operation)
    (hsuits : operation.Suits s) :
    let t := s.operate disk operation
    (∀ other, other < s.interpreters.size → operation.interpreter? s ≠ some other →
      t.interpreter other = s.interpreter other) ∧
    (∀ id, operation.interpreter? s = some id →
      id < s.interpreters.size ∧ Served id s t ∧
        ∀ p, operation.Reaches disk s p → Exec.WorksFor disk id p) ∧
    ∀ id p, operation.interpreter? s = some id → operation.Reaches disk s p →
      ((Statement.ofLine p.line).Nests →
        (p.session.interpreter id).config.depthLimit ≤ p.frame.depth →
        Exec.ReportsCodeTo disk id p "E303") ∧
      (∀ name size budget, p.action = .overBudget name size budget →
        Text.isWritable size = true → Exec.ReportsCodeTo disk id p "E401") ∧
      ∀ path reason, p.action = .external path →
        disk.readScript (p.session.interpreter id).config.codec
          (p.frame.base.join (.ofText path)) = .ok (.error reason) →
        Exec.ReportsCodeTo disk id p "E501" := by
  intro t
  have hhosted := hs.hosted
  refine ⟨?_, ?_, fun id p hid hp => (hhosted.worksFor hsuits hid hp).reports_codes⟩
  · intro other hlt hne
    cases hid : operation.interpreter? s with
    | none =>
        rcases operate_of_none disk hid with ⟨config, heq⟩ | heq
        · have hold : (s.addInterpreter config).interpreter other = s.interpreter other := by
            have hother : other ≠ s.interpreters.size := Nat.ne_of_lt hlt
            simp [interpreter, addInterpreter, Array.getElem?_push, hother]
          rw [← hold]
          exact congrArg (·.interpreter other) heq
        · exact congrArg (·.interpreter other) heq
    | some id =>
        have hother : other ≠ id := by
          rintro rfl
          exact hne hid
        exact (writesFor_operate hhosted.plain hid).served.others other hother
  · intro id hid
    refine ⟨hhosted.interpreter_lt hsuits hid, (writesFor_operate hhosted.plain hid).served, ?_⟩
    intro p hp
    exact hhosted.worksFor hsuits hid hp

/-- Interpreter 0 has opened a window, then interpreter 1 has defined a variable. The button of the
window runs a script file that asks for the variable and for another file, which is not there. -/
theorem press_confined_to_opener :
    let disk : Disk :=
      { Disk.blank with
        read := fun path =>
          if path.name = "a" then .ok "print @x\n@EXTERNAL RUN b".toUTF8.toList
          else .error .notFound }
    let source := "@NEW WINDOW \x7b\n@Content = \x7b\n" ++
      "BUTTON = \"b\" : \x7b@EXTERNAL RUN a\x7d\n\x7d\n\x7d"
    let fresh : Session := { host := some { surface := .buffer {} } }
    let added := (fresh.operate disk (.add {})).operate disk (.add {})
    let s := (added.operate disk (.run 0 source {} none)).operate disk
      (.execute 1 "string x = \"v\"" {})
    let t := s.operate disk (.press 0)
    (s.Operated (.buffer {}) ∧ (Operation.press 0).Suits s) ∧
      (Operation.press 0).interpreter? s = some 0 ∧ Session.Served 0 s t ∧
      t.interpreter 1 = s.interpreter 1 ∧ (t.interpreter 1).store.value? "x" = some ("v" : Text) ∧
      (t.interpreter 0).report.codes = ["E301", "E501"] := by
  intro disk source fresh added s
  have hadded : added.Operated (.buffer {}) :=
    .next (.next .start disk (.add {}) trivial) disk (.add {}) trivial
  have hran : (added.operate disk (.run 0 source {} none)).Operated (.buffer {}) :=
    .next hadded disk _ (by decide : 0 < added.interpreters.size)
  have hs : s.Operated (.buffer {}) :=
    .next hran disk _ (by decide +kernel :
      1 < (added.operate disk (.run 0 source {} none)).interpreters.size)
  have hpressed : (Operation.press 0).interpreter? s = some 0 := by decide +kernel
  obtain ⟨hothers, hserved, -⟩ :=
    operation_confined_to_interpreter (.buffer {}) s hs disk (.press 0) trivial
  refine ⟨⟨hs, trivial⟩, hpressed, (hserved 0 hpressed).2.1, ?_, by decide +kernel⟩
  exact hothers 1 (by decide +kernel) (by rw [hpressed]; decide)

end LineScript
