import LineScript.Proofs.Session.Evaluation

/-! # Refused statements

A statement that is refused adds one diagnostic to the report of its interpreter. Besides that it
leaves lines on the debug channel and in the log, and nothing else: no store changes, nothing is
printed, and no activation is entered.
-/

namespace LineScript

/-- An event of a statement that is carried out without being seen outside the debug channel. -/
def Event.isQuiet : Event → Bool
  | .told (.debug _) => true
  | .logged _ _ => true
  | .performed _ _ _ _ => true
  | _ => false

namespace Session

/-- From `s` to `t` nothing happened outside the interpreters but quiet events. -/
structure Quiet (s t : Session) : Prop where
  reactions : t.reactions = s.reactions
  executing : t.host.map (·.executing) = s.host.map (·.executing)
  windows : t.host.map (·.windows) = s.host.map (·.windows)
  events : ∃ events : List Event, t.transcript.toList = s.transcript.toList ++ events ∧
    ∀ event ∈ events, event.isQuiet

/-- From `s` to `t` interpreter `id` reported one diagnostic, and nothing else happened that is not
quiet. -/
structure Refused (s t : Session) (id : Nat) (d : Diagnostic) : Prop extends Quiet s t where
  interpreters : t.interpreters =
    s.interpreters.modify id fun i => { i with report := i.report.add d }

theorem Refused.size_eq {s t : Session} {id : Nat} {d : Diagnostic} (h : Refused s t id d) :
    t.interpreters.size = s.interpreters.size := by
  rw [h.interpreters, Array.size_modify]

theorem Refused.interpreter_eq {s t : Session} {id : Nat} {d : Diagnostic} (h : Refused s t id d)
    (hid : id < s.interpreters.size) :
    t.interpreter id = { s.interpreter id with report := (s.interpreter id).report.add d } := by
  have hi := interpreter_modifyInterpreter_self hid fun i => { i with report := i.report.add d }
  simp only [interpreter, modifyInterpreter] at hi ⊢
  rw [h.interpreters]
  exact hi

namespace Quiet

theorem refl (s : Session) : Quiet s s :=
  ⟨rfl, rfl, rfl, [], by simp, by simp⟩

theorem trans {s t u : Session} (hst : Quiet s t) (htu : Quiet t u) : Quiet s u := by
  obtain ⟨first, hfirst, hqfirst⟩ := hst.events
  obtain ⟨second, hsecond, hqsecond⟩ := htu.events
  refine ⟨htu.reactions.trans hst.reactions, htu.executing.trans hst.executing,
    htu.windows.trans hst.windows, first ++ second, ?_, ?_⟩
  · rw [hsecond, hfirst, List.append_assoc]
  · intro event hmem
    rcases List.mem_append.1 hmem with hmem | hmem
    · exact hqfirst event hmem
    · exact hqsecond event hmem

theorem record (s : Session) {event : Event} (h : event.isQuiet) : Quiet s (s.record event) :=
  ⟨rfl, rfl, rfl, [event], by simp [Session.record], by simp [h]⟩

theorem modifyInterpreter (s : Session) (id : Nat) (change : Interpreter → Interpreter) :
    Quiet s (s.modifyInterpreter id change) :=
  ⟨rfl, rfl, rfl, [], by simp [Session.modifyInterpreter], by simp⟩

theorem debug (s : Session) (line : DebugLine) : Quiet s (s.tell (.debug line)) := by
  unfold tell
  cases hhost : s.host with
  | none => exact refl s
  | some host =>
      refine ⟨rfl, ?_, ?_, [.told (.debug line)], by simp [Session.record], by simp [Event.isQuiet]⟩
      · simp [hhost, Host.receive]
      · simp [hhost, Host.receive, Host.windowsAfter]

theorem traced (s : Session) (id : Nat) (line : Line) : Quiet s (s.traced id line) := by
  unfold Session.traced
  split
  · exact debug s _
  · exact refl s

theorem act (s : Session) (id : Nat) (frame : Frame) (line : Line) (action : Action) :
    Quiet s (s.act id frame line action) :=
  (record s rfl).trans (modifyInterpreter _ _ _)

theorem traced_act (s : Session) (id : Nat) (frame : Frame) (line : Line) (action : Action) :
    Quiet s ((s.traced id line).act id frame line action) :=
  (traced s id line).trans (act _ id frame line action)

end Quiet

/-! ## Actions that leave the store alone -/

theorem interpreters_act {action : Action} (h : ∀ store : Store, store.after action = store)
    (s : Session) (id : Nat) (frame : Frame) (line : Line) :
    (s.act id frame line action).interpreters = s.interpreters := by
  simp only [act, modifyInterpreter, record, h]
  apply Array.ext_getElem?
  intro j
  rw [Array.getElem?_modify]
  split
  · exact Option.map_id_apply
  · rfl

theorem interpreters_traced (s : Session) (id : Nat) (line : Line) :
    (s.traced id line).interpreters = s.interpreters := by
  unfold traced
  split
  · exact interpreters_tell s _
  · rfl

end Session

namespace Exec

open Session

theorem log_quiet (channel : Channel) (text : Text) (s : Session) :
    ∃ t, log channel text s = (.ok (), t) ∧ Quiet s t ∧ t.interpreters = s.interpreters :=
  ⟨_, rfl, Quiet.record s rfl, rfl⟩

theorem report_refused (id : Nat) (d : Diagnostic) (s : Session) :
    ∃ t, report id d s = (.ok (), t) ∧ Refused s t id d := by
  refine ⟨_, rfl, ?_⟩
  refine { toQuiet := ?_, interpreters := ?_ }
  · exact (Quiet.modifyInterpreter s id _).trans
      ((Quiet.record _ rfl).trans (Quiet.debug _ _))
  · exact interpreters_tell _ _

variable {id : Nat} {frame : Frame} {line : Line} {s : Session}

/-- A statement that is refused adds its diagnostic and does nothing else. -/
theorem step_refused (disk : Disk) (say : Text → Exec Unit) {problem : Problem}
    (h : s.actionOf id frame line = .refuse problem) :
    ∃ t, step disk say id frame line s = (.ok none, t) ∧
      Refused s t id (problem.on (Statement.citedLine line)) := by
  obtain ⟨t, ht, hrefused⟩ := report_refused id (problem.on (Statement.citedLine line))
    ((s.traced id line).act id frame line (.refuse problem))
  refine ⟨t, ?_, ?_⟩
  · rw [step_apply, h]
    change (report id (problem.on (Statement.citedLine line)) >>= fun _ => pure none)
      ((s.traced id line).act id frame line (.refuse problem)) = _
    rw [bind_apply, ht]
    rfl
  · refine { toQuiet := ?_, interpreters := ?_ }
    · exact (Quiet.traced_act s id frame line _).trans hrefused.toQuiet
    · rw [hrefused.interpreters, interpreters_act fun _ => rfl, interpreters_traced]

end Exec

end LineScript
