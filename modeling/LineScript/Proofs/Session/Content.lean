import LineScript.Session.Run

/-! # What a session holds

The content of a session is what scripts and hosts can see of it: the settings, the store and the
report of every interpreter, what the host shows, and the notices that it was told. Beginning and
ending executions and runs does not touch the content.
-/

namespace LineScript

theorem Store.functions_after (store : Store) (action : Action) :
    (store.after action).functions = store.functions := by
  cases action with
  | define definition name value size =>
      simp only [after, setVariable]
      cases h : store.allocate? size with
      | none => rfl
      | some charged =>
          rcases allocate?_eq_some h with ⟨-, rfl⟩ | ⟨budget, -, -, rfl⟩
          · rfl
          · rfl
  | _ => rfl

def Interpreter.content (i : Interpreter) : Config × Store × Report :=
  (i.config, i.store, i.report)

def Host.content (host : Host) : Surface × Array OpenWindow :=
  (host.surface, host.windows)

namespace Session

def notices (s : Session) : List Notice :=
  s.transcript.toList.filterMap Event.notice?

structure Content where
  interpreters : Array (Config × Store × Report)
  host : Option (Surface × Array OpenWindow)
  notices : List Notice

def content (s : Session) : Content :=
  { interpreters := s.interpreters.map Interpreter.content
    host := s.host.map Host.content
    notices := s.notices }

theorem interpreter_content_congr {s t : Session} (h : t.content = s.content) (id : Nat) :
    (t.interpreter id).content = (s.interpreter id).content :=
  view_interpreter_congr Interpreter.content (congrArg (·.interpreters) h) id

theorem size_content_congr {s t : Session} (h : t.content = s.content) :
    t.interpreters.size = s.interpreters.size := by
  have hi := congrArg (·.interpreters.size) h
  simpa [content] using hi

variable (s : Session) (id : Nat)

theorem notices_record (event : Event) :
    (s.record event).notices = s.notices ++ event.notice?.toList := by
  simp only [notices, record, Array.toList_push, List.filterMap_append, List.filterMap_cons,
    List.filterMap_nil]
  cases event.notice? <;> rfl

theorem content_record {event : Event} (h : event.notice? = none) :
    (s.record event).content = s.content := by
  simp only [content, notices_record, h, Option.toList_none, List.append_nil]
  rfl

theorem content_modifyInterpreter {change : Interpreter → Interpreter}
    (h : ∀ i, (change i).content = i.content) :
    (s.modifyInterpreter id change).content = s.content := by
  simp only [content, map_modifyInterpreter s id h]
  rfl

theorem content_pushExecuting : (s.pushExecuting id).content = s.content := by
  have hhost : (s.pushExecuting id).host.map Host.content = s.host.map Host.content := by
    cases h : s.host <;> simp [pushExecuting, h, Host.content]
  simp only [content, hhost]
  rfl

theorem content_popExecuting : (s.popExecuting id).content = s.content := by
  have hhost : (s.popExecuting id).host.map Host.content = s.host.map Host.content := by
    cases h : s.host with
    | none => simp [popExecuting, h]
    | some host =>
        simp only [popExecuting, h, Option.map_some, Option.some.injEq]
        split
        · split
          · rfl
          · rfl
        · rfl
  simp only [content, hhost]
  rfl

theorem content_enter (frame : Frame) : (s.enter id frame).content = s.content := by
  rw [enter, content_record _ rfl, content_pushExecuting, content_modifyInterpreter]
  exact fun _ => rfl

theorem content_leave (depth : Int) : (s.leave id depth).content = s.content := by
  rw [leave, content_record _ rfl, content_popExecuting, content_modifyInterpreter]
  exact fun _ => rfl

theorem content_beginRun : (s.beginRun id).content = s.content :=
  content_modifyInterpreter s id fun _ => rfl

theorem content_endRun : (s.endRun id).content = s.content :=
  content_modifyInterpreter s id fun _ => rfl

/-- A statement whose action leaves every store alone has not touched the content when its action is
still to be carried out. -/
theorem content_act {action : Action} (h : ∀ store : Store, store.after action = store)
    (frame : Frame) (line : Line) : (s.act id frame line action).content = s.content := by
  rw [act, content_modifyInterpreter, content_record _ rfl]
  intro i
  simp only [Interpreter.content, h]

end Session

end LineScript
