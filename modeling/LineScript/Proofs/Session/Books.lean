import LineScript.Proofs.Session.Change

/-! # Bookkeeping of nested executions

The books of a session are what nested executions change and put back: the depth of every
interpreter with the number of its unfinished runs, and the interpreters that the host takes to be
executing. No operation, whether it returns or breaks off, leaves them changed. The settings are
part of the books because no operation changes them at all.
-/

namespace LineScript

def Interpreter.books (i : Interpreter) : Config × Int × Nat :=
  (i.config, i.depth, i.activeRuns)

namespace Session

def books (s : Session) : Array (Config × Int × Nat) × Option (List Nat) :=
  (s.interpreters.map Interpreter.books, s.host.map (·.executing))

/-! ## Reading the books -/

theorem interpreter_books_congr {s t : Session} (h : t.books = s.books) (id : Nat) :
    (t.interpreter id).books = (s.interpreter id).books :=
  view_interpreter_congr Interpreter.books (congrArg (·.1) h) id

theorem size_congr {s t : Session} (h : t.books = s.books) :
    t.interpreters.size = s.interpreters.size := by
  have hs := congrArg (·.1.size) h
  simpa [books] using hs

theorem executing_congr {s t : Session} (h : t.books = s.books) :
    t.host.map (·.executing) = s.host.map (·.executing) :=
  congrArg (·.2) h

theorem activeInterpreter_eq_of_executing {s t : Session}
    (hx : t.host.map (·.executing) = s.host.map (·.executing)) :
    t.activeInterpreter = s.activeInterpreter := by
  unfold activeInterpreter
  cases hs : s.host with
  | none =>
      cases ht : t.host with
      | none => rfl
      | some host => simp [hs, ht] at hx
  | some host =>
      cases ht : t.host with
      | none => simp [hs, ht] at hx
      | some host' =>
          have hstack : host'.executing = host.executing := by simpa [hs, ht] using hx
          simp [hstack]

theorem activeInterpreter_congr {s t : Session} (h : t.books = s.books) :
    t.activeInterpreter = s.activeInterpreter :=
  activeInterpreter_eq_of_executing (executing_congr h)

/-! ## Changes that the books do not see -/

@[simp] theorem books_tell (s : Session) (notice : Notice) : (s.tell notice).books = s.books := by
  unfold tell
  cases h : s.host with
  | none => rfl
  | some host => simp [books, h, Host.receive, record]

theorem books_modifyInterpreter (s : Session) (id : Nat) {change : Interpreter → Interpreter}
    (h : ∀ i, (change i).books = i.books) : (s.modifyInterpreter id change).books = s.books :=
  Prod.ext (map_modifyInterpreter s id h) rfl

theorem books_act (s : Session) (id : Nat) (frame : Frame) (line : Line)
    (action : Action) : (s.act id frame line action).books = s.books := by
  unfold act
  rw [books_modifyInterpreter]
  · rfl
  · intro i
    rfl

/-! ## Changes that are put back -/

theorem modify_map_books {s t : Array Interpreter} {id : Nat}
    {first last : Interpreter → Interpreter}
    (h : t.map Interpreter.books = (s.modify id first).map Interpreter.books)
    (back : ∀ i j, s[id]? = some i → j.books = (first i).books → (last j).books = i.books) :
    (t.modify id last).map Interpreter.books = s.map Interpreter.books := by
  apply Array.ext_getElem?
  intro k
  have hk := congrArg (·[k]?) h
  simp only [Array.getElem?_map, Array.getElem?_modify] at hk ⊢
  by_cases hid : id = k
  · subst hid
    cases hs : s[id]? with
    | none =>
        cases ht : t[id]? with
        | none => simp
        | some j => simp [hs, ht] at hk
    | some i =>
        cases ht : t[id]? with
        | none => simp [hs, ht] at hk
        | some j =>
            simp only [hs, ht, if_true, Option.map_some, Option.some.injEq] at hk ⊢
            exact back i j hs hk
  · simpa [hid] using hk

theorem books_endRun {s t : Session} {id : Nat} (h : t.books = (s.beginRun id).books) :
    (t.endRun id).books = s.books := by
  have hi : t.interpreters.map Interpreter.books =
      (s.interpreters.modify id fun i => { i with activeRuns := i.activeRuns + 1 }).map
        Interpreter.books := congrArg (·.1) h
  refine Prod.ext ?_ (congrArg (·.2) h)
  change (t.interpreters.modify id fun i => { i with activeRuns := i.activeRuns - 1 }).map
    Interpreter.books = _
  refine modify_map_books hi ?_
  intro i j _ hj
  simp only [Interpreter.books, Prod.mk.injEq] at hj ⊢
  obtain ⟨hc, hd, hr⟩ := hj
  exact ⟨hc, hd, by omega⟩

theorem books_leave {s t : Session} {id : Nat} {frame : Frame}
    (h : t.books = (s.enter id frame).books) :
    (t.leave id (s.interpreter id).depth).books = s.books := by
  have hi : t.interpreters.map Interpreter.books =
      (s.interpreters.modify id fun i => { i with depth := frame.depth }).map
        Interpreter.books := congrArg (·.1) h
  have hh : t.host.map (·.executing) = (s.enter id frame).host.map (·.executing) :=
    congrArg (·.2) h
  refine Prod.ext ?_ ?_
  · change (t.interpreters.modify id fun i => { i with depth := (s.interpreter id).depth }).map
      Interpreter.books = _
    refine modify_map_books hi ?_
    intro i j hs hj
    simp only [Interpreter.books, Prod.mk.injEq] at hj ⊢
    obtain ⟨hc, -, hr⟩ := hj
    exact ⟨hc, by simp [interpreter, hs], hr⟩
  · -- the interpreter that entered is still on top of the stack, so it is the one to go
    cases hs : s.host with
    | none =>
        have ht : t.host = none := by
          simpa [enter, pushExecuting, record, modifyInterpreter, hs] using hh
        simp [books, leave, popExecuting, record, modifyInterpreter, hs, ht]
    | some host =>
        cases ht : t.host with
        | none => simp [enter, pushExecuting, record, modifyInterpreter, hs, ht] at hh
        | some host' =>
            have hstack : host'.executing = id :: host.executing := by
              simpa [enter, pushExecuting, record, modifyInterpreter, hs, ht] using hh
            simp [books, leave, popExecuting, record, modifyInterpreter, hs, ht, hstack]

/-! ## The law of the books -/

theorem Change.books_eq {s t : Session} (h : Change s t) : t.books = s.books := by
  cases h with
  | told notice => exact books_tell s notice
  | logged channel text => rfl
  | sought path => rfl
  | reported id d => exact books_modifyInterpreter s id fun _ => rfl
  | acted id frame line => exact books_act s id frame line _
  | functionAdded id routine => exact books_modifyInterpreter s id fun _ => rfl
  | wiped id => exact books_modifyInterpreter s id fun _ => rfl
  | reactionTaken rest => rfl

/-- Every operation puts the books back. -/
theorem books_law : Law fun s t => t.books = s.books where
  refl _ := rfl
  trans hst htu := htu.trans hst
  change := Change.books_eq
  execution := books_leave
  run := books_endRun

/-! ## Settings -/

/-- What stays the same for good: the settings of the interpreters, and whether there is a host. -/
def settings (s : Session) : Array Config × Bool :=
  (s.interpreters.map (·.config), s.host.isSome)

theorem settings_eq_of_books {s t : Session} (h : t.books = s.books) : t.settings = s.settings := by
  have hread : ∀ u : Session, u.settings = (u.books.1.map (·.1), u.books.2.isSome) := by
    intro u
    simp [settings, books, Interpreter.books, Function.comp_def]
  rw [hread, hread, h]

theorem config_eq_of_settings {s t : Session} (h : t.settings = s.settings) (id : Nat) :
    (t.interpreter id).config = (s.interpreter id).config :=
  view_interpreter_congr Interpreter.config (congrArg (·.1) h) id

theorem settings_modifyInterpreter (s : Session) (id : Nat) {change : Interpreter → Interpreter}
    (h : ∀ i, (change i).config = i.config) :
    (s.modifyInterpreter id change).settings = s.settings :=
  Prod.ext (map_modifyInterpreter s id h) rfl

theorem settings_record (s : Session) (event : Event) : (s.record event).settings = s.settings :=
  rfl

theorem settings_pushExecuting (s : Session) (id : Nat) :
    (s.pushExecuting id).settings = s.settings := by
  simp [settings, pushExecuting]

theorem settings_popExecuting (s : Session) (id : Nat) :
    (s.popExecuting id).settings = s.settings := by
  simp [settings, popExecuting]

theorem settings_enter (s : Session) (id : Nat) (frame : Frame) :
    (s.enter id frame).settings = s.settings := by
  rw [enter, settings_record, settings_pushExecuting, settings_modifyInterpreter]
  exact fun _ => rfl

theorem settings_leave (s : Session) (id : Nat) (depth : Int) :
    (s.leave id depth).settings = s.settings := by
  rw [leave, settings_record, settings_popExecuting, settings_modifyInterpreter]
  exact fun _ => rfl

theorem settings_beginRun (s : Session) (id : Nat) : (s.beginRun id).settings = s.settings :=
  settings_modifyInterpreter s id fun _ => rfl

theorem settings_endRun (s : Session) (id : Nat) : (s.endRun id).settings = s.settings :=
  settings_modifyInterpreter s id fun _ => rfl

theorem settings_stable (c : Array Config × Bool) : Stable fun s => s.settings = c where
  change hc h := (settings_eq_of_books hc.books_eq).trans h
  enter id frame h := (settings_enter _ id frame).trans h
  leave id depth h := (settings_leave _ id depth).trans h
  beginRun id h := (settings_beginRun _ id).trans h
  endRun id h := (settings_endRun _ id).trans h

end Session

namespace Exec

/-- The operation puts the books back, whether it returns or breaks off. -/
def Balanced {α : Type} (x : Exec α) : Prop :=
  Within (fun s t => t.books = s.books) x

theorem Balanced.books_eq {α : Type} {x : Exec α} {s t : Session} {result : Except Fault α}
    (hx : Balanced x) (h : x s = (result, t)) : t.books = s.books := by
  have hs := hx s
  rw [h] at hs
  exact hs

end Exec

end LineScript
