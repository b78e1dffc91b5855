import LineScript.Proofs.Session.Action
import LineScript.Proofs.Session.Change

/-! # Accounts

The account of an interpreter is what its memory depends on: its settings, its store, and the
actions that its statements performed so far. In a session an account changes in three ways only: it
starts afresh, its functions change, or a statement performs an action. A property that these keep
holds of every account of every session that can be reached.
-/

namespace LineScript

def Event.actionBy? (id : Nat) : Event → Option Action
  | .performed other _ _ action => if other = id then some action else none
  | _ => none

/-- The actions that an interpreter performed so far, the latest one last. -/
def Session.actions (s : Session) (id : Nat) : List Action :=
  s.transcript.toList.filterMap (Event.actionBy? id)

/-- The settings and the store of an interpreter, and its actions so far. -/
structure Account where
  config : Config
  store : Store
  actions : List Action

def Session.account (s : Session) (id : Nat) : Account :=
  { config := (s.interpreter id).config
    store := (s.interpreter id).store
    actions := s.actions id }

namespace Account

def after (a : Account) (action : Action) : Account :=
  { a with store := a.store.after action, actions := a.actions ++ [action] }

/-- What a property has to survive to hold of all accounts. -/
structure Lasting (P : Account → Prop) : Prop where
  fresh : ∀ config actions, P { config, store := {}, actions }
  functions : ∀ {a} table, P a → P { a with store := { a.store with functions := table } }
  action : ∀ {a frame statement action},
    action.Founded a.config frame a.store statement → P a → P (a.after action)

end Account

namespace Session

@[simp] theorem actions_record (s : Session) (event : Event) (id : Nat) :
    (s.record event).actions id = s.actions id ++ (event.actionBy? id).toList := by
  simp only [actions, record, Array.toList_push, List.filterMap_append, List.filterMap_cons,
    List.filterMap_nil]
  cases event.actionBy? id <;> rfl

@[simp] theorem actions_modifyInterpreter (s : Session) (id other : Nat)
    (change : Interpreter → Interpreter) :
    (s.modifyInterpreter id change).actions other = s.actions other := rfl

theorem account_record (s : Session) {event : Event} (id : Nat)
    (h : event.actionBy? id = none) : (s.record event).account id = s.account id := by
  simp [account, h]

theorem account_tell (s : Session) (notice : Notice) (id : Nat) :
    (s.tell notice).account id = s.account id := by
  unfold tell
  cases s.host with
  | none => rfl
  | some host => exact account_record s id rfl

theorem account_modifyInterpreter (s : Session) (id other : Nat)
    {change : Interpreter → Interpreter}
    (h : ∀ i, (change i).config = i.config ∧ (change i).store = i.store) :
    (s.modifyInterpreter id change).account other = s.account other := by
  simp only [account, interpreter_modifyInterpreter, actions_modifyInterpreter]
  split
  · simp [h]
  · rfl

theorem account_enter (s : Session) (id other : Nat) (frame : Frame) :
    (s.enter id frame).account other = s.account other := by
  rw [enter, account_record _ other rfl]
  change (s.modifyInterpreter id fun i => { i with depth := frame.depth }).account other = _
  rw [account_modifyInterpreter s id other]
  exact fun _ => ⟨rfl, rfl⟩

theorem account_leave (s : Session) (id other : Nat) (depth : Int) :
    (s.leave id depth).account other = s.account other := by
  rw [leave, account_record _ other rfl]
  change (s.modifyInterpreter id fun i => { i with depth }).account other = _
  rw [account_modifyInterpreter s id other]
  exact fun _ => ⟨rfl, rfl⟩

end Session

namespace Account.Lasting

open Session

variable {P : Account → Prop}

theorem absent (lasting : Lasting P) {s : Session} {id : Nat} (hid : ¬ id < s.interpreters.size) :
    P (s.account id) := by
  have hi : s.interpreter id = {} := by
    rw [interpreter, Array.getElem?_eq_none (Nat.not_lt.1 hid), Option.getD_none]
  rw [account, hi]
  exact lasting.fresh _ _

theorem act (lasting : Lasting P) {s : Session} (h : ∀ id, P (s.account id)) (id : Nat)
    (frame : Frame) (line : Line) (other : Nat) :
    P ((s.act id frame line (s.actionOf id frame line)).account other) := by
  by_cases hid : other < s.interpreters.size
  · by_cases heq : id = other
    · subst heq
      have hfounded := Action.founded_of (s.interpreter id).config frame (s.interpreter id).store
        (.ofLine line)
      have hafter : (s.act id frame line (s.actionOf id frame line)).account id =
          (s.account id).after (s.actionOf id frame line) := by
        have hi := interpreter_modifyInterpreter_self
          (s := s.record (.performed id frame line (s.actionOf id frame line))) hid fun i =>
            { i with store := i.store.after (s.actionOf id frame line) }
        rw [account, Session.act, hi]
        simp [account, Event.actionBy?, Account.after]
      rw [hafter]
      exact lasting.action hfounded (h id)
    · have hsame : (s.act id frame line (s.actionOf id frame line)).account other =
          s.account other := by
        unfold account Session.act
        rw [interpreter_modifyInterpreter, if_neg (by simp [heq])]
        simp [Event.actionBy?, heq]
      rw [hsame]
      exact h other
  · -- there is no such interpreter, before or after
    refine lasting.absent ?_
    unfold Session.act
    rw [size_modifyInterpreter]
    exact hid

theorem functionAdded (lasting : Lasting P) {s : Session} (h : ∀ id, P (s.account id)) (id : Nat)
    (routine : Routine) (other : Nat) :
    P ((s.modifyInterpreter id fun i =>
      { i with store := i.store.addFunction routine }).account other) := by
  unfold account
  rw [interpreter_modifyInterpreter]
  split
  · exact lasting.functions _ (h other)
  · exact h other

theorem wiped (lasting : Lasting P) {s : Session} (h : ∀ id, P (s.account id)) (id other : Nat) :
    P ((s.reset id).account other) := by
  unfold account Session.reset
  rw [interpreter_modifyInterpreter]
  split
  · exact lasting.fresh _ _
  · exact h other

theorem stable (lasting : Lasting P) : Stable fun s => ∀ id, P (s.account id) where
  change {s t} hc h other := by
    cases hc with
    | told notice =>
        rw [account_tell]
        exact h other
    | logged channel text =>
        rw [account_record s other rfl]
        exact h other
    | sought path =>
        rw [account_record s other rfl]
        exact h other
    | reported id d =>
        rw [account_modifyInterpreter s id other]
        · exact h other
        · exact fun _ => ⟨rfl, rfl⟩
    | acted id frame line => exact lasting.act h id frame line other
    | functionAdded id routine => exact lasting.functionAdded h id routine other
    | wiped id => exact lasting.wiped h id other
    | reactionTaken rest => exact h other
  enter {s} id frame h other := by
    rw [account_enter]
    exact h other
  leave {s} id depth h other := by
    rw [account_leave]
    exact h other
  beginRun {s} id h other := by
    rw [beginRun, account_modifyInterpreter s id other]
    · exact h other
    · exact fun _ => ⟨rfl, rfl⟩
  endRun {s} id h other := by
    rw [endRun, account_modifyInterpreter s id other]
    · exact h other
    · exact fun _ => ⟨rfl, rfl⟩

theorem added (lasting : Lasting P) {s : Session} (h : ∀ id, P (s.account id)) (config : Config)
    (id : Nat) : P ((s.addInterpreter config).account id) := by
  by_cases hid : id = s.interpreters.size
  · have hi : (s.addInterpreter config).interpreter id = { config } := by
      simp [interpreter, addInterpreter, hid]
    rw [account, hi]
    exact lasting.fresh _ _
  · have hi : (s.addInterpreter config).interpreter id = s.interpreter id := by
      simp [interpreter, addInterpreter, Array.getElem?_push, hid]
    rw [account, hi]
    exact h id

/-- A lasting property holds of every account of every session that can be reached. -/
theorem reachable (lasting : Lasting P) {s : Session} (h : Reachable s) (id : Nat) :
    P (s.account id) := by
  refine lasting.stable.reachable ?_ ?_ ?_ h id
  · intro host reactions other
    exact lasting.absent (by simp)
  · intro t config ht other
    exact lasting.added ht config other
  · intro t ht other
    exact ht other

end Account.Lasting

end LineScript
