import LineScript.Session.State

/-! # Operations on sessions

An operation changes a session and gives a result or breaks off with a fault. A fault does not undo
the changes made before it.
-/

namespace LineScript

def Exec (α : Type) : Type :=
  Session → Except Fault α × Session

namespace Exec

variable {α β : Type}

instance : Monad Exec where
  pure a := fun s => (.ok a, s)
  bind x f := fun s =>
    match x s with
    | (.ok a, s') => f a s'
    | (.error fault, s') => (.error fault, s')

@[simp]
theorem pure_apply (a : α) (s : Session) : (pure a : Exec α) s = (.ok a, s) :=
  rfl

theorem bind_apply (x : Exec α) (f : α → Exec β) (s : Session) :
    (x >>= f) s =
      match x s with
      | (.ok a, s') => f a s'
      | (.error fault, s') => (.error fault, s') :=
  rfl

theorem bind_ok {x : Exec α} {f : α → Exec β} {s u : Session} {b : β}
    (h : (x >>= f) s = (.ok b, u)) : ∃ a t, x s = (.ok a, t) ∧ f a t = (.ok b, u) := by
  rw [bind_apply] at h
  cases hx : x s with
  | mk result t =>
      cases result with
      | ok a => exact ⟨a, t, rfl, by simpa [hx] using h⟩
      | error fault => simp [hx] at h

def fail (fault : Fault) : Exec α :=
  fun s => (.error fault, s)

def get : Exec Session :=
  fun s => (.ok s, s)

def modify (change : Session → Session) : Exec Unit :=
  fun s => (.ok (), change s)

/-- Makes a last change whether the operation breaks off or not. -/
def ensuring (x : Exec α) (change : Session → Session) : Exec α :=
  fun s =>
    match x s with
    | (result, s') => (result, change s')

def each (f : β → Exec Unit) : List β → Exec Unit
  | [] => pure ()
  | b :: rest => do
    f b
    each f rest

/-- Takes a result that was found without the session, or breaks off with its fault. -/
def ofExcept : Except Fault α → Exec α
  | .ok a => pure a
  | .error fault => fail fault

theorem ofExcept_ok {result : Except Fault α} {s t : Session} {a : α}
    (h : ofExcept result s = (.ok a, t)) : t = s := by
  cases result with
  | ok b => exact (Prod.mk.inj h).2.symm
  | error fault => simp [ofExcept, fail] at h

def interpreter (id : Nat) : Exec Interpreter :=
  fun s => (.ok (s.interpreter id), s)

def modifyInterpreter (id : Nat) (change : Interpreter → Interpreter) : Exec Unit :=
  modify (·.modifyInterpreter id change)

def record (event : Event) : Exec Unit :=
  modify (·.record event)

def log (channel : Channel) (text : Text) : Exec Unit :=
  record (.logged channel text)

def tell (notice : Notice) : Exec Unit :=
  modify (·.tell notice)

def debug (line : DebugLine) : Exec Unit :=
  tell (.debug line)

/-- Adds a diagnostic to the report of an interpreter and passes it on to the host. -/
def report (id : Nat) (d : Diagnostic) : Exec Unit := do
  modifyInterpreter id fun i => { i with report := i.report.add d }
  log .execution (d.format false)
  debug (.diagnostic d)

def modifyStore (id : Nat) (change : Store → Store) : Exec Unit :=
  modifyInterpreter id fun i => { i with store := change i.store }

end Exec

end LineScript
