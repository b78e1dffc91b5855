import LineScript.Memory.Budget
import LineScript.Script.Outline

/-! # Stores

A store holds the variables of an interpreter, the bytes that each was charged, its functions and
its budget. There are no scopes: every function and every script sees the same store.
-/

namespace LineScript

structure Store where
  values : Table Text := {}
  sizes : Table Int := {}
  functions : Table Routine := {}
  budget : Option Budget := none

namespace Store

def value? (store : Store) (name : Text) : Option Text :=
  store.values.get? name

def size? (store : Store) (name : Text) : Option Int :=
  store.sizes.get? name

def setVariable (store : Store) (name value : Text) (size : Int) : Store :=
  { store with values := store.values.put name value, sizes := store.sizes.put name size }

def removeVariable (store : Store) (name : Text) : Store :=
  { store with values := store.values.erase name, sizes := store.sizes.erase name }

def setBudget (store : Store) (ceiling : Int) : Store :=
  { store with budget := some { ceiling } }

/-- Charges some bytes. Without a budget every charge is accepted. -/
def allocate? (store : Store) (size : Int) : Option Store :=
  match store.budget with
  | none => some store
  | some budget => (budget.allocate? size).map fun budget => { store with budget := some budget }

theorem allocate?_of_none {store : Store} (h : store.budget = none) (size : Int) :
    store.allocate? size = some store := by
  simp [allocate?, h]

theorem allocate?_of_some {store : Store} {budget charged : Budget} {size : Int}
    (h : store.budget = some budget) (hcharged : budget.allocate? size = some charged) :
    store.allocate? size = some { store with budget := some charged } := by
  simp [allocate?, h, hcharged]

theorem allocate?_eq_some {store charged : Store} {size : Int}
    (h : store.allocate? size = some charged) :
    store.budget = none ∧ charged = store ∨
      ∃ budget, store.budget = some budget ∧ budget.used + size ≤ budget.ceiling ∧
        charged = { store with budget := some { budget with used := budget.used + size } } := by
  unfold allocate? at h
  split at h
  · rename_i hbudget
    exact .inl ⟨hbudget, (Option.some.inj h).symm⟩
  · rename_i budget hbudget
    obtain ⟨budget', hcharged, rfl⟩ := Option.map_eq_some_iff.1 h
    obtain ⟨hfit, rfl⟩ := Budget.allocate?_eq_some.1 hcharged
    exact .inr ⟨budget, hbudget, hfit, rfl⟩

theorem tables_of_allocate? {store charged : Store} {size : Int}
    (h : store.allocate? size = some charged) :
    charged.values = store.values ∧ charged.sizes = store.sizes := by
  rcases allocate?_eq_some h with ⟨-, rfl⟩ | ⟨budget, -, -, rfl⟩
  · exact ⟨rfl, rfl⟩
  · exact ⟨rfl, rfl⟩

theorem budget_of_allocate? {store charged : Store} {size : Int} {budget : Budget}
    (h : store.allocate? size = some charged) (hbudget : charged.budget = some budget) :
    ∃ before, store.budget = some before ∧ before.used + size ≤ before.ceiling ∧
      budget = { before with used := before.used + size } := by
  rcases allocate?_eq_some h with ⟨hnone, rfl⟩ | ⟨before, hbefore, hfit, rfl⟩
  · rw [hnone] at hbudget
    cases hbudget
  · exact ⟨before, hbefore, hfit, (Option.some.inj hbudget).symm⟩

def release (store : Store) (size : Int) : Store :=
  { store with budget := store.budget.map (·.release size) }

/-- The body of a function. One that is not defined has an empty body. -/
def body (store : Store) (name : Text) : List Line :=
  match store.functions.get? name with
  | none => []
  | some routine => routine.body

/-- Adds a function, or puts it in the place of one of the same name. -/
def addFunction (store : Store) (routine : Routine) : Store :=
  { store with functions := store.functions.put routine.name routine }

end Store

end LineScript
