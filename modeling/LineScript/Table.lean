import LineScript.Text.Basic

/-! # Tables

A table maps names to values and remembers the order in which names came in. Setting a name again
changes its value and keeps its place.
-/

namespace LineScript

structure Table (α : Type) where
  entries : List (Text × α) := []
  deriving Repr

namespace Table

variable {α : Type}

def putEntry (name : Text) (value : α) : List (Text × α) → List (Text × α)
  | [] => [(name, value)]
  | entry :: rest =>
    if entry.1 = name then (name, value) :: rest else entry :: putEntry name value rest

def lookup (name : Text) : List (Text × α) → Option α
  | [] => none
  | entry :: rest => if entry.1 = name then some entry.2 else lookup name rest

def get? (table : Table α) (name : Text) : Option α :=
  lookup name table.entries

def contains (table : Table α) (name : Text) : Bool :=
  (table.get? name).isSome

def put (table : Table α) (name : Text) (value : α) : Table α :=
  ⟨putEntry name value table.entries⟩

def erase (table : Table α) (name : Text) : Table α :=
  ⟨table.entries.filter (·.1 ≠ name)⟩

/-- Sets the names of `more` on top of those of `table`. -/
def update (table more : Table α) : Table α :=
  more.entries.foldl (fun result entry => result.put entry.1 entry.2) table

def size (table : Table α) : Nat :=
  table.entries.length

def values (table : Table α) : List α :=
  table.entries.map (·.2)

def sorted (table : Table α) : List (Text × α) :=
  table.entries.mergeSort fun a b => decide (a.1 ≤ b.1)

theorem lookup_putEntry (name other : Text) (value : α) (entries : List (Text × α)) :
    lookup other (putEntry name value entries) =
      if name = other then some value else lookup other entries := by
  induction entries with
  | nil => simp [putEntry, lookup]
  | cons entry rest ih =>
      by_cases h : entry.1 = name
      · subst h
        by_cases ho : entry.1 = other <;> simp [putEntry, lookup, ho]
      · by_cases ho : entry.1 = other
        · have hne : name ≠ other := fun hc => h (ho.trans hc.symm)
          rw [putEntry, if_neg h, lookup, if_pos ho, if_neg hne, lookup, if_pos ho]
        · simp [putEntry, lookup, h, ho, ih]

/-- Setting a name changes what is found under it and nothing else. -/
@[simp]
theorem get?_put (table : Table α) (name other : Text) (value : α) :
    (table.put name value).get? other = if name = other then some value else table.get? other :=
  lookup_putEntry name other value table.entries

theorem lookup_filter_ne (name other : Text) (entries : List (Text × α)) :
    lookup other (entries.filter (·.1 ≠ name)) =
      if name = other then none else lookup other entries := by
  induction entries with
  | nil => simp [lookup]
  | cons entry rest ih =>
      by_cases h : entry.1 = name
      · rw [List.filter_cons_of_neg (by simpa using h), ih, lookup, h]
        by_cases ho : name = other <;> simp [ho]
      · rw [List.filter_cons_of_pos (by simpa using h), lookup, lookup, ih]
        by_cases ho : entry.1 = other
        · have hne : name ≠ other := fun hc => h (ho.trans hc.symm)
          rw [if_pos ho, if_neg hne, if_pos ho]
        · rw [if_neg ho, if_neg ho]

/-- Erasing a name hides it and nothing else. -/
@[simp]
theorem get?_erase (table : Table α) (name other : Text) :
    (table.erase name).get? other = if name = other then none else table.get? other :=
  lookup_filter_ne name other table.entries

end Table

end LineScript
