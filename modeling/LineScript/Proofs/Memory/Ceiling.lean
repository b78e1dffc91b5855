import LineScript.Proofs.Memory.Ledger
import LineScript.Proofs.Table

/-! # What a ceiling bounds

A budget does not see what was stored before it was set, but the release of such a variable is
credited to it. So the ceiling bounds the variables stored under the budget only up to that credit:
their total is at most the ceiling and the credit together.
-/

namespace LineScript

namespace Sizes

/-- The bytes charged for the variables whose names count. -/
def total (counts : Text → Bool) (entries : List (Text × Int)) : Int :=
  ((entries.filter (counts ·.1)).map (·.2)).sum

variable {counts : Text → Bool} {entries : List (Text × Int)}

theorem total_cons (entry : Text × Int) :
    total counts (entry :: entries) =
      (if counts entry.1 then entry.2 else 0) + total counts entries := by
  unfold total
  rw [List.filter_cons]
  split
  · simp
  · simp

theorem total_nonneg (h : ∀ entry ∈ entries, 0 ≤ entry.2) : 0 ≤ total counts entries := by
  induction entries with
  | nil => simp [total]
  | cons entry rest ih =>
      have hfirst := h entry (by simp)
      have hrest := ih fun e he => h e (by simp [he])
      rw [total_cons]
      split
      · omega
      · omega

theorem total_congr {counts' : Text → Bool}
    (h : ∀ entry ∈ entries, counts' entry.1 = counts entry.1) :
    total counts' entries = total counts entries := by
  unfold total
  rw [List.filter_congr h]

theorem total_filter_le (h : ∀ entry ∈ entries, 0 ≤ entry.2) (p : Text × Int → Bool) :
    total counts (entries.filter p) ≤ total counts entries := by
  induction entries with
  | nil => simp [total]
  | cons entry rest ih =>
      have hfirst := h entry (by simp)
      have hrest := ih fun e he => h e (by simp [he])
      rw [List.filter_cons, total_cons]
      split
      · rw [total_cons]
        omega
      · split
        · omega
        · omega

/-- Storing a variable adds no more than its size to the total, also if its name counts only from
now on. -/
theorem total_putEntry_le (hdistinct : Table.Distinct entries)
    (h : ∀ entry ∈ entries, 0 ≤ entry.2) (name : Text) (size : Int) :
    total (fun other => counts other || decide (name = other)) (Table.putEntry name size entries) ≤
      total counts entries + size := by
  induction entries with
  | nil => simp [Table.putEntry, total]
  | cons entry rest ih =>
      obtain ⟨hnot, hdistinct⟩ := List.nodup_cons.1 hdistinct
      have hfirst := h entry (by simp)
      have hrest := ih hdistinct fun e he => h e (by simp [he])
      rw [Table.putEntry, total_cons]
      split
      · rename_i hname
        -- no later entry has the name, so only the new one starts to count
        have hsame : total (fun other => counts other || decide (name = other)) rest =
            total counts rest := by
          apply total_congr
          intro e he
          have hne : name ≠ e.1 := by
            intro heq
            apply hnot
            change entry.1 ∈ rest.map (·.1)
            rw [hname, heq]
            exact List.mem_map_of_mem he
          simp [hne]
        rw [total_cons, hsame]
        simp only [decide_true, Bool.or_true, if_true]
        split
        · omega
        · omega
      · rename_i hname
        have hne : ¬ name = entry.1 := fun heq => hname heq.symm
        rw [total_cons]
        simp only [hne, decide_false, Bool.or_false]
        omega

/-- Removing a variable whose name counts takes at least its size off the total. -/
theorem total_erase_le (h : ∀ entry ∈ entries, 0 ≤ entry.2) {name : Text} {size : Int}
    (hfound : Table.lookup name entries = some size) :
    total counts (entries.filter (·.1 ≠ name)) + (if counts name then size else 0) ≤
      total counts entries := by
  induction entries with
  | nil => simp [Table.lookup] at hfound
  | cons entry rest ih =>
      have hsizes : ∀ e ∈ rest, 0 ≤ e.2 := fun e he => h e (by simp [he])
      rw [Table.lookup] at hfound
      split at hfound
      · rename_i hname
        cases hfound
        have hrest : total counts (rest.filter (·.1 ≠ name)) ≤ total counts rest :=
          total_filter_le hsizes _
        rw [List.filter_cons_of_neg (by simpa using hname), total_cons, hname]
        omega
      · rename_i hname
        have hrest := ih hsizes hfound
        rw [List.filter_cons_of_pos (by simpa using hname), total_cons, total_cons]
        omega

end Sizes

/-! ## Credit -/

def Action.defines (name : Text) : Action → Bool
  | .define _ other _ _ => other = name
  | _ => false

/-- The bytes that an action gives back for a variable that none of the earlier actions defined. -/
def Action.credit (earlier : List Action) : Action → Int
  | .free name size => if earlier.any (·.defines name) then 0 else size
  | _ => 0

def Action.credits : List Action → Int
  | [] => 0
  | action :: earlier => credits earlier + action.credit earlier

namespace Account

def isRecent (a : Account) (name : Text) : Bool :=
  a.recent.any (·.defines name)

/-- The bytes charged for the variables whose value was defined since a budget was set last. -/
def recentTotal (a : Account) : Int :=
  Sizes.total a.isRecent a.store.sizes.entries

/-- The bytes given back since a budget was set last for variables that were defined before. -/
def credit (a : Account) : Int :=
  Action.credits a.recent.reverse

theorem isRecent_after (a : Account) (action : Action) (name : Text) :
    (a.after action).isRecent name =
      (!action.setsBudget && (a.isRecent name || action.defines name)) := by
  unfold isRecent
  rw [recent_after]
  cases action.setsBudget <;> simp

theorem credit_after (a : Account) (action : Action) :
    (a.after action).credit =
      if action.setsBudget then 0 else a.credit + action.credit a.recent := by
  unfold credit
  rw [recent_after]
  split
  · rfl
  · rw [List.reverse_concat, Action.credits]
    cases action <;> simp [Action.credit]

/-- What holds of an account and the variables that its budget has seen. -/
structure Covered (a : Account) : Prop extends Kept a where
  overhead_nonneg : 0 ≤ a.config.valueOverhead
  distinct : Table.Distinct a.store.sizes.entries
  credit_nonneg : ∀ {budget}, a.store.budget = some budget → 0 ≤ a.credit
  covered : ∀ {budget}, a.store.budget = some budget → a.recentTotal ≤ budget.used + a.credit

theorem Covered.size_nonneg {a : Account} (h : a.Covered) :
    ∀ entry ∈ a.store.sizes.entries, 0 ≤ entry.2 := by
  intro entry hmem
  exact h.toKept.size_nonneg h.overhead_nonneg (Table.lookup_of_mem h.distinct hmem)

theorem Covered.recentTotal_nonneg {a : Account} (h : a.Covered) : 0 ≤ a.recentTotal :=
  Sizes.total_nonneg h.size_nonneg

theorem Covered.of_store_eq {a : Account} {action : Action} (h : a.Covered)
    (hkept : (a.after action).Kept) (hstore : a.store.after action = a.store)
    (hset : action.setsBudget = false) (hdefines : ∀ name, action.defines name = false)
    (hcredit : action.credit a.recent = 0) : (a.after action).Covered := by
  have hrecent : (a.after action).isRecent = a.isRecent := by
    funext name
    simp [isRecent_after, hset, hdefines]
  have hcredit : (a.after action).credit = a.credit := by
    rw [credit_after, hset, hcredit]
    simp
  have hsame : (a.after action).store = a.store := hstore
  refine { toKept := hkept, overhead_nonneg := h.overhead_nonneg, distinct := ?_,
           credit_nonneg := ?_, covered := ?_ }
  · rw [hsame]
    exact h.distinct
  · intro budget hbudget
    rw [hcredit]
    exact h.credit_nonneg (hsame ▸ hbudget)
  · intro budget hbudget
    rw [hcredit, recentTotal, hrecent, hsame]
    exact h.covered (hsame ▸ hbudget)

theorem Covered.define {a : Account} {definition : Definition} {name value : Text}
    {size : Int} {store' : Store} (h : a.Covered)
    (hkept : (a.after (.define definition name value size)).Kept)
    (hstore : a.store.allocate? size = some store') :
    (a.after (.define definition name value size)).Covered := by
  have hcredit : (a.after (.define definition name value size)).credit = a.credit := by
    simp [credit_after, Action.setsBudget, Action.credit]
  have hrecent : (a.after (.define definition name value size)).isRecent =
      fun other => a.isRecent other || decide (name = other) := by
    funext other
    simp [isRecent_after, Action.setsBudget, Action.defines]
  have hafter : (a.after (.define definition name value size)).store =
      store'.setVariable name value size := by simp [after, Store.after, hstore]
  have hentries : (a.after (.define definition name value size)).store.sizes.entries =
      Table.putEntry name size a.store.sizes.entries := by
    rw [hafter, Store.setVariable, (Store.tables_of_allocate? hstore).2]
    rfl
  refine { toKept := hkept, overhead_nonneg := h.overhead_nonneg, distinct := ?_,
           credit_nonneg := ?_, covered := ?_ }
  · rw [hentries]
    exact Table.distinct_putEntry name _ h.distinct
  · intro budget hbudget
    rw [hafter] at hbudget
    obtain ⟨before, hbefore, -⟩ := Store.budget_of_allocate? hstore hbudget
    rw [hcredit]
    exact h.credit_nonneg hbefore
  · intro budget hbudget
    rw [hafter] at hbudget
    obtain ⟨before, hbefore, -, rfl⟩ := Store.budget_of_allocate? hstore hbudget
    have hcovered := h.covered hbefore
    have htotal : (a.after (.define definition name value size)).recentTotal ≤
        a.recentTotal + size := by
      unfold recentTotal
      rw [hentries, hrecent]
      exact Sizes.total_putEntry_le h.distinct h.size_nonneg name size
    rw [hcredit]
    simp only
    omega

theorem Covered.setBudget {a : Account} {ceiling : Nat} (h : a.Covered)
    (hkept : (a.after (.setBudget ceiling)).Kept) : (a.after (.setBudget ceiling)).Covered := by
  have hcredit : (a.after (.setBudget ceiling)).credit = 0 := credit_after a _
  have hrecent : (a.after (.setBudget ceiling)).isRecent = fun _ => false := by
    funext name
    exact isRecent_after a _ name
  refine { toKept := hkept, overhead_nonneg := h.overhead_nonneg, distinct := h.distinct,
           credit_nonneg := ?_, covered := ?_ }
  · intro budget _
    exact Int.le_of_eq hcredit.symm
  · intro budget hbudget
    cases hbudget
    rw [hcredit, recentTotal, hrecent]
    simp [Sizes.total]

theorem Covered.free {a : Account} {name : Text} {size : Int} (h : a.Covered)
    (hkept : (a.after (.free name size)).Kept) (hsize : a.store.size? name = some size) :
    (a.after (.free name size)).Covered := by
  have hnonneg := h.toKept.size_nonneg h.overhead_nonneg hsize
  have hcredit : (a.after (.free name size)).credit =
      a.credit + if a.isRecent name then 0 else size := credit_after a _
  have hrecent : (a.after (.free name size)).isRecent = a.isRecent := by
    funext other
    simp [isRecent_after, Action.setsBudget, Action.defines]
  refine { toKept := hkept, overhead_nonneg := h.overhead_nonneg, distinct := ?_,
           credit_nonneg := ?_, covered := ?_ }
  · exact Table.distinct_filter _ h.distinct
  · intro budget hbudget
    obtain ⟨before, hbefore, -⟩ := Option.map_eq_some_iff.1 hbudget
    have hbound := h.credit_nonneg hbefore
    rw [hcredit]
    split
    · omega
    · omega
  · intro budget hbudget
    obtain ⟨before, hbefore, rfl⟩ := Option.map_eq_some_iff.1 hbudget
    have hcovered := h.covered hbefore
    have htotal : (a.after (.free name size)).recentTotal +
        (if a.isRecent name then size else 0) ≤ a.recentTotal := by
      unfold recentTotal
      rw [hrecent]
      exact Sizes.total_erase_le h.size_nonneg hsize
    rw [hcredit]
    simp only [Budget.release]
    -- a recent variable leaves the total; an old one was never in it, and its bytes become credit
    by_cases hname : a.isRecent name = true
    · rw [if_pos hname] at htotal ⊢
      omega
    · rw [if_neg hname] at htotal ⊢
      omega

theorem lasting_covered : Lasting fun a => 0 ≤ a.config.valueOverhead → a.Covered where
  fresh config actions hoverhead := by
    refine { toKept := lasting_kept.fresh config actions, overhead_nonneg := hoverhead,
             distinct := List.nodup_nil, credit_nonneg := ?_, covered := ?_ }
    · intro budget hbudget
      cases hbudget
    · intro budget hbudget
      cases hbudget
  functions table hcovered hoverhead :=
    have h := hcovered hoverhead
    { toKept := lasting_kept.functions table h.toKept, overhead_nonneg := hoverhead
      distinct := h.distinct, credit_nonneg := h.credit_nonneg, covered := h.covered }
  action hfounded hcovered hoverhead := by
    have h := hcovered hoverhead
    have hkept := lasting_kept.action hfounded h.toKept
    cases hfounded with
    | define _ _ hstore => exact h.define hkept hstore
    | setBudget ceiling => exact h.setBudget hkept
    | free hfound => exact h.free hkept (h.toKept.size?_of_value? hfound)
    | _ => exact h.of_store_eq hkept rfl rfl (fun _ => rfl) rfl

end Account

open Session in
/-- A variable of 17 bytes is stored before the budget of 20 bytes is set. Its release takes what is
in use below zero, and then a variable of 37 bytes is stored under the budget. So a ceiling alone
bounds neither. -/
theorem ceiling_passed_by_credit :
    let start : Session := { host := some { surface := .buffer {} } }
    let released := ((start.addInterpreter {}).run .blank 0
      "string a = \"x\"\nMAX_MEM 20\n@FREE a" {} none).2
    let stored := (released.execute .blank 0 "string b = \"a text of 21 letters.\"" {}).2
    (released.interpreter 0).store.budget = some { ceiling := 20, used := -17 } ∧
      (stored.interpreter 0).store.budget = some { ceiling := 20, used := 20 } ∧
      (stored.account 0).recentTotal = 37 ∧
      ¬ ∀ (s : Session) (id : Nat) (budget : Budget), Reachable s →
        0 ≤ (s.interpreter id).config.valueOverhead →
        (s.interpreter id).store.budget = some budget →
        0 ≤ budget.used ∧ (s.account id).recentTotal ≤ budget.ceiling := by
  intro start released stored
  have hreleased : Reachable released :=
    .run (.addInterpreter (.fresh (some (.buffer {})) []) {}) .blank 0 _ {} none
  have hstored : Reachable stored := .execute hreleased .blank 0 _ {}
  obtain ⟨hbudget, htotal⟩ :
      (stored.interpreter 0).store.budget = some { ceiling := 20, used := 20 } ∧
        (stored.account 0).recentTotal = 37 := by decide +kernel
  refine ⟨by decide +kernel, hbudget, htotal, ?_⟩
  intro h
  have hle := (h stored 0 _ hstored (by decide +kernel) hbudget).2
  rw [htotal] at hle
  exact absurd hle (by decide)

open Session in
/-- With an overhead that is not negative and under a budget, what is in use is never further below
zero than the credit, and the variables whose value was defined since the budget was set take up no
more than what is in use and the credit together, so no more than the ceiling and the credit.
Without credit nothing is below zero, and the ceiling bounds those variables. -/
theorem recentTotal_le_ceiling_add_credit {s : Session} (hs : Reachable s) {id : Nat}
    (hoverhead : 0 ≤ (s.interpreter id).config.valueOverhead) {budget : Budget}
    (hbudget : (s.interpreter id).store.budget = some budget) :
    let credit := (s.account id).credit
    let total := (s.account id).recentTotal
    0 ≤ credit ∧ -credit ≤ budget.used ∧ total ≤ budget.used + credit ∧
      total ≤ budget.ceiling + credit ∧
      (credit = 0 → 0 ≤ budget.used ∧ total ≤ budget.ceiling) := by
  intro credit total
  have h : (s.account id).Covered := Account.lasting_covered.reachable hs id hoverhead
  have hnonneg : 0 ≤ credit := h.credit_nonneg hbudget
  have hcovered : total ≤ budget.used + credit := h.covered hbudget
  have hwithin : budget.used ≤ budget.ceiling := h.within hoverhead hbudget
  have htotal : 0 ≤ total := h.recentTotal_nonneg
  refine ⟨hnonneg, by omega, hcovered, by omega, ?_⟩
  intro hzero
  exact ⟨by omega, by omega⟩

open Session in
/-- The bound is met when the credit is used up. -/
theorem recentTotal_le_of_credit_used_up :
    let start : Session := { host := some { surface := .buffer {} } }
    let s := ((start.addInterpreter {}).run .blank 0
      "string a = \"x\"\nMAX_MEM 20\n@FREE a\nstring b = \"a text of 21 letters.\"" {} none).2
    Reachable s ∧ 0 ≤ (s.interpreter 0).config.valueOverhead ∧
      (s.interpreter 0).store.budget = some { ceiling := 20, used := 20 } ∧
      (s.account 0).credit = 17 ∧ (s.account 0).recentTotal ≤ 20 + 17 := by
  intro start s
  have hs : Reachable s :=
    .run (.addInterpreter (.fresh (some (.buffer {})) []) {}) .blank 0 _ {} none
  obtain ⟨hbudget, hcredit⟩ :
      (s.interpreter 0).store.budget = some { ceiling := 20, used := 20 } ∧
        (s.account 0).credit = 17 := by decide +kernel
  have hoverhead : 0 ≤ (s.interpreter 0).config.valueOverhead := by decide +kernel
  have hbound := (recentTotal_le_ceiling_add_credit hs hoverhead hbudget).2.2.2.1
  rw [hcredit] at hbound
  exact ⟨hs, hoverhead, hbudget, hcredit, hbound⟩

end LineScript
