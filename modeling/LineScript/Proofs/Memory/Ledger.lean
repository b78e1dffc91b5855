import LineScript.Proofs.Memory.Account
import LineScript.Proofs.Session.Refusal
import Mathlib.Algebra.Ring.Int.Defs
import Mathlib.Data.List.DropRight

/-! # The ledger of a budget

The bytes that a budget has in use are the sizes of the definitions accepted since it was set, less
the recorded sizes of the variables released since then. Defining a variable anew charges again and
gives nothing back; setting a budget leaves the recorded sizes alone.
-/

namespace LineScript

namespace Action

def setsBudget : Action → Bool
  | .setBudget _ => true
  | _ => false

/-- The bytes that an accepted definition is charged. -/
def charged : Action → Int
  | .define _ _ _ size => size
  | _ => 0

def released : Action → Int
  | .free _ size => size
  | _ => 0

end Action

namespace Account

def recent (a : Account) : List Action :=
  a.actions.rtakeWhile (!·.setsBudget)

/-- The charges of the recent definitions, less what the recent releases gave back. -/
def ledger (a : Account) : Int :=
  (a.recent.map Action.charged).sum - (a.recent.map Action.released).sum

theorem recent_after (a : Account) (action : Action) :
    (a.after action).recent = if action.setsBudget then [] else a.recent ++ [action] := by
  unfold recent after
  rw [List.rtakeWhile_concat]
  cases action.setsBudget <;> rfl

theorem ledger_after (a : Account) (action : Action) :
    (a.after action).ledger =
      if action.setsBudget then 0 else a.ledger + action.charged - action.released := by
  unfold ledger
  rw [recent_after]
  split
  · rfl
  · simp only [List.map_append, List.sum_append, List.map_cons, List.map_nil, List.sum_cons,
      List.sum_nil]
    omega

/-- What holds of the memory of an interpreter at any time. -/
structure Kept (a : Account) : Prop where
  sizes : ∀ name, (a.store.value? name).map (valueSize a.config.valueOverhead a.config.codec) =
    (a.store.size? name).map .ok
  used : ∀ {budget}, a.store.budget = some budget → budget.used = a.ledger
  -- the release of a variable with a negative size would charge for it
  within : 0 ≤ a.config.valueOverhead →
    ∀ {budget}, a.store.budget = some budget → budget.used ≤ budget.ceiling

end Account

theorem valueSize_nonneg {overhead : Int} {codec : Except EncodingNameError Codec}
    {value : Text} {size : Int} (hoverhead : 0 ≤ overhead)
    (h : valueSize overhead codec value = .ok size) : 0 ≤ size := by
  unfold valueSize at h
  split at h
  · cases h
  · split at h
    · cases h
    · cases h
      omega

namespace Account

theorem Kept.size_nonneg {a : Account} (h : a.Kept) (hoverhead : 0 ≤ a.config.valueOverhead)
    {name : Text} {size : Int} (hsize : a.store.size? name = some size) : 0 ≤ size := by
  have hmeasured := h.sizes name
  rw [hsize, Option.map_some] at hmeasured
  obtain ⟨value, -, hvalue⟩ := Option.map_eq_some_iff.1 hmeasured
  exact valueSize_nonneg hoverhead hvalue

/-- A variable that there is has a recorded size. -/
theorem Kept.size?_of_value? {a : Account} (h : a.Kept) {name value : Text}
    (hfound : a.store.value? name = some value) :
    a.store.size? name = some ((a.store.size? name).getD 0) := by
  have hmeasured := h.sizes name
  rw [hfound, Option.map_some] at hmeasured
  obtain ⟨size, hsize, -⟩ := Option.map_eq_some_iff.1 hmeasured.symm
  rw [hsize, Option.getD_some]

theorem Kept.of_store_eq {a : Account} {action : Action} (h : a.Kept)
    (hstore : a.store.after action = a.store) (hset : action.setsBudget = false)
    (hcharged : action.charged = 0) (hreleased : action.released = 0) :
    (a.after action).Kept := by
  have hledger : (a.after action).ledger = a.ledger := by
    rw [ledger_after, hset, hcharged, hreleased]
    simp
  refine ⟨?_, ?_, ?_⟩
  · intro name
    rw [after, hstore]
    exact h.sizes name
  · intro budget hbudget
    rw [hledger]
    exact h.used (by rwa [after, hstore] at hbudget)
  · intro hoverhead budget hbudget
    exact h.within hoverhead (by rwa [after, hstore] at hbudget)

theorem Kept.define {a : Account} {definition : Definition} {name value : Text} {size : Int}
    {store' : Store} (h : a.Kept)
    (hsize : valueSize a.config.valueOverhead a.config.codec value = .ok size)
    (hstore : a.store.allocate? size = some store') :
    (a.after (.define definition name value size)).Kept := by
  have hafter : a.store.after (.define definition name value size) =
      store'.setVariable name value size := by simp [Store.after, hstore]
  have hledger : (a.after (.define definition name value size)).ledger = a.ledger + size := by
    simp [ledger_after, Action.setsBudget, Action.charged, Action.released]
  refine ⟨?_, ?_, ?_⟩
  · intro other
    obtain ⟨hvalues, hsizes⟩ := Store.tables_of_allocate? hstore
    simp only [after, hafter, Store.value?, Store.size?, Store.setVariable, Table.get?_put,
      hvalues, hsizes]
    split
    · simp [hsize]
    · exact h.sizes other
  · intro budget hbudget
    rw [after, hafter] at hbudget
    obtain ⟨before, hbefore, -, rfl⟩ := Store.budget_of_allocate? hstore hbudget
    rw [hledger, ← h.used hbefore]
  · intro _ budget hbudget
    rw [after, hafter] at hbudget
    obtain ⟨before, -, hfit, rfl⟩ := Store.budget_of_allocate? hstore hbudget
    exact hfit

theorem Kept.setBudget {a : Account} (h : a.Kept) (ceiling : Nat) :
    (a.after (.setBudget ceiling)).Kept := by
  refine ⟨h.sizes, ?_, ?_⟩
  · intro budget hbudget
    cases hbudget
    rw [ledger_after]
    rfl
  · intro _ budget hbudget
    cases hbudget
    exact Int.natCast_nonneg ceiling

theorem Kept.free {a : Account} {name : Text} {size : Int} (h : a.Kept)
    (hsize : a.store.size? name = some size) : (a.after (.free name size)).Kept := by
  have hledger : (a.after (.free name size)).ledger = a.ledger - size := by
    simp [ledger_after, Action.setsBudget, Action.charged, Action.released]
  refine ⟨?_, ?_, ?_⟩
  · intro other
    simp only [after, Store.after, Store.value?, Store.size?, Store.release, Store.removeVariable,
      Table.get?_erase]
    split
    · rfl
    · exact h.sizes other
  · intro budget hbudget
    obtain ⟨before, hbefore, rfl⟩ := Option.map_eq_some_iff.1 hbudget
    rw [hledger, ← h.used hbefore]
    rfl
  · intro hoverhead budget hbudget
    obtain ⟨before, hbefore, rfl⟩ := Option.map_eq_some_iff.1 hbudget
    have hwithin := h.within hoverhead hbefore
    have hnonneg := h.size_nonneg hoverhead hsize
    change before.used - size ≤ before.ceiling
    omega

theorem lasting_kept : Lasting Kept where
  fresh config actions := by
    refine ⟨?_, ?_, ?_⟩
    · intro name
      rfl
    · intro budget hbudget
      cases hbudget
    · intro _ budget hbudget
      cases hbudget
  functions table h := ⟨h.sizes, h.used, h.within⟩
  action hfounded h := by
    cases hfounded with
    | define _ hsize hstore => exact h.define hsize hstore
    | setBudget ceiling => exact h.setBudget ceiling
    | free hfound => exact h.free (h.size?_of_value? hfound)
    | _ => exact h.of_store_eq rfl rfl rfl rfl

end Account

/-! ## One definition -/

def Store.OverBudget (store : Store) (size : Int) : Prop :=
  ∃ budget, store.budget = some budget ∧ budget.ceiling < budget.used + size

theorem Store.exists_allocate? {store : Store} {size : Int} (h : ¬ store.OverBudget size) :
    ∃ charged, store.allocate? size = some charged := by
  cases hbudget : store.budget with
  | none => exact ⟨store, Store.allocate?_of_none hbudget size⟩
  | some budget =>
      have hfits : budget.used + size ≤ budget.ceiling := by
        by_contra hover
        exact h ⟨budget, hbudget, by omega⟩
      exact ⟨_, Store.allocate?_of_some hbudget (Budget.allocate?_eq_some.2 ⟨hfits, rfl⟩)⟩

namespace Exec

open Session

variable {id : Nat} {frame : Frame} {line : Line} {s : Session} (disk : Disk)
  (say : Text → Exec Unit)

/-- A definition over the budget is reported, if its size can be written out. -/
theorem step_overBudget {name : Text} {size : Int} {budget : Budget}
    (h : s.actionOf id frame line = .overBudget name size budget)
    (hsize : Text.isWritable size = true) :
    ∃ t, step disk say id frame line s = (.ok none, t) ∧
      Refused s t id ((Problem.budgetExceeded name size).on (Statement.citedLine line)) := by
  obtain ⟨logged, hlog, hquiet, hsame⟩ := log_quiet .memory
    s!"Allocation of {size} bytes rejected ({budget.used}/{budget.ceiling} used)"
    ((s.traced id line).act id frame line (.overBudget name size budget))
  obtain ⟨t, ht, hrefused⟩ := report_refused id
    ((Problem.budgetExceeded name size).on (Statement.citedLine line)) logged
  refine ⟨t, ?_, ?_⟩
  · rw [step_apply, h]
    simp only [perform, announce, bind_apply, hlog, writing, hsize, if_true, ht]
    rfl
  · refine { toQuiet := ?_, interpreters := ?_ }
    · exact ((Quiet.traced_act s id frame line _).trans hquiet).trans hrefused.toQuiet
    · rw [hrefused.interpreters, hsame, interpreters_act fun _ => rfl, interpreters_traced]

theorem step_overBudget_unwritable {name : Text} {size : Int} {budget : Budget}
    (h : s.actionOf id frame line = .overBudget name size budget)
    (hsize : Text.isWritable size = false) :
    ∃ t, step disk say id frame line s = (.error .unwritableNumber, t) ∧ Quiet s t ∧
      t.interpreters = s.interpreters := by
  obtain ⟨logged, hlog, hquiet, hsame⟩ := log_quiet .memory
    s!"Allocation of {size} bytes rejected ({budget.used}/{budget.ceiling} used)"
    ((s.traced id line).act id frame line (.overBudget name size budget))
  refine ⟨logged, ?_, (Quiet.traced_act s id frame line _).trans hquiet, ?_⟩
  · rw [step_apply, h]
    simp only [perform, announce, bind_apply, hlog, writing, hsize, Bool.false_eq_true, if_false,
      fail]
  · rw [hsame, interpreters_act fun _ => rfl, interpreters_traced]

theorem step_define {definition : Definition} {name value : Text} {size : Int}
    {charged : Store} (hid : id < s.interpreters.size)
    (h : s.actionOf id frame line = .define definition name value size)
    (hcharged : (s.interpreter id).store.allocate? size = some charged) :
    ∃ t, step disk say id frame line s = (.ok none, t) ∧ Quiet s t ∧
      t.interpreter id =
        { s.interpreter id with store := charged.setVariable name value size } := by
  refine ⟨_, ?_, (Quiet.traced_act s id frame line (.define definition name value size)).trans
    (Quiet.debug _ (.defined definition name value)), ?_⟩
  · rw [step_apply, h]
    rfl
  · have hid' : id < ((s.traced id line).record
        (.performed id frame line (.define definition name value size))).interpreters.size := by
      change id < (s.traced id line).interpreters.size
      rw [interpreters_traced]
      exact hid
    rw [interpreter_tell, act, interpreter_modifyInterpreter_self hid', interpreter_record,
      interpreter_traced]
    simp [Store.after, hcharged]

section Definition

variable {definition : Definition} {name value : List CodePoint} {size : Int} (frame)

theorem actionOf_over
    (hd : Action.definition? (.ofLine line) = some (definition, name, value))
    (hsize : valueSize (s.interpreter id).config.valueOverhead (s.interpreter id).config.codec
      (Text.ofList value) = .ok size)
    (hover : (s.interpreter id).store.OverBudget size) :
    ∃ budget, s.actionOf id frame line = .overBudget (Text.ofList name) size budget := by
  obtain ⟨budget, hbudget, hlt⟩ := hover
  refine ⟨budget, ?_⟩
  rw [actionOf, Action.of_definition hd, Action.ofDefinition_over hsize hbudget hlt]

theorem step_accepted (hid : id < s.interpreters.size)
    (hd : Action.definition? (.ofLine line) = some (definition, name, value))
    (hsize : valueSize (s.interpreter id).config.valueOverhead (s.interpreter id).config.codec
      (Text.ofList value) = .ok size)
    (hfits : ¬ (s.interpreter id).store.OverBudget size) :
    ∃ t charged, step disk say id frame line s = (.ok none, t) ∧ Quiet s t ∧
      (s.interpreter id).store.allocate? size = some charged ∧
      t.interpreter id = { s.interpreter id with
        store := charged.setVariable (Text.ofList name) (Text.ofList value) size } := by
  have haction : s.actionOf id frame line =
      .define definition (Text.ofList name) (Text.ofList value) size := by
    rw [actionOf, Action.of_definition hd, Action.ofDefinition_fits hsize]
    intro budget hbudget
    by_contra hgt
    exact hfits ⟨budget, hbudget, by omega⟩
  obtain ⟨charged, hcharged⟩ := Store.exists_allocate? hfits
  obtain ⟨t, hstep, hquiet, hi⟩ := step_define disk say hid haction hcharged
  exact ⟨t, charged, hstep, hquiet, hcharged, hi⟩

/-- A definition whose size is known is refused exactly if it is over the budget and its size can be
written out. -/
theorem step_refused_iff (hid : id < s.interpreters.size)
    (hd : Action.definition? (.ofLine line) = some (definition, name, value))
    (hsize : valueSize (s.interpreter id).config.valueOverhead (s.interpreter id).config.codec
      (Text.ofList value) = .ok size) :
    (∃ t, step disk say id frame line s = (.ok none, t) ∧
        Refused s t id ((Problem.budgetExceeded (Text.ofList name) size).on
          (Statement.ofLine line).line)) ↔
      (s.interpreter id).store.OverBudget size ∧ Text.isWritable size = true := by
  constructor
  · rintro ⟨t, hstep, hrefused⟩
    by_cases hover : (s.interpreter id).store.OverBudget size
    · refine ⟨hover, ?_⟩
      by_contra hunwritable
      obtain ⟨budget, haction⟩ := actionOf_over frame hd hsize hover
      obtain ⟨u, hu, -⟩ := step_overBudget_unwritable disk say haction
        (Bool.eq_false_iff.2 hunwritable)
      rw [hu] at hstep
      cases hstep
    · -- an accepted definition adds no diagnostic, so the two reports differ in length
      obtain ⟨u, charged, hu, -, -, hi⟩ := step_accepted frame disk say hid hd hsize hover
      obtain ⟨-, rfl⟩ := Prod.mk.inj (hu.symm.trans hstep)
      have hreport := congrArg (fun i => i.report.diagnostics.size)
        (hi.symm.trans (hrefused.interpreter_eq hid))
      simp [Report.add] at hreport
  · rintro ⟨hover, hwritable⟩
    obtain ⟨budget, haction⟩ := actionOf_over frame hd hsize hover
    rw [← Statement.citedLine_eq (Action.command_ne_unknown hd)]
    exact step_overBudget disk say haction hwritable

end Definition

end Exec

open Exec Session in
/-- In every session that can be reached, sizes are recorded for the variables that there are, each
the size that the value is measured at, and a budget has in use what was charged for definitions
since it was set, less the recorded sizes of what was released since then, which is at most its
ceiling unless the overhead is negative. A definition is refused, with nothing changed but the
report, exactly if it is over the budget and its size can be written out. If it is over the budget
and its size cannot be written out, the statement breaks off without a report; nothing is changed
then either. -/
theorem ledger_of_reachable {s : Session} (hs : Reachable s) (id : Nat) :
    let i := s.interpreter id
    let size := fun value => valueSize i.config.valueOverhead i.config.codec value
    let recent := (s.account id).recent
    (∀ name, (i.store.value? name).map size = (i.store.size? name).map .ok) ∧
    (∀ budget, i.store.budget = some budget →
      budget.used = (recent.map Action.charged).sum - (recent.map Action.released).sum ∧
        (0 ≤ i.config.valueOverhead → budget.used ≤ budget.ceiling)) ∧
    (∀ frame line definition name value bytes,
      s.actionOf id frame line = .define definition name value bytes → size value = .ok bytes) ∧
    (∀ frame line name bytes, s.actionOf id frame line = .free name bytes →
      i.store.size? name = some bytes) ∧
    ∀ (disk : Disk) (say : Text → Exec Unit) (frame : Frame) (line : Line)
      (definition : Definition) (name value : List CodePoint) (bytes : Int),
      id < s.interpreters.size →
      Action.definition? (.ofLine line) = some (definition, name, value) →
      size (Text.ofList value) = .ok bytes →
      ((∃ t, step disk say id frame line s = (.ok none, t) ∧
          s.Refused t id ((Problem.budgetExceeded (Text.ofList name) bytes).on
            (Statement.ofLine line).line)) ↔
        i.store.OverBudget bytes ∧ Text.isWritable bytes = true) ∧
      (i.store.OverBudget bytes → Text.isWritable bytes = false →
        ∃ t, step disk say id frame line s = (.error .unwritableNumber, t) ∧ s.Quiet t ∧
          t.interpreters = s.interpreters) ∧
      (¬ i.store.OverBudget bytes →
        ∃ t charged, step disk say id frame line s = (.ok none, t) ∧ s.Quiet t ∧
          i.store.allocate? bytes = some charged ∧
          t.interpreter id =
            { i with store := charged.setVariable (Text.ofList name) (Text.ofList value)
                       bytes }) := by
  intro i size recent
  have hkept : (s.account id).Kept := Account.lasting_kept.reachable hs id
  refine ⟨hkept.sizes, ?_, ?_, ?_, ?_⟩
  · intro budget hbudget
    exact ⟨hkept.used hbudget, fun hoverhead => hkept.within hoverhead hbudget⟩
  · intro frame line definition name value bytes haction
    have hfounded := Action.founded_of i.config frame i.store (.ofLine line)
    rw [show Action.of i.config frame i.store (.ofLine line) = _ from haction] at hfounded
    cases hfounded with
    | define _ hsize _ => exact hsize
  · intro frame line name bytes haction
    have hfounded := Action.founded_of i.config frame i.store (.ofLine line)
    rw [show Action.of i.config frame i.store (.ofLine line) = _ from haction] at hfounded
    cases hfounded with
    | free hfound => exact hkept.size?_of_value? hfound
  · intro disk say frame line definition name value bytes hid hd hsize
    refine ⟨step_refused_iff frame disk say hid hd hsize, ?_,
      step_accepted frame disk say hid hd hsize⟩
    intro hover hunwritable
    obtain ⟨budget, haction⟩ := actionOf_over frame hd hsize hover
    exact step_overBudget_unwritable disk say haction hunwritable

open Exec Session in
/-- With an overhead of 4300 digits the size of a short text has one digit too many to be written:
the definition is over the budget, and the statement breaks off without a report. -/
theorem ledger_of_unwritable_size :
    let start : Session := { host := some { surface := .buffer {} } }
    let s := ((start.addInterpreter { valueOverhead := Int.pow 10 4300 - 1 }).run .blank 0
      "MAX_MEM 5" {} none).2
    Reachable s ∧ (s.interpreter 0).store.budget = some { ceiling := 5 } ∧
      ∃ t, step .blank (Exec.say .blank 0) 0 { base := {} } (.ofStatement "string a = \"x\"") s =
        (.error .unwritableNumber, t) ∧ s.Quiet t ∧ t.interpreters = s.interpreters := by
  intro start s
  have hs : Reachable s :=
    .run (.addInterpreter (.fresh (some (.buffer {})) []) _) .blank 0 "MAX_MEM 5" {} none
  have hbudget : (s.interpreter 0).store.budget = some { ceiling := 5 } := by decide +kernel
  refine ⟨hs, hbudget, ?_⟩
  refine ((ledger_of_reachable hs 0).2.2.2.2 .blank (Exec.say .blank 0) { base := {} }
    (.ofStatement "string a = \"x\"") .string [.char 'a'] [.char 'x'] (Int.pow 10 4300)
    ?_ ?_ ?_).2.1 ?_ ?_
  · decide +kernel
  · decide +kernel
  · decide +kernel
  · exact ⟨_, hbudget, by decide +kernel⟩
  · decide +kernel

end LineScript
