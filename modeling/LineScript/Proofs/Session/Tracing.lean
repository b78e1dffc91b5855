import LineScript.Proofs.Session.WritesFor
import LineScript.Proofs.Session.Outcome
import LineScript.Proofs.Session.SameProgress

/-! # Tracing

With the trace on, the host is told of every statement before it is executed. The main result is
that a run does nothing else differently: without the trace the signals are the same, in the same
order, but for one trace line right before each statement.
-/

namespace LineScript

namespace Signal

/-- A signal with the trace line of its statement, if it comes from one. -/
def withTrace : Signal → List Signal
  | executed id text => [told (.debug (.trace text)), executed id text]
  | signal => [signal]

/-- The same for the statements of one interpreter. -/
def withTraceOf (id : Nat) (signal : Signal) : List Signal :=
  match signal with
  | executed other _ => if other = id then signal.withTrace else [signal]
  | _ => [signal]

theorem withTraceOf_eq {id : Nat} {signal : Signal}
    (h : ∀ other text, signal = executed other text → other = id) :
    signal.withTraceOf id = signal.withTrace := by
  cases signal with
  | executed other text => exact if_pos (h other text rfl)
  | _ => rfl

/-- Trace lines are for the debug channel only. -/
theorem filter_notices_withTrace (signals : List Signal) :
    ((signals.flatMap withTrace).filterMap notice?).filter (!·.isDebug) =
      (signals.filterMap notice?).filter (!·.isDebug) := by
  induction signals with
  | nil => rfl
  | cons signal signals ih =>
      have hfirst : (signal.withTrace.filterMap notice?).filter (!·.isDebug) =
          ([signal].filterMap notice?).filter (!·.isDebug) := by
        cases signal <;> rfl
      rw [List.flatMap_cons, List.filterMap_append, List.filter_append, ih, hfirst,
        ← List.filter_append, ← List.filterMap_append, List.singleton_append]

end Signal

namespace Session

def withTrace (s : Session) (id : Nat) (trace : Bool) : Session :=
  s.configure id fun config => { config with trace }

variable {s : Session} {id : Nat}

theorem nesting_withTrace (s : Session) (id : Nat) (trace : Bool) :
    (s.withTrace id trace).nesting = s.nesting :=
  Prod.ext (map_modifyInterpreter s id fun _ => rfl) rfl

theorem traceSignals_withTrace (hid : id < s.interpreters.size) (hhost : s.host.isSome)
    (trace : Bool) (other : Nat) (text : Text) :
    (s.withTrace id trace).traceSignals other text =
      if other = id then if trace then [.told (.debug (.trace text))] else []
      else s.traceSignals other text := by
  unfold traceSignals withTrace configure
  rw [interpreter_modifyInterpreter]
  by_cases hother : other = id
  · subst hother
    simp [hid, modifyInterpreter, hhost]
  · have hnot : ¬ (id = other ∧ other < s.interpreters.size) := fun h => hother h.1.symm
    rw [if_neg hnot, if_neg hother]
    rfl

theorem comparable_withTrace (hid : id < s.interpreters.size) (hhost : s.host.isSome) :
    Comparable (Signal.withTraceOf id) (s.withTrace id true) (s.withTrace id false) where
  host := rfl
  overhead := configure_congr (·.valueOverhead) s id fun _ => rfl
  codec := configure_congr (·.codec) s id fun _ => rfl
  title := configure_congr (·.defaultWindowTitle) s id fun _ => rfl
  shown signal hsignal := by
    cases signal with
    | executed other text => cases hsignal
    | _ => rfl
  executed other text := by
    rw [traceSignals_withTrace hid hhost, traceSignals_withTrace hid hhost]
    by_cases hother : other = id
    · simp [hother, Signal.withTraceOf, Signal.withTrace]
    · rw [if_neg hother, if_neg hother]
      unfold traceSignals
      split
      · simp [hother, Signal.withTraceOf]
      · simp [hother, Signal.withTraceOf]

/-- While interpreter `id` is at work, all statements that are executed are its own. -/
theorem Served.executed {t : Session} (h : Served id s t) {signals : List Signal}
    (hsignals : t.signals = s.signals ++ signals) {other : Nat} {text : Text}
    (hmem : .executed other text ∈ signals) : other = id := by
  obtain ⟨events, hevents, hfor, -⟩ := h.events
  unfold Session.signals at hsignals
  rw [hevents, List.filterMap_append] at hsignals
  rw [← List.append_cancel_left hsignals] at hmem
  obtain ⟨event, hevent, hsignal⟩ := List.mem_filterMap.1 hmem
  cases event with
  | performed performer frame line action =>
      cases hsignal
      exact hfor _ hevent
  | _ => cases hsignal

end Session

open Exec in
/-- Tracing does not interfere. A run with the trace off and one with the trace on give the same
result or break off with the same fault, and leave the same variables, sizes, functions, budgets and
reports. The host shows the same, apart from the debug channel. Without the trace it is told of no
trace line; with it, of one right before each statement, and of nothing else that is new or in
another place. -/
theorem run_agrees_with_traced_run (s : Session) (disk : Disk) (id : Nat) (source : Text)
    (base : Path) (file : Option Text) (hid : id < s.interpreters.size) (hhost : s.host.isSome)
    (hplain : s.reactions = []) :
    let quiet := (s.withTrace id false).run disk id source base file
    let traced := (s.withTrace id true).run disk id source base file
    quiet.1 = traced.1 ∧ quiet.2.holdings = traced.2.holdings ∧
    quiet.2.host.map Host.front = traced.2.host.map Host.front ∧
    ∃ signals : List Signal, quiet.2.signals = s.signals ++ signals ∧
      traced.2.signals = s.signals ++ signals.flatMap Signal.withTrace ∧
      ∀ text, .told (.debug (.trace text)) ∉ signals := by
  intro quiet traced
  have hrun : ∀ trace, (s.withTrace id trace).run disk id source base file =
      Exec.run disk (Exec.say disk 0) id source base file (s.withTrace id trace) := fun trace =>
    Session.run_plain disk id source base file hplain
  have comparable := Session.comparable_withTrace hid hhost
  have hnesting : (s.withTrace id false).nesting = (s.withTrace id true).nesting := by
    rw [Session.nesting_withTrace, Session.nesting_withTrace]
  have hholdings : (s.withTrace id false).holdings = (s.withTrace id true).holdings := by
    unfold Session.withTrace
    rw [Session.holdings_configure, Session.holdings_configure]
  have hmatch : Match (Session.SameProgress (Signal.withTraceOf id) (s.withTrace id true)
      (s.withTrace id false)) Eq traced quiet := by
    simp only [traced, quiet, hrun]
    exact match_run_sameProgress comparable
      (matches_say (Session.sameProgress_coupling comparable) disk)
      (within_say disk Session.books_law 0) (.refl hholdings) hnesting id source base file
  obtain ⟨more, htraced, hquiet, htraces⟩ := hmatch.sessions.signals
  -- only the interpreter whose trace was switched executes statements
  have hwrites : Session.WritesFor id (s.withTrace id false) quiet.2 := by
    simp only [quiet, hrun]
    exact serves_run (serves_say disk) (within_say disk Session.books_law 0) source base file _
  have hown : ∀ other text, Signal.executed other text ∈ more → other = id := fun _ _ =>
    hwrites.served.executed hquiet
  have hmark : more.flatMap (Signal.withTraceOf id) = more.flatMap Signal.withTrace := by
    refine List.flatMap_congr fun signal hsignal => Signal.withTraceOf_eq ?_
    rintro other text rfl
    exact hown other text hsignal
  rw [hmark] at htraced
  refine ⟨hmatch.result_eq, hmatch.sessions.holdings, ?_, more, hquiet, htraced, ?_⟩
  · have htold := Session.Told.of_signals (Session.told_run _ disk id source base file) htraced
    have htold' := Session.Told.of_signals (Session.told_run _ disk id source base file) hquiet
    exact htold.front_eq htold' rfl (Signal.filter_notices_withTrace more).symm
  · intro text htext
    obtain ⟨other, htrace, hexecuted⟩ := htraces text htext
    rw [hown other text hexecuted] at htrace
    rw [Session.withTrace, Session.configure,
      Session.interpreter_modifyInterpreter_self hid] at htrace
    cases htrace

/-- A function that clears the debug channel, a script file that is not there, and a variable that
is not there either. -/
theorem run_agrees_with_traced_run_of_clear :
    let disk : Disk := { Disk.blank with read := fun _ => .error .notFound }
    let source := "function f \x7b\n@DEBUG REMOVE\nprint @x\n\x7d\ncall f\n@EXTERNAL RUN a"
    let s : Session :=
      { host := some { surface := .buffer {} }, interpreters := #[{ config := {} }] }
    let quiet := (s.withTrace 0 false).run disk 0 source {} none
    let traced := (s.withTrace 0 true).run disk 0 source {} none
    (0 < s.interpreters.size ∧ s.host.isSome ∧ s.reactions = []) ∧
    quiet.2.holdings = traced.2.holdings ∧
    (∃ signals : List Signal, quiet.2.signals = s.signals ++ signals ∧
      traced.2.signals = s.signals ++ signals.flatMap Signal.withTrace) ∧
    (traced.2.interpreter 0).report.codes = ["E301", "E501"] ∧
    .told (.debug (.trace "print @x")) ∈ traced.2.signals := by
  intro disk source s
  obtain ⟨-, hholdings, -, signals, hquiet, htraced, -⟩ :=
    run_agrees_with_traced_run s disk 0 source {} none (by decide) rfl rfl
  exact ⟨⟨by decide, rfl, rfl⟩, hholdings, ⟨signals, hquiet, htraced⟩, by decide +kernel⟩

end LineScript
