import LineScript.Proofs.Session.Form
import LineScript.Proofs.Session.DepthIndependence
import LineScript.Proofs.Session.Outcome
import LineScript.Proofs.Session.SingleStatement

/-! # Inlining

A call without arguments, from a frame without arguments, comes to the same as the lines of the
function in the place of the call. The body is one level deeper than the call, so what has to be
shown is that nothing but the depth limit tells the two frames apart, also where the body runs
external scripts or replaces the function itself.
-/

namespace LineScript

/-! ## The body in the place of the call -/

namespace Session

def executeLines (s : Session) (disk : Disk) (id : Nat) (frame : Frame) (ls : List Line) :
    Except Fault Unit × Session :=
  s.perform disk fun say =>
    Exec.lines disk say (Exec.levelsFrom (s.interpreter id) frame.depth) id frame ls

/-- What the host is told before a statement of interpreter `id` is executed. -/
def traceNotices (s : Session) (id : Nat) (text : Text) : List Notice :=
  (s.traceSignals id text).filterMap Signal.notice?

theorem notices_traced_act (s : Session) (id : Nat) (frame : Frame) (line : Line)
    (action : Action) :
    ((s.traced id line).act id frame line action).notices =
      s.notices ++ s.traceNotices id line.text := by
  rw [notices_eq_filterMap, signals_traced_act, List.filterMap_append, List.filterMap_append,
    ← notices_eq_filterMap]
  exact congrArg (s.notices ++ ·) (List.append_nil _)

theorem filter_traceNotices (s : Session) (id : Nat) (text : Text) :
    (s.traceNotices id text).filter (!·.isDebug) = [] := by
  unfold traceNotices traceSignals
  split
  · rfl
  · rfl

theorem notices_enter (s : Session) (id : Nat) (frame : Frame) :
    (s.enter id frame).notices = s.notices :=
  congrArg (·.notices) (content_enter s id frame)

theorem holdings_enter (s : Session) (id : Nat) (frame : Frame) :
    (s.enter id frame).holdings = s.holdings :=
  holdings_eq_of_content (content_enter s id frame)

theorem holdings_leave (s : Session) (id : Nat) (depth : Int) :
    (s.leave id depth).holdings = s.holdings :=
  holdings_eq_of_content (content_leave s id depth)

/-- A single line is executed between entering the frame and leaving it. -/
theorem executeLines_singleton (s : Session) (disk : Disk) (id : Nat) (frame : Frame)
    (line : Line) :
    let say := Exec.say disk s.reactions.length
    let levels := 2 * (s.interpreter id).config.depthLimit.toNat + (-frame.depth).toNat
    let out := Exec.executeLine disk say (Exec.lines disk say levels) id frame line
      (s.enter id frame)
    s.executeLines disk id frame [line] = (out.1, out.2.leave id (s.interpreter id).depth) := by
  intro say levels out
  have hlevels : Exec.levelsFrom (s.interpreter id) frame.depth = levels + 1 := by
    unfold Exec.levelsFrom
    omega
  have heach : Exec.each (Exec.executeLine disk say (Exec.lines disk say levels) id frame) [line]
      (s.enter id frame) = out := by
    rw [Exec.each_cons, Exec.bind_apply]
    change _ = Exec.executeLine disk say (Exec.lines disk say levels) id frame line
      (s.enter id frame)
    generalize Exec.executeLine _ _ _ _ _ _ _ = ended
    obtain ⟨result, t⟩ := ended
    cases result with
    | ok done => rfl
    | error fault => rfl
  change Exec.lines disk say (Exec.levelsFrom (s.interpreter id) frame.depth) id frame [line] s = _
  rw [hlevels, ← heach]
  exact Exec.activation_apply disk say _ id frame [line] s

theorem executeLines_of_step {s t : Session} {disk : Disk} {id : Nat} {frame : Frame} {line : Line}
    {result : Except Fault (Option Exec.Opening)}
    (h : Exec.step disk (Exec.say disk s.reactions.length) id frame line (s.enter id frame) =
      (result, t))
    (hplain : ∀ opening, result ≠ .ok (some opening)) :
    s.executeLines disk id frame [line] =
      (result.map fun _ => (), t.leave id (s.interpreter id).depth) := by
  refine (executeLines_singleton s disk id frame line).trans ?_
  simp only [Exec.executeLine, Exec.bind_apply, h]
  cases result with
  | error fault => rfl
  | ok opened =>
      cases opened with
      | none => rfl
      | some opening => exact absurd rfl (hplain opening)

end Session

namespace Exec

open Session

variable {disk : Disk} {id : Nat} {limit : Int} {frame : Frame} {line : Line} {name : Text}
  {routine : Routine} {s : Session}

theorem step_call (disk : Disk) (say : Text → Exec Unit) {arguments : List Text}
    (hroutine : (s.interpreter id).store.functions.get? name = some routine)
    (haction : s.actionOf id frame line = .call name arguments) :
    step disk say id frame line s =
      (.ok (some { interpreter := id, frame := frame.enter name arguments, lines := routine.body }),
        (s.traced id line).act id frame line (.call name arguments)) := by
  have hacted : (((s.traced id line).act id frame line (.call name arguments)).interpreter id) =
      s.interpreter id := by
    unfold Session.interpreter
    rw [interpreters_act fun _ => rfl, interpreters_traced]
  have hknown : (s.interpreter id).store.functions.contains name = true := by
    simp [Table.contains, hroutine]
  rw [step_apply, haction]
  simp only [perform, openCall, bind_apply, interpreter, hacted]
  rw [if_pos hknown]
  simp only [Store.body, hroutine, pure_apply]

end Exec

end LineScript
