import LineScript.Proofs.Session.WritesFor
import LineScript.Proofs.Session.Reach

/-! # What stays reported

While an interpreter executes lines, reports only grow. A statement that is refused therefore leaves
its diagnostic for good: an execution that reports nothing of some kind has refused no statement for
that reason, at any nesting depth.
-/

namespace LineScript

namespace Session

/-- The diagnostics that interpreter `id` reported from `s` to `t`. -/
def reported (s t : Session) (id : Nat) : List Diagnostic :=
  (t.interpreter id).report.diagnostics.toList.drop (s.interpreter id).report.diagnostics.size

/-- From `s` to `t` the report of interpreter `id` only grew. -/
def ReportGrew (id : Nat) (s t : Session) : Prop :=
  (s.interpreter id).report.diagnostics.toList <+: (t.interpreter id).report.diagnostics.toList

variable {id other : Nat} {s s' t t' : Session}

theorem ReportGrew.of_eq (h : (t.interpreter id).report = (s.interpreter id).report) :
    ReportGrew id s t := by
  simp only [ReportGrew, h, List.prefix_rfl]

theorem ReportGrew.trans {u : Session} (hst : ReportGrew id s t) (htu : ReportGrew id t u) :
    ReportGrew id s u :=
  List.IsPrefix.trans hst htu

theorem report_modifyInterpreter (s : Session) (id other : Nat) {change : Interpreter → Interpreter}
    (h : ∀ i, (change i).report = i.report) :
    ((s.modifyInterpreter id change).interpreter other).report = (s.interpreter other).report := by
  rw [interpreter_modifyInterpreter]
  split
  · exact h _
  · rfl

theorem WriteFor.reportGrew (h : WriteFor id s t) (other : Nat) : ReportGrew other s t := by
  cases h with
  | told _ _ => exact .of_eq (congrArg (·.report) (interpreter_tell s _ other))
  | opened _ _ => exact .of_eq (congrArg (·.report) (interpreter_tell s _ other))
  | logged channel text => exact .of_eq rfl
  | sought path => exact .of_eq rfl
  | reported d =>
      have hadded : ((Exec.report id d s).2.interpreter other) =
          (s.modifyInterpreter id fun i => { i with report := i.report.add d }).interpreter other :=
        interpreter_tell _ _ other
      unfold ReportGrew
      rw [hadded, interpreter_modifyInterpreter]
      split
      · exact ⟨[d], Array.toList_push.symm⟩
      · exact List.prefix_rfl
  | acted frame line action => exact .of_eq (report_modifyInterpreter _ id other fun _ => rfl)
  | functionAdded routine => exact .of_eq (report_modifyInterpreter s id other fun _ => rfl)
  | entered frame => exact .of_eq (report_modifyInterpreter s id other fun _ => rfl)
  | left depth => exact .of_eq (report_modifyInterpreter s id other fun _ => rfl)
  | begun => exact .of_eq (report_modifyInterpreter s id other fun _ => rfl)
  | ended => exact .of_eq (report_modifyInterpreter s id other fun _ => rfl)

theorem WritesFor.reportGrew (h : WritesFor id s t) (other : Nat) : ReportGrew other s t := by
  induction h with
  | refl => exact .of_eq rfl
  | tail _ hwrite ih => exact ih.trans (hwrite.reportGrew other)

end Session

/-! ## WritesFor along an execution -/

namespace Exec

open Session

variable {disk : Disk} {say : Text → Exec Unit} {visit : Nat → Frame → Prop} {n id : Nat}
  {limit : Int} {around : List Opening} {frame : Frame} {ls : List Line} {s t : Session} {p : Place}
  {out : Except Fault Unit × Session}

/-- The end of an activation that its interpreter executed comes to writes for this interpreter. -/
theorem writesFor_completed {opening : Opening} {result ended : Except Fault Unit} {u v : Session}
    (hsay : ∀ text, Within (WritesFor id) (say text)) (hi : opening.interpreter = id)
    (hend : complete say (fun _ _ _ _ => (result,
      u.leave opening.interpreter (t.interpreter opening.interpreter).depth)) opening t =
        (ended, v)) : WritesFor id u v := by
  subst hi
  have hleft : WritesFor opening.interpreter u
      (u.leave opening.interpreter (t.interpreter opening.interpreter).depth) := .single (.left _)
  unfold complete at hend
  cases hscript : opening.script with
  | none =>
      simp only [hscript, Prod.mk.injEq] at hend
      exact hend.2 ▸ hleft
  | some path =>
      simp only [hscript, bind_apply, ensuring] at hend
      have hended := hleft.tail .ended
      cases result with
      | ok _ =>
          have hsaid := hsay ("--- End of " ++ path ++ " ---") ((u.leave opening.interpreter
            (t.interpreter opening.interpreter).depth).endRun opening.interpreter)
          rw [show say _ _ = _ from hend] at hsaid
          exact hended.trans hsaid
      | error fault => exact (Prod.mk.inj hend).2 ▸ hended

theorem writesFor_of_step {line : Line} {opened : Except Fault (Option Opening)}
    (hsay : ∀ text, Within (WritesFor id) (say text)) (hturn : s.Turn id)
    (hstep : step disk say id frame line s = (opened, t)) : WritesFor id s t := by
  have hwrites : WritesFor id s (step disk say id frame line s).2 :=
    writesFor_step hsay hturn frame line
  rw [hstep] at hwrites
  exact hwrites

/-- It is still the turn of an interpreter after a statement of it that opens nothing. -/
theorem turn_of_plain {line : Line} (hbalanced : ∀ text, Balanced (say text)) (hturn : s.Turn id)
    (hstep : step disk say id frame line s = (.ok none, t)) : t.Turn id := by
  have hopened := opens_step disk books_law hbalanced id frame line s
  rw [hstep] at hopened
  cases hopened with
  | none hbooks => exact hturn.congr hbooks

variable (hbalanced : ∀ text, Balanced (say text)) (hsay : ∀ text, Within (WritesFor id) (say text))

include hbalanced hsay

/-- Executing lines comes to writes for the interpreter that executes them. -/
theorem Executes.writes (h : Executes disk say visit n id frame ls s out) (hturn : s.Turn id) :
    WritesFor id s out.2 := by
  induction h with
  | done => exact .refl
  | plain hstep _ ih =>
      exact (writesFor_of_step hsay hturn hstep).trans
        (ih hsay (turn_of_plain hbalanced hturn hstep))
  | fault hstep => exact writesFor_of_step hsay hturn hstep
  | @nested n id frame line ls s t u v out opening result hstep hvisit body hend _ ihbody ihrest =>
      have hstepped := writesFor_of_step hsay hturn hstep
      have hi := interpreter_of_turn hbalanced hturn hstep
      have hbooks := (Executes.nested hstep hvisit body hend .done).within books_law hbalanced
      have hcompleted := writesFor_completed hsay hi hend
      subst hi
      have hbody := ihbody hsay (turn_enter t _ _)
      exact ((hstepped.tail (.entered _)).trans (hbody.trans hcompleted)).trans
        (ihrest hsay (hturn.congr hbooks))
  | @broken n id frame line lines s t u v opening result fault hstep _ body hend ihbody =>
      have hstepped := writesFor_of_step hsay hturn hstep
      have hi := interpreter_of_turn hbalanced hturn hstep
      have hcompleted := writesFor_completed hsay hi hend
      subst hi
      have hbody := ihbody hsay (turn_enter t _ _)
      exact (hstepped.tail (.entered _)).trans (hbody.trans hcompleted)

theorem Executes.writesFor_after_body {line : Line} {opening : Opening}
    (hstep : step disk say id frame line s = (.ok (some opening), t))
    (h : Executes disk say visit n id frame (line :: ls) s out) (hturn : s.Turn id) :
    ∃ result u,
      Executes disk say visit (n + 1) opening.interpreter opening.frame opening.lines
        (t.enter opening.interpreter opening.frame) (result, u) ∧ WritesFor id u out.2 := by
  obtain ⟨result, u, ended, v, body, hend, hrest⟩ := h.opened hstep
  have hcompleted := writesFor_completed hsay (interpreter_of_turn hbalanced hturn hstep) hend
  refine ⟨result, u, body, hcompleted.trans ?_⟩
  rcases hrest with ⟨rfl, rest⟩ | ⟨fault, -, rfl⟩
  · have hbooks := (Executes.nested hstep trivial (body.mono fun _ _ _ => trivial) hend
      .done).within
      books_law hbalanced
    exact rest.writes hbalanced hsay (hturn.congr hbooks)
  · exact .refl

theorem Executes.writesFor_after_step {line : Line}
    (h : Executes disk say visit n id frame (line :: ls) s out) (hturn : s.Turn id) :
    WritesFor id (step disk say id frame line s).2 out.2 := by
  cases hstep : step disk say id frame line s with
  | mk opened t =>
      cases opened with
      | error fault => rw [h.eq_of_fault hstep]
      | ok opened =>
          cases opened with
          | none =>
              exact ((Executes.plain_iff hstep).1 h).writes hbalanced hsay
                (turn_of_plain hbalanced hturn hstep)
          | some opening =>
              obtain ⟨result, u, body, hafter⟩ := h.writesFor_after_body hbalanced hsay hstep hturn
              obtain rfl := interpreter_of_turn hbalanced hturn hstep
              have hbody := body.writes hbalanced hsay (turn_enter t _ _)
              exact .head (.entered _) (hbody.trans hafter)

/-- Up to a place that an execution reaches, and after the statement there, all comes to writes for
the interpreter. -/
theorem Reaches.writes (hp : Reaches disk say around id frame ls s p) (hturn : s.Turn id)
    (h : Executes disk say visit around.length id frame ls s out) :
    WritesFor id s p.session ∧ WritesFor id (stepAt disk say p).2 out.2 := by
  induction hp generalizing out with
  | here => exact ⟨.refl, h.writesFor_after_step hbalanced hsay hturn⟩
  | @plain around id frame line lines s t p hstep _ ih =>
      obtain ⟨hbefore, hafter⟩ :=
        ih hsay (turn_of_plain hbalanced hturn hstep) ((Executes.plain_iff hstep).1 h)
      exact ⟨(writesFor_of_step hsay hturn hstep).trans hbefore, hafter⟩
  | @inside around id frame line lines s t p opening hstep _ ih =>
      have hstepped := writesFor_of_step hsay hturn hstep
      obtain ⟨result, u, body, hrest⟩ := h.writesFor_after_body hbalanced hsay hstep hturn
      obtain rfl := interpreter_of_turn hbalanced hturn hstep
      obtain ⟨hbefore, hafter⟩ := ih hsay (turn_enter t _ _) body
      exact ⟨(hstepped.tail (.entered _)).trans hbefore, hafter.trans hrest⟩
  | @past around id frame line lines s t u v p opening result hstep body hend _ ih =>
      obtain ⟨result', u', ended, v', body', hend', hrest⟩ := h.opened hstep
      obtain ⟨rfl, rfl⟩ := Prod.mk.inj (body.unique body')
      obtain ⟨rfl, rfl⟩ := Prod.mk.inj (hend.symm.trans hend')
      have hline := Executes.nested hstep trivial body hend .done
      have hbooks := hline.within books_law hbalanced
      rcases hrest with ⟨-, rest⟩ | ⟨fault', hbroken, -⟩
      · obtain ⟨hbefore, hafter⟩ := ih hsay (hturn.congr hbooks) rest
        exact ⟨(hline.writes hbalanced hsay hturn).trans hbefore, hafter⟩
      · cases hbroken

end Exec

end LineScript
