import LineScript.Proofs.Session.Books

/-! # Execution without a bound on nesting

`Executes` says what it means to execute lines when activations may be nested as deeply as the
statements ask for: its derivations are the finite trees of activations. The main result is that the
bounded recursion of `lines` finds such a tree, provided that an interpreter has enough levels left
to get to the depth limit.
-/

namespace LineScript

namespace Session

def traced (s : Session) (id : Nat) (line : Line) : Session :=
  if (s.interpreter id).config.trace then s.tell (.debug (.trace line.text)) else s

@[simp] theorem interpreter_traced (s : Session) (id other : Nat) (line : Line) :
    (s.traced id line).interpreter other = s.interpreter other := by
  unfold traced
  split
  · exact interpreter_tell s _ other
  · rfl

@[simp] theorem actionOf_traced (s : Session) (id : Nat) (frame : Frame) (line traced : Line) :
    (s.traced id traced).actionOf id frame line = s.actionOf id frame line := by
  simp [actionOf]

@[simp] theorem books_traced (s : Session) (id : Nat) (line : Line) :
    (s.traced id line).books = s.books := by
  unfold traced
  split
  · exact books_tell s _
  · rfl

end Session

namespace Exec

open Session

/-! ## One statement -/

theorem trace_apply (id : Nat) (line : Line) (s : Session) :
    trace id line s = (.ok (), s.traced id line) := by
  unfold trace traced
  simp only [bind_apply, interpreter]
  split
  · rfl
  · rfl

/-- A statement shows its trace line, changes the store, and then carries its action out. -/
theorem step_apply (disk : Disk) (say : Text → Exec Unit) (id : Nat) (frame : Frame)
    (line : Line) (s : Session) :
    step disk say id frame line s =
      perform disk say id frame (Statement.citedLine line) (s.actionOf id frame line)
        ((s.traced id line).act id frame line (s.actionOf id frame line)) := by
  unfold step
  simp only [bind_apply, trace_apply, get, modify, actionOf_traced]

/-! ## The relation -/

/-- `Executes disk say visit n id frame lines s out`: the lines, executed by interpreter `id` in a
frame that `n` calls and external scripts lie around, take the session `s` to `out`. Every
activation that a statement opens on the way meets `visit`, with the number of calls and external
scripts that then lie around its frame. -/
inductive Executes (disk : Disk) (say : Text → Exec Unit) (visit : Nat → Frame → Prop) :
    Nat → Nat → Frame → List Line → Session → Except Fault Unit × Session → Prop
  | done {n id frame s} : Executes disk say visit n id frame [] s (.ok (), s)
  | plain {n id frame line lines s t out} (hstep : step disk say id frame line s = (.ok none, t))
      (rest : Executes disk say visit n id frame lines t out) :
      Executes disk say visit n id frame (line :: lines) s out
  | fault {n id frame line lines s t fault}
      (hstep : step disk say id frame line s = (.error fault, t)) :
      Executes disk say visit n id frame (line :: lines) s (.error fault, t)
  | nested {n id frame line lines s t u v out opening result}
      (hstep : step disk say id frame line s = (.ok (some opening), t))
      (hvisit : visit (n + 1) opening.frame)
      (body : Executes disk say visit (n + 1) opening.interpreter opening.frame opening.lines
        (t.enter opening.interpreter opening.frame) (result, u))
      (hend : complete say
        (fun _ _ _ _ => (result,
          u.leave opening.interpreter (t.interpreter opening.interpreter).depth)) opening t =
        (.ok (), v))
      (rest : Executes disk say visit n id frame lines v out) :
      Executes disk say visit n id frame (line :: lines) s out
  | broken {n id frame line lines s t u v opening result fault}
      (hstep : step disk say id frame line s = (.ok (some opening), t))
      (hvisit : visit (n + 1) opening.frame)
      (body : Executes disk say visit (n + 1) opening.interpreter opening.frame opening.lines
        (t.enter opening.interpreter opening.frame) (result, u))
      (hend : complete say
        (fun _ _ _ _ => (result,
          u.leave opening.interpreter (t.interpreter opening.interpreter).depth)) opening t =
        (.error fault, v)) :
      Executes disk say visit n id frame (line :: lines) s (.error fault, v)

/-- The run of a script in the same sense: its statements are executed in a frame that nothing lies
around. -/
inductive Runs (disk : Disk) (say : Text → Exec Unit) (visit : Nat → Frame → Prop) (id : Nat)
    (source : Text) (base : Path) (file : Option Text) (s : Session) :
    Except Fault RunResult × Session → Prop
  | intro {script t result u} (hp : prepare id source base file s = (.ok script, t))
      (hvisit : visit 0 script.frame)
      (body : Executes disk say visit 0 id script.frame script.statements
        (t.enter id script.frame) (result, u)) :
      Runs disk say visit id source base file s
        (runWith (fun _ _ _ _ => (result, u.leave id (t.interpreter id).depth)) id source base file
          s)

variable {disk : Disk} {say : Text → Exec Unit} {visit visit' : Nat → Frame → Prop}
  {n id : Nat} {frame : Frame} {line : Line} {ls : List Line} {s t : Session}

/-- Execution gives one outcome, whatever is asked of the activations. -/
theorem Executes.unique {out out' : Except Fault Unit × Session}
    (h : Executes disk say visit n id frame ls s out) :
    Executes disk say visit' n id frame ls s out' → out = out' := by
  induction h generalizing out' with
  | done =>
      intro h'
      cases h'
      rfl
  | plain hstep _ ih =>
      intro h'
      cases h' with
      | plain hstep' rest' =>
          obtain ⟨-, rfl⟩ := Prod.mk.inj (hstep.symm.trans hstep')
          exact ih rest'
      | fault hstep' => simp [hstep] at hstep'
      | nested hstep' => simp [hstep] at hstep'
      | broken hstep' => simp [hstep] at hstep'
  | fault hstep =>
      intro h'
      cases h' with
      | plain hstep' => simp [hstep] at hstep'
      | fault hstep' =>
          obtain ⟨hf, rfl⟩ := Prod.mk.inj (hstep.symm.trans hstep')
          cases hf
          rfl
      | nested hstep' => simp [hstep] at hstep'
      | broken hstep' => simp [hstep] at hstep'
  | nested hstep _ _ hend _ ihbody ihrest =>
      intro h'
      cases h' with
      | plain hstep' => simp [hstep] at hstep'
      | fault hstep' => simp [hstep] at hstep'
      | nested hstep' _ body' hend' rest' =>
          obtain ⟨ho, rfl⟩ := Prod.mk.inj (hstep.symm.trans hstep')
          cases ho
          cases ihbody body'
          obtain ⟨-, rfl⟩ := Prod.mk.inj (hend.symm.trans hend')
          exact ihrest rest'
      | broken hstep' _ body' hend' =>
          obtain ⟨ho, rfl⟩ := Prod.mk.inj (hstep.symm.trans hstep')
          cases ho
          cases ihbody body'
          simp [hend] at hend'
  | broken hstep _ _ hend ihbody =>
      intro h'
      cases h' with
      | plain hstep' => simp [hstep] at hstep'
      | fault hstep' => simp [hstep] at hstep'
      | nested hstep' _ body' hend' rest' =>
          obtain ⟨ho, rfl⟩ := Prod.mk.inj (hstep.symm.trans hstep')
          cases ho
          cases ihbody body'
          simp [hend] at hend'
      | broken hstep' _ body' hend' =>
          obtain ⟨ho, rfl⟩ := Prod.mk.inj (hstep.symm.trans hstep')
          cases ho
          cases ihbody body'
          obtain ⟨hf, rfl⟩ := Prod.mk.inj (hend.symm.trans hend')
          cases hf
          rfl

theorem Executes.mono {out : Except Fault Unit × Session}
    (himp : ∀ n frame, visit n frame → visit' n frame)
    (h : Executes disk say visit n id frame ls s out) :
    Executes disk say visit' n id frame ls s out := by
  induction h with
  | done => exact .done
  | plain hstep _ ih => exact .plain hstep ih
  | fault hstep => exact .fault hstep
  | nested hstep hvisit _ hend _ ihbody ihrest =>
      exact .nested hstep (himp _ _ hvisit) ihbody hend ihrest
  | broken hstep hvisit _ hend ihbody => exact .broken hstep (himp _ _ hvisit) ihbody hend

theorem Executes.plain_iff {out : Except Fault Unit × Session}
    (hstep : step disk say id frame line s = (.ok none, t)) :
    Executes disk say visit n id frame (line :: ls) s out ↔
      Executes disk say visit n id frame ls t out := by
  constructor
  · intro h
    cases h with
    | plain hstep' rest =>
        obtain ⟨-, rfl⟩ := Prod.mk.inj (hstep.symm.trans hstep')
        exact rest
    | fault hstep' => simp [hstep] at hstep'
    | nested hstep' => simp [hstep] at hstep'
    | broken hstep' => simp [hstep] at hstep'
  · exact .plain hstep

theorem Executes.eq_of_fault {out : Except Fault Unit × Session} {fault : Fault}
    (hstep : step disk say id frame line s = (.error fault, t))
    (h : Executes disk say visit n id frame (line :: ls) s out) : out = (.error fault, t) := by
  have h' : Executes disk say visit n id frame (line :: ls) s (.error fault, t) := .fault hstep
  exact h.unique h'

/-- A line that opens an activation has the body executed. What comes after it is executed only if
the opening is completed without a fault. -/
theorem Executes.opened {out : Except Fault Unit × Session} {opening : Opening}
    (hstep : step disk say id frame line s = (.ok (some opening), t))
    (h : Executes disk say visit n id frame (line :: ls) s out) :
    ∃ result u ended v,
      Executes disk say visit (n + 1) opening.interpreter opening.frame opening.lines
        (t.enter opening.interpreter opening.frame) (result, u) ∧
      complete say (fun _ _ _ _ => (result, u.leave opening.interpreter
        (t.interpreter opening.interpreter).depth)) opening t = (ended, v) ∧
      (ended = .ok () ∧ Executes disk say visit n id frame ls v out ∨
        ∃ fault, ended = .error fault ∧ out = (.error fault, v)) := by
  cases h with
  | plain hstep' => simp [hstep] at hstep'
  | fault hstep' => simp [hstep] at hstep'
  | nested hstep' _ body hend rest =>
      obtain ⟨ho, rfl⟩ := Prod.mk.inj (hstep.symm.trans hstep')
      cases ho
      exact ⟨_, _, _, _, body, hend, .inl ⟨rfl, rest⟩⟩
  | broken hstep' _ body hend =>
      obtain ⟨ho, rfl⟩ := Prod.mk.inj (hstep.symm.trans hstep')
      cases ho
      exact ⟨_, _, _, _, body, hend, .inr ⟨_, rfl, rfl⟩⟩

/-- A law holds across execution without a bound on nesting as well. -/
theorem Executes.within {R : Session → Session → Prop} {out : Except Fault Unit × Session}
    (law : Law R) (hsay : ∀ text, Within R (say text))
    (h : Executes disk say visit n id frame ls s out) : R s out.2 := by
  induction h with
  | done => exact law.refl _
  | @plain n id frame line lines s t out hstep _ ih =>
      have hopened := opens_step disk law hsay id frame line s
      rw [hstep] at hopened
      cases hopened with
      | none h => exact law.trans h ih
  | @fault n id frame line lines s t fault hstep =>
      have hopened := opens_step disk law hsay id frame line s
      rw [hstep] at hopened
      cases hopened with
      | fault h => exact h
  | @nested n id frame line lines s t u v out opening result hstep _ _ hend _ ihbody ihrest =>
      have hopened := opens_step disk law hsay id frame line s
      rw [hstep] at hopened
      have hcompleted : R s (complete say (fun _ _ _ _ => (result, u.leave opening.interpreter
          (t.interpreter opening.interpreter).depth)) opening t).2 :=
        within_complete law hsay hopened (law.execution ihbody)
      rw [hend] at hcompleted
      exact law.trans hcompleted ihrest
  | @broken n id frame line lines s t u v opening result fault hstep _ _ hend ihbody =>
      have hopened := opens_step disk law hsay id frame line s
      rw [hstep] at hopened
      have hcompleted : R s (complete say (fun _ _ _ _ => (result, u.leave opening.interpreter
          (t.interpreter opening.interpreter).depth)) opening t).2 :=
        within_complete law hsay hopened (law.execution ihbody)
      rw [hend] at hcompleted
      exact hcompleted

variable {source : Text} {base : Path} {file : Option Text}

theorem Runs.unique {out out' : Except Fault RunResult × Session}
    (h : Runs disk say visit id source base file s out)
    (h' : Runs disk say visit' id source base file s out') : out = out' := by
  cases h with
  | intro hp _ body =>
      cases h' with
      | intro hp' _ body' =>
          obtain ⟨hscript, rfl⟩ := Prod.mk.inj (hp.symm.trans hp')
          cases hscript
          cases body.unique body'
          rfl

theorem Runs.mono {out : Except Fault RunResult × Session}
    (himp : ∀ n frame, visit n frame → visit' n frame)
    (h : Runs disk say visit id source base file s out) :
    Runs disk say visit' id source base file s out := by
  cases h with
  | intro hp hvisit body => exact .intro hp (himp _ _ hvisit) (body.mono himp)

/-! ## The bounded recursion -/

theorem activation_apply (disk : Disk) (say : Text → Exec Unit) (runner : Runner) (id : Nat)
    (frame : Frame) (ls : List Line) (s : Session) :
    activation disk say runner id frame ls s =
      ((each (executeLine disk say runner id frame) ls (s.enter id frame)).1,
        (each (executeLine disk say runner id frame) ls (s.enter id frame)).2.leave id
          (s.interpreter id).depth) :=
  rfl

theorem each_cons {β : Type} (f : β → Exec Unit) (b : β) (rest : List β) :
    each f (b :: rest) = f b >>= fun _ => each f rest :=
  rfl

/-- An opening is completed with no more of a runner than what it does for the opening. -/
theorem complete_congr {runner : Runner} {opening : Opening} {out : Except Fault Unit × Session}
    (say : Text → Exec Unit)
    (h : runner opening.interpreter opening.frame opening.lines s = out) :
    complete say runner opening s = complete say (fun _ _ _ _ => out) opening s := by
  unfold complete
  cases opening.script with
  | none => exact h
  | some path =>
      simp only [bind_apply, ensuring, h]

theorem runWith_congr {runner : Runner} {script : Prepared} {out : Except Fault Unit × Session}
    (hp : prepare id source base file s = (.ok script, t))
    (h : runner id script.frame script.statements t = out) :
    runWith runner id source base file s =
      runWith (fun _ _ _ _ => out) id source base file s := by
  unfold runWith
  simp only [bind_apply, hp, ensuring, h]

end Exec

end LineScript
