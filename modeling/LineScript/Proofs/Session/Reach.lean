import LineScript.Proofs.Memory.Account
import LineScript.Proofs.Session.Content
import LineScript.Proofs.Session.DepthLimit
import LineScript.Proofs.Session.Transcript

/-! # Places that an execution reaches

A place is a statement that is about to be executed: by which interpreter, in which frame and
session, and inside which activations. `Reaches` says which places the execution of lines gets to.
The main result is that an execution breaks off exactly if it reaches a place where the statement
itself does, and that it then leaves the content of the session as that statement left it.
-/

namespace LineScript

/-- A statement that comes next. The activations around its frame are listed from the inside. -/
structure Place where
  around : List Exec.Opening
  interpreter : Nat
  frame : Frame
  line : Line
  session : Session

def Place.action (p : Place) : Action :=
  p.session.actionOf p.interpreter p.frame p.line

theorem Place.action_eq (p : Place) :
    p.action = .of (p.session.interpreter p.interpreter).config p.frame
      (p.session.interpreter p.interpreter).store (.ofLine p.line) :=
  rfl

namespace Exec

open Session

/-- What the statement at a place does, up to the activation that it opens. -/
def stepAt (disk : Disk) (say : Text → Exec Unit) (p : Place) :
    Except Fault (Option Opening) × Session :=
  step disk say p.interpreter p.frame p.line p.session

theorem stepAt_eq (disk : Disk) (say : Text → Exec Unit) (p : Place) :
    stepAt disk say p =
      perform disk say p.interpreter p.frame (Statement.citedLine p.line) p.action
        ((p.session.traced p.interpreter p.line).act p.interpreter p.frame p.line p.action) :=
  step_apply disk say p.interpreter p.frame p.line p.session

/-- `Reaches disk say around id frame lines s p`: the execution of the lines by interpreter `id`, in
a frame that the activations `around` lie around, gets from the session `s` to the place `p`. -/
inductive Reaches (disk : Disk) (say : Text → Exec Unit) :
    List Opening → Nat → Frame → List Line → Session → Place → Prop
  | here {around id frame line lines s} :
      Reaches disk say around id frame (line :: lines) s
        { around, interpreter := id, frame, line, session := s }
  | plain {around id frame line lines s t p}
      (hstep : step disk say id frame line s = (.ok none, t))
      (later : Reaches disk say around id frame lines t p) :
      Reaches disk say around id frame (line :: lines) s p
  | inside {around id frame line lines s t p opening}
      (hstep : step disk say id frame line s = (.ok (some opening), t))
      (body : Reaches disk say (opening :: around) opening.interpreter opening.frame opening.lines
        (t.enter opening.interpreter opening.frame) p) :
      Reaches disk say around id frame (line :: lines) s p
  | past {around id frame line lines s t u v p opening result}
      (hstep : step disk say id frame line s = (.ok (some opening), t))
      (body : Executes disk say (fun _ _ => True) (around.length + 1) opening.interpreter
        opening.frame opening.lines (t.enter opening.interpreter opening.frame) (result, u))
      (hend : complete say
        (fun _ _ _ _ => (result,
          u.leave opening.interpreter (t.interpreter opening.interpreter).depth)) opening t =
        (.ok (), v))
      (later : Reaches disk say around id frame lines v p) :
      Reaches disk say around id frame (line :: lines) s p

/-- The run of a script reaches a place when the execution of its statements does. -/
def RunReaches (disk : Disk) (say : Text → Exec Unit) (id : Nat) (source : Text) (base : Path)
    (file : Option Text) (s : Session) (p : Place) : Prop :=
  ∃ script t, prepare id source base file s = (.ok script, t) ∧
    Reaches disk say [] id script.frame script.statements (t.enter id script.frame) p

variable {disk : Disk} {say : Text → Exec Unit} {visit : Nat → Frame → Prop}
  {around : List Opening} {id : Nat} {limit : Int} {frame : Frame} {ls : List Line} {s t : Session}
  {p : Place}

/-! ## What holds at every place -/

theorem Reaches.stable {P : Session → Prop} (stable : Stable P)
    (hsay : ∀ text, Within (fun s t => P s → P t) (say text))
    (h : Reaches disk say around id frame ls s p) : P s → P p.session := by
  induction h with
  | here => exact fun hs => hs
  | @plain around id frame line lines s t p hstep _ ih =>
      intro hs
      have hopened := opens_step disk stable.law hsay id frame line s
      rw [hstep] at hopened
      cases hopened with
      | none h => exact ih (h hs)
  | @inside around id frame line lines s t p opening hstep _ ih =>
      intro hs
      have hopened := opens_step disk stable.law hsay id frame line s
      rw [hstep] at hopened
      cases hopened with
      | call _ h => exact ih (stable.enter _ _ (h hs))
      | script _ h => exact ih (stable.enter _ _ (stable.beginRun _ (h hs)))
  | past hstep body hend _ ih =>
      intro hs
      have hline := Executes.nested hstep trivial body hend .done
      exact ih (hline.within stable.law hsay hs)

/-- What rests on the books, and goes over from a statement to the activation that it opens, holds
at every place. -/
theorem Reaches.along {I : Session → Frame → Prop} (hsay : ∀ text, Balanced (say text))
    (hcongr : ∀ {s t frame}, t.books = s.books → I s frame → I t frame)
    (hopens : ∀ {s t frame line opening}, I s frame →
      step disk say id frame line s = (.ok (some opening), t) →
      opening.interpreter = id ∧ I (t.enter id opening.frame) opening.frame)
    (h : Reaches disk say around id frame ls s p) (hs : I s frame) :
    p.interpreter = id ∧ I p.session p.frame := by
  induction h with
  | here => exact ⟨rfl, hs⟩
  | @plain around id frame line lines s t p hstep _ ih =>
      have hopened := opens_step disk books_law hsay id frame line s
      rw [hstep] at hopened
      cases hopened with
      | none h => exact ih hopens (hcongr h hs)
  | inside hstep _ ih =>
      obtain ⟨rfl, hentered⟩ := hopens hs hstep
      exact ih hopens hentered
  | past hstep body hend _ ih =>
      have hline := Executes.nested hstep trivial body hend .done
      exact ih hopens (hcongr (hline.within books_law hsay) hs)

/-- At every place the same interpreter is at work, and the host knows it. -/
theorem Reaches.acting (hsay : ∀ text, Balanced (say text))
    (h : Reaches disk say around id frame ls s p) (hs : Acting s id frame limit) :
    p.interpreter = id ∧ Acting p.session id p.frame limit := by
  refine h.along (I := fun s frame => Acting s id frame limit) hsay Acting.congr ?_ hs
  intro s t frame line opening hs hstep
  obtain ⟨-, hi, -, hacting⟩ := opens_of_acting hsay hs hstep
  exact ⟨hi, hacting⟩

/-- At every place of a run the interpreter stands in the frame. -/
theorem Reaches.standing (hsay : ∀ text, Balanced (say text))
    (h : Reaches disk say around id frame ls s p) (hs : Standing s id frame limit) :
    p.interpreter = id ∧ Standing p.session id p.frame limit := by
  refine h.along (I := fun s frame => Standing s id frame limit) hsay Standing.congr ?_ hs
  intro s t frame line opening hs hstep
  obtain ⟨-, hi, -, hstanding⟩ := opens_of_standing hsay hs hstep
  exact ⟨hi, hstanding⟩

variable {source : Text} {base : Path} {file : Option Text}

theorem RunReaches.stable {P : Session → Prop} (stable : Stable P)
    (hsay : ∀ text, Within (fun s t => P s → P t) (say text))
    (h : RunReaches disk say id source base file s p) (hs : P s) : P p.session := by
  obtain ⟨script, t, hp, hreached⟩ := h
  obtain ⟨script', u, hp', hc, -⟩ := prepare_apply id source base file s
  obtain ⟨-, rfl⟩ := Prod.mk.inj (hp'.symm.trans hp)
  have hu : P u := stable.law.changes hc hs
  exact hreached.stable stable hsay (stable.enter _ _ (stable.beginRun _ hu))

theorem RunReaches.standing (hsay : ∀ text, Balanced (say text)) (hid : id < s.interpreters.size)
    (h : RunReaches disk say id source base file s p) :
    p.interpreter = id ∧
      Standing p.session id p.frame (s.interpreter id).config.depthLimit := by
  obtain ⟨script, t, hp, hreached⟩ := h
  exact hreached.standing hsay (standing_of_prepare hid hp)

/-! ## Breaking off -/

/-- The operation never breaks off. -/
def Sure {α : Type} (x : Exec α) : Prop :=
  ∀ s, ∃ a t, x s = (.ok a, t)

theorem Calm.sure {α : Type} {x : Exec α} (h : Calm x) : Sure x := by
  intro s
  obtain ⟨a, t, hx, -⟩ := h s
  exact ⟨a, t, hx⟩

theorem Sure.bind {α β : Type} {x : Exec α} {f : α → Exec β} (hx : Sure x)
    (hf : ∀ a, Sure (f a)) : Sure (x >>= f) := by
  intro s
  obtain ⟨a, t, hxs⟩ := hx s
  obtain ⟨b, u, hft⟩ := hf a t
  exact ⟨b, u, by rw [bind_apply, hxs]; exact hft⟩

/-- The end of an opening breaks off exactly if the execution of its lines did. -/
theorem complete_outcome (hsay : ∀ text, Sure (say text)) {opening : Opening}
    {result ended : Except Fault Unit} {w v : Session}
    (h : complete say (fun _ _ _ _ => (result, w)) opening t = (ended, v)) :
    ended = result ∧ ∀ fault, result = .error fault → v.content = w.content := by
  unfold complete at h
  cases hscript : opening.script with
  | none =>
      simp only [hscript, Prod.mk.injEq] at h
      obtain ⟨rfl, rfl⟩ := h
      exact ⟨rfl, fun _ _ => rfl⟩
  | some path =>
      simp only [hscript, bind_apply, ensuring] at h
      cases result with
      | ok a =>
          obtain ⟨b, u, hu⟩ := hsay ("--- End of " ++ path ++ " ---") (w.endRun opening.interpreter)
          obtain ⟨rfl, rfl⟩ := Prod.mk.inj (h.symm.trans hu)
          exact ⟨rfl, fun _ hfault => by cases hfault⟩
      | error fault =>
          obtain ⟨rfl, rfl⟩ := Prod.mk.inj h
          exact ⟨rfl, fun _ _ => content_endRun w _⟩

/-- An execution that reaches a statement that breaks off does so too, with the content that this
statement leaves. -/
theorem Reaches.fault {fault : Fault} {w : Session} {out : Except Fault Unit × Session}
    (hsay : ∀ text, Sure (say text)) (hp : Reaches disk say around id frame ls s p)
    (hfault : stepAt disk say p = (.error fault, w))
    (h : Executes disk say visit around.length id frame ls s out) :
    out.1 = .error fault ∧ out.2.content = w.content := by
  induction hp generalizing out with
  | here =>
      rw [h.eq_of_fault hfault]
      exact ⟨rfl, rfl⟩
  | plain hstep _ ih => exact ih hfault ((Executes.plain_iff hstep).1 h)
  | inside hstep _ ih =>
      obtain ⟨result, u, ended, v, body, hend, hrest⟩ := h.opened hstep
      obtain ⟨hresult, hcontent⟩ : result = .error fault ∧ u.content = w.content := ih hfault body
      obtain ⟨hended, hleft⟩ := complete_outcome hsay hend
      rcases hrest with ⟨hok, -⟩ | ⟨fault', hbroken, rfl⟩
      · rw [hended, hresult] at hok
        cases hok
      · refine ⟨hbroken.symm.trans (hended.trans hresult), ?_⟩
        rw [hleft fault hresult, content_leave]
        exact hcontent
  | past hstep body hend _ ih =>
      -- the activation that lies behind was completed, so this is how the execution went on
      obtain ⟨result', u', ended, v', body', hend', hrest⟩ := h.opened hstep
      obtain ⟨rfl, rfl⟩ := Prod.mk.inj (body.unique body')
      obtain ⟨rfl, rfl⟩ := Prod.mk.inj (hend.symm.trans hend')
      rcases hrest with ⟨-, rest⟩ | ⟨fault', hbroken, -⟩
      · exact ih hfault rest
      · cases hbroken

/-- An execution that breaks off reached a statement that did. -/
theorem Executes.reaches_fault {n : Nat} {fault : Fault} {out : Except Fault Unit × Session}
    (hsay : ∀ text, Sure (say text)) (h : Executes disk say visit n id frame ls s out)
    (hout : out.1 = .error fault) (hn : around.length = n) :
    ∃ p w, Reaches disk say around id frame ls s p ∧ stepAt disk say p = (.error fault, w) := by
  induction h generalizing around with
  | done => cases hout
  | plain hstep _ ih =>
      obtain ⟨p, w, hp, hfault⟩ := ih hout hn
      exact ⟨p, w, .plain hstep hp, hfault⟩
  | fault hstep =>
      cases hout
      exact ⟨_, _, .here, hstep⟩
  | @nested n id frame line lines s t u v out opening result hstep _ body hend _ _ ihrest =>
      obtain ⟨p, w, hp, hfault⟩ := ihrest hout hn
      subst hn
      exact ⟨p, w, .past hstep (body.mono fun _ _ _ => trivial) hend hp, hfault⟩
  | @broken n id frame line lines s t u v opening result fault hstep _ body hend ihbody =>
      cases hout
      have hresult : result = .error fault := (complete_outcome hsay hend).1.symm
      have hlength : (opening :: around).length = n + 1 := by simp [hn]
      obtain ⟨p, w, hp, hfault⟩ := ihbody hresult hlength
      exact ⟨p, w, .inside hstep hp, hfault⟩

theorem runWith_outcome {script : Prepared} {result : Except Fault Unit} {w : Session}
    (hp : prepare id source base file s = (.ok script, t)) :
    runWith (fun _ _ _ _ => (result, w)) id source base file s =
      (result.map fun _ => script.result ((w.endRun id).interpreter id), w.endRun id) := by
  unfold runWith
  simp only [bind_apply, hp, ensuring]
  cases result <;> rfl

/-- A run breaks off exactly if it reaches a statement that does. -/
theorem Runs.fault_iff {fault : Fault} {out : Except Fault RunResult × Session}
    (hsay : ∀ text, Sure (say text)) (h : Runs disk say visit id source base file s out) :
    out.1 = .error fault ↔ ∃ p w, RunReaches disk say id source base file s p ∧
      stepAt disk say p = (.error fault, w) := by
  cases h with
  | @intro script t result u hp _ body =>
      rw [runWith_outcome hp]
      constructor
      · intro hout
        have hresult : result = .error fault := by
          cases result with
          | ok a => cases hout
          | error f =>
              cases hout
              rfl
        have hlength : ([] : List Opening).length = 0 := rfl
        obtain ⟨p, w, hreached, hfault⟩ := body.reaches_fault hsay hresult hlength
        exact ⟨p, w, ⟨script, t, hp, hreached⟩, hfault⟩
      · rintro ⟨p, w, ⟨script', t', hp', hreached⟩, hfault⟩
        obtain ⟨hscript, rfl⟩ := Prod.mk.inj (hp.symm.trans hp')
        cases hscript
        have hresult : result = .error fault := (hreached.fault hsay hfault body).1
        rw [hresult]
        rfl

/-- A run that reaches a statement that breaks off leaves the content as this statement does. -/
theorem Runs.content_of_fault {fault : Fault} {w : Session} {out : Except Fault RunResult × Session}
    (hsay : ∀ text, Sure (say text)) (h : Runs disk say visit id source base file s out)
    (hreached : RunReaches disk say id source base file s p)
    (hfault : stepAt disk say p = (.error fault, w)) : out.2.content = w.content := by
  obtain ⟨script, t, hp, hreached⟩ := hreached
  cases h with
  | intro hp' _ body =>
      obtain ⟨hscript, rfl⟩ := Prod.mk.inj (hp.symm.trans hp')
      cases hscript
      rw [runWith_outcome hp]
      have hcontent := (hreached.fault hsay hfault body).2
      calc (((_ : Session).leave id _).endRun id).content
          = ((_ : Session).leave id _).content := content_endRun _ _
        _ = (_ : Session).content := content_leave _ _ _
        _ = w.content := hcontent

/-! ## Reached statements are on record -/

theorem Opened.adds {out : Except Fault (Option Opening) × Session}
    (h : Opened (Adds fun _ => True) s out) : Adds (fun _ => True) s out.2 := by
  cases h with
  | fault h => exact h
  | none h => exact h
  | call _ h => exact h
  | script _ h => exact h

theorem adds_complete (hsay : ∀ text, Within (Adds fun _ => True) (say text))
    (result : Except Fault Unit) (opening : Opening) (t w : Session) :
    Adds (fun _ => True) w (complete say (fun _ _ _ _ => (result, w)) opening t).2 := by
  unfold complete
  cases opening.script with
  | none => exact .refl w
  | some path =>
      simp only [bind_apply, ensuring]
      cases result with
      | ok a => exact Adds.trans (.of_transcript_eq rfl) (hsay _ (w.endRun opening.interpreter))
      | error fault => exact .of_transcript_eq rfl

/-- What the body of an opened activation adds to the transcript stays there. -/
theorem Executes.adds_body {line : Line} {opening : Opening} {n : Nat}
    {out : Except Fault Unit × Session}
    (hsay : ∀ text, Within (Adds fun _ => True) (say text))
    (hstep : step disk say id frame line s = (.ok (some opening), t))
    (h : Executes disk say visit n id frame (line :: ls) s out) :
    ∃ result u,
      Executes disk say visit (n + 1) opening.interpreter opening.frame opening.lines
        (t.enter opening.interpreter opening.frame) (result, u) ∧ Adds (fun _ => True) u out.2 := by
  obtain ⟨result, u, ended, v, body, hend, hrest⟩ := h.opened hstep
  have hcompleted := adds_complete hsay result opening t
    (u.leave opening.interpreter (t.interpreter opening.interpreter).depth)
  rw [hend] at hcompleted
  have hleft := (Adds.leave u _ trivial).trans hcompleted
  refine ⟨result, u, body, ?_⟩
  rcases hrest with ⟨-, rest⟩ | ⟨fault, -, rfl⟩
  · exact hleft.trans (rest.within adds_law hsay)
  · exact hleft

theorem Executes.adds_step {line : Line} {n : Nat} {out : Except Fault Unit × Session}
    (hsay : ∀ text, Within (Adds fun _ => True) (say text))
    (h : Executes disk say visit n id frame (line :: ls) s out) :
    Adds (fun _ => True) (step disk say id frame line s).2 out.2 := by
  cases hstep : step disk say id frame line s with
  | mk opened t =>
      cases opened with
      | error fault =>
          rw [h.eq_of_fault hstep]
          exact .refl t
      | ok opened =>
          cases opened with
          | none => exact ((Executes.plain_iff hstep).1 h).within adds_law hsay
          | some opening =>
              obtain ⟨result, u, body, hadds⟩ := h.adds_body hsay hstep
              have hbody := (body.within adds_law hsay).trans hadds
              exact (Adds.enter t trivial).trans hbody

/-- A statement that an execution reaches is on record when the execution ends. -/
theorem Reaches.performed {out : Except Fault Unit × Session}
    (hsay : ∀ text, Within (Adds fun _ => True) (say text))
    (hp : Reaches disk say around id frame ls s p)
    (h : Executes disk say visit around.length id frame ls s out) :
    .performed p.interpreter p.frame p.line p.action ∈ out.2.transcript := by
  induction hp generalizing out with
  | @here around id frame line lines s =>
      refine (h.adds_step hsay).mem ?_
      have hopened := opens_perform disk adds_law hsay id frame (Statement.citedLine line)
        (s.actionOf id frame line)
        ((s.traced id line).act id frame line (s.actionOf id frame line))
      rw [← step_apply] at hopened
      exact hopened.adds.mem Array.mem_push_self
  | plain hstep _ ih => exact ih ((Executes.plain_iff hstep).1 h)
  | inside hstep _ ih =>
      obtain ⟨result, u, body, hadds⟩ := h.adds_body hsay hstep
      exact hadds.mem (ih body)
  | past hstep body hend _ ih =>
      obtain ⟨result', u', ended, v', body', hend', hrest⟩ := h.opened hstep
      obtain ⟨rfl, rfl⟩ := Prod.mk.inj (body.unique body')
      obtain ⟨rfl, rfl⟩ := Prod.mk.inj (hend.symm.trans hend')
      rcases hrest with ⟨-, rest⟩ | ⟨fault', hbroken, -⟩
      · exact ih rest
      · cases hbroken

theorem RunReaches.performed {out : Except Fault RunResult × Session}
    (hsay : ∀ text, Within (Adds fun _ => True) (say text))
    (hreached : RunReaches disk say id source base file s p)
    (h : Runs disk say visit id source base file s out) :
    .performed p.interpreter p.frame p.line p.action ∈ out.2.transcript := by
  obtain ⟨script, t, hp, hreached⟩ := hreached
  cases h with
  | intro hp' _ body =>
      obtain ⟨hscript, rfl⟩ := Prod.mk.inj (hp.symm.trans hp')
      cases hscript
      rw [runWith_outcome hp]
      have hmem := hreached.performed hsay body
      exact (Adds.leave (P := fun _ => True) _ _ trivial).mem hmem

/-- What a statement that a run reaches does is among the actions of the interpreter at the end. -/
theorem RunReaches.mem_actions {out : Except Fault RunResult × Session}
    (hbalanced : ∀ text, Balanced (say text))
    (hsay : ∀ text, Within (Adds fun _ => True) (say text)) (hid : id < s.interpreters.size)
    (hreached : RunReaches disk say id source base file s p)
    (h : Runs disk say visit id source base file s out) : p.action ∈ out.2.actions id := by
  have hinterpreter := (hreached.standing hbalanced hid).1
  refine List.mem_filterMap.2 ⟨_, Array.mem_toList_iff.2 (hreached.performed hsay h), ?_⟩
  exact if_pos hinterpreter

end Exec

def Session.Reaches (s : Session) (disk : Disk) (id : Nat) (source : Text) (base : Path)
    (file : Option Text) (p : Place) : Prop :=
  Exec.RunReaches disk (Exec.say disk s.reactions.length) id source base file s p

end LineScript
