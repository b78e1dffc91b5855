import LineScript.Proofs.Session.Reach
import LineScript.Proofs.Session.Signal
import Mathlib.Data.List.Forall2

/-! # Executions side by side

The same statements may be executed in two sessions that are not equal, and in frames that differ in
depth. A `Coupling` is a relation between sessions that statements keep as long as they do the same
thing on both sides. The main result is that two executions in lockstep end in the same way and in
sessions that are still related. What keeps them in lockstep is left to each use: it has to say how
the frames on both sides belong together, and why the statements do the same thing there.
-/

namespace LineScript

/-- The same frame, maybe at another depth. -/
def Frame.Alike (f g : Frame) : Prop :=
  g = { f with depth := g.depth }

theorem Frame.alike_enter {f g : Frame} (h : g.base = f.base) (name : Text)
    (arguments : List Text) : (f.enter name arguments).Alike (g.enter name arguments) := by
  unfold Alike enter
  rw [h]

/-- Lines to execute that are akin, in frames that may differ in depth. -/
structure Exec.Opening.Alike (kin : Line → Line → Prop) (o o' : Exec.Opening) : Prop where
  interpreter : o'.interpreter = o.interpreter
  frame : o.frame.Alike o'.frame
  lines : List.Forall₂ kin o.lines o'.lines
  script : o'.script = o.script

namespace Session

/-- A relation between sessions in which a statement does the same thing, the depth limit apart, and
that goes on to hold when the same is done to both. Statements and functions may come from lines
that are only akin, trace lines may show on one side only, and the depth at which executions and
runs begin and end makes no difference. -/
structure Coupling (R : Session → Session → Prop) (kin : Line → Line → Prop) : Prop where
  kin_refl : ∀ line, kin line line
  kin_cited : ∀ {line line'}, kin line line' →
    kin (Statement.citedLine line) (Statement.citedLine line')
  host : ∀ {s t}, R s t → t.host.isSome = s.host.isSome
  known : ∀ {s t}, R s t → ∀ id name,
    (t.interpreter id).store.functions.contains name =
      (s.interpreter id).store.functions.contains name
  body : ∀ {s t}, R s t → ∀ id name,
    List.Forall₂ kin ((s.interpreter id).store.body name) ((t.interpreter id).store.body name)
  action : ∀ {s t line line'}, R s t → kin line line' → ∀ id frame,
    (t.interpreter id).config.depthLimit = (s.interpreter id).config.depthLimit →
    t.actionOf id frame line' = s.actionOf id frame line
  codec : ∀ {s t}, R s t → ∀ id,
    (t.interpreter id).config.codec = (s.interpreter id).config.codec
  title : ∀ {s t}, R s t → ∀ id,
    (t.interpreter id).config.defaultWindowTitle = (s.interpreter id).config.defaultWindowTitle
  told : ∀ {s t} notice, notice.isTrace = false → R s t → R (s.tell notice) (t.tell notice)
  logged : ∀ {s t} channel channel' text text', R s t →
    R (s.record (.logged channel text)) (t.record (.logged channel' text'))
  sought : ∀ {s t} path, R s t → R (s.record (.sought path)) (t.record (.sought path))
  performed : ∀ {s t line line'} id f g (action : Action), kin line line' → R s t →
    R ((s.traced id line).act id f line action) ((t.traced id line').act id g line' action)
  added : ∀ {s t} id (routine : Routine), R s t →
    R (s.modifyInterpreter id fun i => { i with store := i.store.addFunction routine })
      (t.modifyInterpreter id fun i => { i with store := i.store.addFunction routine })
  reported : ∀ {s t} id d, R s t → R (Exec.report id d s).2 (Exec.report id d t).2
  refused : ∀ {s t line line'} id (problem : Problem), kin line line' → R s t →
    R (Exec.report id (problem.on line) s).2 (Exec.report id (problem.on line') t).2
  entered : ∀ {s t} id frame frame', R s t → R (s.enter id frame) (t.enter id frame')
  left : ∀ {s t} id depth depth', R s t → R (s.leave id depth) (t.leave id depth')
  begun : ∀ {s t} id, R s t → R (s.beginRun id) (t.beginRun id)
  ended : ∀ {s t} id, R s t → R (s.endRun id) (t.endRun id)

end Session

namespace Exec

open Session

variable {α β γ δ : Type} {R : Session → Session → Prop} {kin : Line → Line → Prop}

/-- Both outcomes are results that belong together, or the same fault. -/
inductive Match (R : Session → Session → Prop) (q : α → β → Prop) :
    Except Fault α × Session → Except Fault β × Session → Prop
  | ok {a : α} {b : β} {s t : Session} (h : q a b) (hR : R s t) :
      Match R q (.ok a, s) (.ok b, t)
  | error {fault : Fault} {s t : Session} (hR : R s t) :
      Match R q (.error fault, s) (.error fault, t)

def Matches (R : Session → Session → Prop) (q : α → β → Prop) (x : Exec α) (y : Exec β) : Prop :=
  ∀ s t, R s t → Match R q (x s) (y t)

theorem Match.of_ok {q : α → β → Prop} {a : α} {s : Session} {out' : Except Fault β × Session}
    (h : Match R q (.ok a, s) out') : ∃ b t, out' = (.ok b, t) ∧ q a b ∧ R s t := by
  cases h with
  | ok h hR => exact ⟨_, _, rfl, h, hR⟩

theorem Match.of_error {q : α → β → Prop} {fault : Fault} {s : Session}
    {out' : Except Fault β × Session} (h : Match R q (.error fault, s) out') :
    ∃ t, out' = (.error fault, t) ∧ R s t := by
  cases h with
  | error hR => exact ⟨_, rfl, hR⟩

theorem Match.mono {R' : Session → Session → Prop} {q : α → β → Prop}
    {out : Except Fault α × Session} {out' : Except Fault β × Session} (h : Match R q out out')
    (himp : ∀ s t, R s t → R' s t) : Match R' q out out' := by
  cases h with
  | ok h hR => exact .ok h (himp _ _ hR)
  | error hR => exact .error (himp _ _ hR)

theorem Match.sessions {q : α → β → Prop} {out : Except Fault α × Session}
    {out' : Except Fault β × Session} (h : Match R q out out') : R out.2 out'.2 := by
  cases h with
  | ok _ hR => exact hR
  | error hR => exact hR

theorem Match.result_eq {out out' : Except Fault α × Session} (h : Match R Eq out out') :
    out'.1 = out.1 := by
  cases h with
  | ok h _ => rw [h]
  | error _ => rfl

theorem Match.ends {q : α → β → Prop} {out : Except Fault α × Session}
    {out' : Except Fault β × Session} (h : Match R q out out') :
    out'.1.map (fun _ => ()) = out.1.map fun _ => () := by
  cases h with
  | ok _ _ => rfl
  | error _ => rfl

theorem matches_pure {q : α → β → Prop} {a : α} {b : β} (h : q a b) :
    Matches R q (pure a) (pure b) :=
  fun _ _ hR => .ok h hR

theorem Match.bind {q : α → β → Prop} {r : γ → δ → Prop} {x : Exec α} {y : Exec β}
    {f : α → Exec γ} {g : β → Exec δ} {s t : Session} (h : Match R q (x s) (y t))
    (hf : ∀ a b s' t', x s = (.ok a, s') → y t = (.ok b, t') → q a b → R s' t' →
      Match R r (f a s') (g b t')) :
    Match R r ((x >>= f) s) ((y >>= g) t) := by
  rw [bind_apply, bind_apply]
  cases hx : x s with
  | mk result s' =>
      cases hy : y t with
      | mk result' t' =>
          rw [hx, hy] at h
          cases h with
          | ok hab hR => exact hf _ _ _ _ hx hy hab hR
          | error hR => exact .error hR

theorem Matches.bind {q : α → β → Prop} {r : γ → δ → Prop} {x : Exec α} {y : Exec β}
    {f : α → Exec γ} {g : β → Exec δ} (hx : Matches R q x y)
    (hf : ∀ a b, q a b → Matches R r (f a) (g b)) : Matches R r (x >>= f) (y >>= g) :=
  fun s t hR => (hx s t hR).bind fun a b s' t' _ _ hab hR' => hf a b hab s' t' hR'

theorem Matches.andThen {r : γ → δ → Prop} {x y : Exec Unit} {f : Exec γ} {g : Exec δ}
    (hx : Matches R Eq x y) (hf : Matches R r f g) :
    Matches R r (do x; f) (do y; g) :=
  hx.bind fun _ _ _ => hf

theorem matches_writing {x y : Exec Unit} (n : Int) (h : Matches R Eq x y) :
    Matches R Eq (writing n x) (writing n y) := by
  unfold writing
  split
  · exact h
  · exact fun _ _ hR => .error hR

/-! ## Single operations -/

section Operations

variable (coupling : Coupling R kin)

include coupling

theorem matches_tell (notice : Notice) (hnotice : notice.isTrace = false := by rfl) :
    Matches R Eq (tell notice) (tell notice) :=
  fun _ _ hR => .ok rfl (coupling.told notice hnotice hR)

theorem matches_say (disk : Disk) (text : Text) :
    Matches R Eq (Exec.say disk 0 text) (Exec.say disk 0 text) :=
  matches_tell coupling (.output text)

theorem matches_log (channel channel' : Channel) (text text' : Text) :
    Matches R Eq (log channel text) (log channel' text') :=
  fun _ _ hR => .ok rfl (coupling.logged _ _ _ _ hR)

theorem matches_report (id : Nat) (d : Diagnostic) :
    Matches R Eq (report id d) (report id d) :=
  fun _ _ hR => .ok rfl (coupling.reported id d hR)

theorem matches_interpreter (id : Nat) :
    Matches R (fun i j =>
      (∀ name, j.store.functions.contains name = i.store.functions.contains name) ∧
      (∀ name, List.Forall₂ kin (i.store.body name) (j.store.body name)) ∧
      j.config.defaultWindowTitle = i.config.defaultWindowTitle) (interpreter id)
      (interpreter id) :=
  fun _ _ hR => .ok ⟨coupling.known hR id, coupling.body hR id, coupling.title hR id⟩ hR

theorem matches_addFunction (id : Nat) (routine : Routine) :
    Matches R Eq (addFunction id routine) (addFunction id routine) := by
  have hstore : Matches R Eq (modifyStore id (·.addFunction routine))
      (modifyStore id (·.addFunction routine)) :=
    fun _ _ hR => .ok rfl (coupling.added id routine hR)
  refine (matches_interpreter coupling id).bind fun i j hij => ?_
  rw [hij.1]
  dsimp only
  split
  · exact (matches_log coupling _ _ _ _).andThen hstore
  · exact hstore

theorem matches_openWindow (id : Nat) (base : Path) (body : List Text) :
    Matches R Eq (openWindow id base body) (openWindow id base body) := by
  refine (matches_interpreter coupling id).bind fun i j hij => ?_
  rw [hij.2.2]
  exact (matches_log coupling _ _ _ _).andThen
    ((matches_tell coupling _).andThen (matches_pure rfl))

theorem matches_takeSegment (id : Nat) (base : Path) (segment : Segment) :
    Matches R Eq (takeSegment id base segment) (takeSegment id base segment) := by
  cases segment with
  | statement line => exact matches_pure rfl
  | function header name body closing =>
      exact (matches_addFunction coupling id _).andThen (matches_pure rfl)
  | window header body closing =>
      exact (matches_openWindow coupling id base _).bind fun _ _ h => matches_pure (congrArg some h)
  | inlineWindow header body =>
      exact (matches_openWindow coupling id base _).bind fun _ _ h => matches_pure (congrArg some h)
  | rejected header problem =>
      exact (matches_report coupling id _).andThen (matches_pure rfl)

theorem matches_takeSegments (id : Nat) (base : Path) (segments : List Segment) :
    Matches R Eq (takeSegments id base segments) (takeSegments id base segments) := by
  induction segments with
  | nil => exact matches_pure rfl
  | cons segment segments ih =>
      refine (matches_takeSegment coupling id base segment).bind ?_
      rintro opened _ rfl
      refine ih.bind ?_
      rintro windows _ rfl
      exact matches_pure rfl

/-- Preparing the same script on both sides gives the same statements, functions and windows, in
frames that may differ in depth. -/
theorem matches_prepare (id : Nat) (source : Text) (base : Path) (file : Option Text) :
    Matches R (fun script script' => script.frame.Alike script'.frame ∧
      script'.statements = script.statements ∧ script'.functions = script.functions ∧
      script'.windows = script.windows) (prepare id source base file)
      (prepare id source base file) := by
  refine (matches_interpreter coupling id).bind fun i j _ => ?_
  refine (matches_takeSegments coupling id base _).bind fun windows windows' hwindows => ?_
  refine (matches_log coupling _ _ _ _).andThen ?_
  refine (matches_tell coupling _).andThen ?_
  have hbegin : Matches R Eq (modify (·.beginRun id)) (modify (·.beginRun id)) :=
    fun _ _ hR => .ok rfl (coupling.begun id hR)
  exact hbegin.andThen (matches_pure ⟨rfl, rfl, rfl, hwindows.symm⟩)

variable {say say' : Text → Exec Unit}

theorem matches_announce (hsay : ∀ text, Matches R Eq (say text) (say' text)) (id : Nat)
    {line line' : Line} (hkin : kin line line') (action : Action) :
    Matches R Eq (announce say id line action) (announce say' id line' action) := by
  have hrefused : ∀ problem : Problem,
      Matches R Eq (report id (problem.on line)) (report id (problem.on line')) :=
    fun problem _ _ hR => .ok rfl (coupling.refused id problem hkin hR)
  cases action with
  | print text => exact hsay text
  | clearOutput => exact matches_tell coupling _
  | clearDebug => exact matches_tell coupling _
  | update text => exact matches_tell coupling _
  | define definition name value size => exact matches_tell coupling _
  | setBudget ceiling => exact matches_tell coupling _
  | free name size => exact matches_writing size (matches_tell coupling _)
  | refuse problem => exact hrefused problem
  | overBudget name size budget =>
      exact (matches_log coupling _ _ _ _).andThen (matches_writing size (hrefused _))
  | fail fault => exact fun _ _ hR => .error hR
  | skip => exact matches_pure rfl
  | call name arguments => exact matches_pure rfl
  | external path => exact matches_pure rfl

/-! ## One statement -/

variable {disk : Disk} {s t : Session} {id : Nat} {f g : Frame}

theorem match_openCall (hR : R s t) (hbase : g.base = f.base) (name : Text)
    (arguments : List Text) :
    Match R (Opening.Alike kin) (openCall id name arguments f s)
      (openCall id name arguments g t) := by
  refine Matches.bind (matches_interpreter coupling id) ?_ s t hR
  rintro i j ⟨hknown, hbody, -⟩
  rw [hknown]
  have hopening : Opening.Alike kin
      { interpreter := id, frame := f.enter name arguments, lines := i.store.body name }
      { interpreter := id, frame := g.enter name arguments, lines := j.store.body name } :=
    ⟨rfl, Frame.alike_enter hbase name arguments, hbody name, rfl⟩
  dsimp only
  split
  · exact matches_pure hopening
  · exact (matches_log coupling _ _ _ _).andThen (matches_pure hopening)

/-- The host runs an external script for the interpreter that it takes to be executing, so it has to
be the same one on both sides. -/
theorem match_openScript (hsay : ∀ text, Matches R Eq (say text) (say' text)) (hR : R s t)
    (hactive : t.activeInterpreter = s.activeInterpreter) (path : Text) (base : Path) :
    Match R (Option.Rel (Opening.Alike kin)) (openScript disk say path base s)
      (openScript disk say' path base t) := by
  unfold openScript
  simp only [bind_apply, get]
  rw [coupling.host hR, hactive, coupling.codec hR]
  split
  · have hsought : Matches R Eq (record (.sought (base.join (.ofText path))))
        (record (.sought (base.join (.ofText path)))) :=
      fun _ _ hR => .ok rfl (coupling.sought _ hR)
    refine hsought.andThen ?_ s t hR
    cases disk.readScript (s.interpreter s.activeInterpreter).config.codec
        (base.join (.ofText path)) with
    | error fault => exact fun _ _ hR => .error hR
    | ok text =>
        cases text with
        | error reason =>
            exact (matches_log coupling _ _ _ _).andThen ((hsay _).andThen
              ((hsay _).andThen ((matches_report coupling _ _).andThen (matches_pure .none))))
        | ok source =>
            refine (hsay _).andThen ?_
            refine (matches_prepare coupling _ _ _ _).bind ?_
            rintro script script' ⟨hframe, hstatements, -⟩
            have hlines : List.Forall₂ kin script.statements script'.statements := by
              rw [hstatements]
              exact List.forall₂_same.2 fun line _ => coupling.kin_refl line
            exact matches_pure (.some ⟨rfl, hframe, hlines, rfl⟩)
  · exact .ok .none hR

theorem match_perform (hsay : ∀ text, Matches R Eq (say text) (say' text)) (hR : R s t)
    (hactive : t.activeInterpreter = s.activeInterpreter) (hbase : g.base = f.base)
    {line line' : Line} (hkin : kin line line') (action : Action) :
    Match R (Option.Rel (Opening.Alike kin)) (perform disk say id f line action s)
      (perform disk say' id g line' action t) := by
  have halone : ∀ action, Matches R (Option.Rel (Opening.Alike kin))
      (do announce say id line action; pure none)
      (do announce say' id line' action; pure none) := fun action =>
    (matches_announce coupling hsay id hkin action).andThen (matches_pure .none)
  cases action with
  | call name arguments =>
      refine (match_openCall coupling hR hbase name arguments).bind ?_
      intro o o' s' t' _ _ ho hR'
      exact .ok (.some ho) hR'
  | external path =>
      simp only [perform, hbase]
      exact match_openScript coupling hsay hR hactive path f.base
  | _ =>
      simp only [perform]
      exact halone _ s t hR

/-- A statement that does the same thing on both sides opens the same activation, if any. -/
theorem match_step (hsay : ∀ text, Matches R Eq (say text) (say' text)) (hR : R s t)
    (hactive : t.activeInterpreter = s.activeInterpreter) (hbase : g.base = f.base)
    {line line' : Line} (hkin : kin line line')
    (haction : t.actionOf id g line' = s.actionOf id f line) :
    Match R (Option.Rel (Opening.Alike kin)) (step disk say id f line s)
      (step disk say' id g line' t) := by
  rw [step_apply, step_apply, haction]
  have hacted : R ((s.traced id line).act id f line (s.actionOf id f line))
      ((t.traced id line').act id g line' (s.actionOf id f line)) :=
    coupling.performed id f g _ hkin hR
  refine match_perform coupling hsay hacted ?_ hbase (coupling.kin_cited hkin) _
  -- tracing and acting do not touch the stack that the host reads the active interpreter from
  have hbooks : ∀ (u : Session) (frame : Frame) (line : Line) (action : Action),
      ((u.traced id line).act id frame line action).activeInterpreter = u.activeInterpreter := by
    intro u frame line action
    apply activeInterpreter_congr
    rw [books_act, books_traced]
  rw [hbooks, hbooks, hactive]

theorem match_left {out out' : Except Fault Unit × Session} (h : Match R Eq out out') (id : Nat)
    (depth depth' : Int) :
    Match R Eq (out.1, out.2.leave id depth) (out'.1, out'.2.leave id depth') := by
  cases h with
  | ok h hR => exact .ok h (coupling.left _ _ _ hR)
  | error hR => exact .error (coupling.left _ _ _ hR)

theorem match_complete (hsay : ∀ text, Matches R Eq (say text) (say' text)) {o o' : Opening}
    (ho : o.Alike kin o') {out out' : Except Fault Unit × Session} (h : Match R Eq out out') :
    Match R Eq (complete say (fun _ _ _ _ => out) o s)
      (complete say' (fun _ _ _ _ => out') o' t) := by
  unfold complete
  rw [ho.script, ho.interpreter]
  cases o.script with
  | none => exact h
  | some path =>
      simp only [bind_apply, ensuring]
      cases h with
      | ok _ hR => exact hsay _ _ _ (coupling.ended _ hR)
      | error hR => exact .error (coupling.ended _ hR)

end Operations

/-! ## Lockstep -/

/-- What keeps two executions in lockstep. `J around id f s g t` says that interpreter `id` is in
the frame `f` of the session `s` on one side, inside the activations `around`, and in the frame `g`
of the session `t` on the other. At places that `fit`, the statements do the same thing. -/
structure Lockstep (disk : Disk) (say say' : Text → Exec Unit) (R : Session → Session → Prop)
    (kin : Line → Line → Prop) (fit : Place → Prop)
    (J : List Opening → Nat → Frame → Session → Frame → Session → Prop) : Prop where
  base : ∀ {around id f s g t}, J around id f s g t → g.base = f.base
  active : ∀ {around id f s g t}, J around id f s g t → R s t →
    t.activeInterpreter = s.activeInterpreter
  action : ∀ {around id f s g t line line'}, J around id f s g t → R s t → kin line line' →
    fit { around, interpreter := id, frame := f, line, session := s } →
    t.actionOf id g line' = s.actionOf id f line
  congr : ∀ {around id f s s' g t t'}, s'.books = s.books → t'.books = t.books →
    J around id f s g t → J around id f s' g t'
  opened : ∀ {around id f s s' g t t' line line'} {o o' : Opening}, J around id f s g t →
    step disk say id f line s = (.ok (some o), s') →
    step disk say' id g line' t = (.ok (some o'), t') → o.Alike kin o' →
    J (o :: around) o.interpreter o.frame (s'.enter o.interpreter o.frame) o'.frame
      (t'.enter o.interpreter o'.frame)

variable {disk : Disk} {say say' : Text → Exec Unit} {fit : Place → Prop}
  {J : List Opening → Nat → Frame → Session → Frame → Session → Prop}

section Sides

variable {visit visit' : Nat → Frame → Prop} {around : List Opening} {n n' id : Nat} {f g : Frame}
  {ls ls' : List Line} {s t : Session} {out out' : Except Fault Unit × Session}
  (coupling : Coupling R kin) (hsay : ∀ text, Matches R Eq (say text) (say' text))
  (lock : Lockstep disk say say' R kin fit J)

include coupling hsay lock

theorem Lockstep.match_step {line line' : Line} (hJ : J around id f s g t) (hR : R s t)
    (hline : kin line line')
    (hfit : fit { around, interpreter := id, frame := f, line, session := s }) :
    Match R (Option.Rel (Opening.Alike kin)) (step disk say id f line s)
      (step disk say' id g line' t) :=
  Exec.match_step coupling hsay hR (lock.active hJ hR) (lock.base hJ) hline
    (lock.action hJ hR hline hfit)

/-- When one side opens an activation, so does the other. If the body is executed in the same way on
both sides, the opening is completed in the same way, and the other side goes on or breaks off as
the first does. -/
theorem Lockstep.match_opened (hbalanced' : ∀ text, Balanced (say' text)) {line line' : Line}
    {o : Opening} {s' u v : Session} {result ended : Except Fault Unit}
    (hJ : J around id f s g t) (hR : R s t) (hline : kin line line')
    (hfit : fit { around, interpreter := id, frame := f, line, session := s })
    (hstep : step disk say id f line s = (.ok (some o), s'))
    (hend : complete say (fun _ _ _ _ => (result,
      u.leave o.interpreter (s'.interpreter o.interpreter).depth)) o s' = (ended, v))
    (h' : Executes disk say' visit' n' id g (line' :: ls') t out')
    (hbody : ∀ {g' t' ls' out'},
      J (o :: around) o.interpreter o.frame (s'.enter o.interpreter o.frame) g' t' →
      R (s'.enter o.interpreter o.frame) t' → List.Forall₂ kin o.lines ls' →
      Executes disk say' visit' (n' + 1) o.interpreter g' ls' t' out' →
      Match R Eq (result, u) out') :
    (ended = .ok () ∧ ∃ v', R v v' ∧ v'.books = t.books ∧
      Executes disk say' visit' n' id g ls' v' out') ∨
    ∃ fault v', ended = .error fault ∧ R v v' ∧ out' = (.error fault, v') := by
  have hmatch := lock.match_step coupling hsay hJ hR hline hfit
  rw [hstep] at hmatch
  obtain ⟨opened, t', hstep', ho, hR'⟩ := hmatch.of_ok
  obtain @⟨_, o', ho⟩ := ho
  obtain ⟨result', u', ended', v', body', hend', hrest'⟩ := h'.opened hstep'
  have hbody' : Match R Eq (result, u) (result', u') := by
    rw [ho.interpreter] at body'
    exact hbody (lock.opened hJ hstep hstep' ho) (coupling.entered _ _ _ hR') ho.lines body'
  have hleft : Match R Eq
      (result, u.leave o.interpreter (s'.interpreter o.interpreter).depth)
      (result', u'.leave o'.interpreter (t'.interpreter o'.interpreter).depth) := by
    rw [ho.interpreter]
    exact match_left coupling hbody' o.interpreter _ _
  have hcompleted := match_complete (s := s') (t := t') coupling hsay ho hleft
  rw [hend, hend'] at hcompleted
  rcases hrest' with ⟨rfl, rest'⟩ | ⟨fault, rfl, rfl⟩
  · have hdone : Executes disk say' (fun _ _ => True) n' id g [line'] t (.ok (), v') :=
      .nested hstep' trivial (body'.mono fun _ _ _ => trivial) hend' .done
    cases hcompleted with
    | ok _ hv => exact .inl ⟨rfl, v', hv, hdone.within books_law hbalanced', rest'⟩
  · cases hcompleted with
    | error hv => exact .inr ⟨fault, v', rfl, hv, rfl⟩

/-- Executions in lockstep end in the same way, in sessions that are still related. -/
theorem Executes.lockstep (hbalanced : ∀ text, Balanced (say text))
    (hbalanced' : ∀ text, Balanced (say' text)) (h : Executes disk say visit n id f ls s out)
    (h' : Executes disk say' visit' n' id g ls' t out') (hn : around.length = n)
    (hJ : J around id f s g t) (hR : R s t) (hkin : List.Forall₂ kin ls ls')
    (hfit : ∀ p, Reaches disk say around id f ls s p → fit p) : Match R Eq out out' := by
  -- the first side leads: each of its steps tells which step the derivation of the other side has
  induction h generalizing around n' g ls' t out' with
  | done =>
      cases hkin
      cases h'
      exact .ok rfl hR
  | @plain n id f line lines s s' out hstep _ ih =>
      obtain ⟨line', lines', hline, hlines, rfl⟩ := List.forall₂_cons_left_iff.1 hkin
      have hmatch := lock.match_step coupling hsay hJ hR hline (hfit _ .here)
      rw [hstep] at hmatch
      obtain ⟨opened, t', hstep', ho, hR'⟩ := hmatch.of_ok
      cases ho
      have hs' : Executes disk say visit n id f [line] s (.ok (), s') := .plain hstep .done
      have ht' : Executes disk say' visit' n' id g [line'] t (.ok (), t') := .plain hstep' .done
      have hJ' := lock.congr (hs'.within books_law hbalanced) (ht'.within books_law hbalanced') hJ
      exact ih ((Executes.plain_iff hstep').1 h') hn hJ' hR' hlines
        fun p hp => hfit p (.plain hstep hp)
  | @fault n id f line lines s s' fault hstep =>
      obtain ⟨line', lines', hline, -, rfl⟩ := List.forall₂_cons_left_iff.1 hkin
      have hmatch := lock.match_step coupling hsay hJ hR hline (hfit _ .here)
      rw [hstep] at hmatch
      obtain ⟨t', hstep', hR'⟩ := hmatch.of_error
      rw [h'.eq_of_fault hstep']
      exact .error hR'
  | @nested n id f line lines s s' u v out o result hstep hvisit body hend _ ihbody ihrest =>
      obtain ⟨line', lines', hline, hlines, rfl⟩ := List.forall₂_cons_left_iff.1 hkin
      rcases lock.match_opened coupling hsay hbalanced' hJ hR hline (hfit _ .here) hstep hend h'
        (fun hJ' hR' hbody body' => ihbody body' (by simp [hn]) hJ' hR' hbody
          fun p hp => hfit p (.inside hstep hp))
        with ⟨-, v', hR', ht', rest'⟩ | ⟨fault, v', hfault, -⟩
      · have hs' : Executes disk say visit n id f [line] s (.ok (), v) :=
          .nested hstep hvisit body hend .done
        have hJ' := lock.congr (hs'.within books_law hbalanced) ht' hJ
        exact ihrest rest' hn hJ' hR' hlines
          fun p hp => hfit p (.past hstep (hn ▸ body.mono fun _ _ _ => trivial) hend hp)
      · cases hfault
  | @broken n id f line lines s s' u v o result fault hstep _ body hend ihbody =>
      obtain ⟨line', lines', hline, -, rfl⟩ := List.forall₂_cons_left_iff.1 hkin
      rcases lock.match_opened coupling hsay hbalanced' hJ hR hline (hfit _ .here) hstep hend h'
        (fun hJ' hR' hbody body' => ihbody body' (by simp [hn]) hJ' hR' hbody
          fun p hp => hfit p (.inside hstep hp))
        with ⟨hok, -⟩ | ⟨fault', v', hfault, hR', rfl⟩
      · cases hok
      · cases hfault
        exact .error hR'

end Sides

end Exec

end LineScript
