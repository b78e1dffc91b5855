import LineScript.Session.Stack
import Mathlib.Logic.Relation

/-! # Changes of a session

`Change` lists the single changes that operations make to a session, apart from those that begin and
end an execution or a run. A `Law` is a relation between an earlier and a later session that holds
across every change and around every nested execution. The induction over nested executions is done
once, for an arbitrary law: a law holds across every operation, whether it returns or breaks off.
-/

namespace LineScript

namespace Session

/-- One change of a session that neither begins nor ends an execution. -/
inductive Change : Session → Session → Prop
  | told (s : Session) (notice : Notice) : Change s (s.tell notice)
  | logged (s : Session) (channel : Channel) (text : Text) :
      Change s (s.record (.logged channel text))
  | sought (s : Session) (path : Path) : Change s (s.record (.sought path))
  | reported (s : Session) (id : Nat) (d : Diagnostic) :
      Change s (s.modifyInterpreter id fun i => { i with report := i.report.add d })
  | acted (s : Session) (id : Nat) (frame : Frame) (line : Line) :
      Change s (s.act id frame line (s.actionOf id frame line))
  | functionAdded (s : Session) (id : Nat) (routine : Routine) :
      Change s (s.modifyInterpreter id fun i => { i with store := i.store.addFunction routine })
  | wiped (s : Session) (id : Nat) : Change s (s.reset id)
  | reactionTaken (s : Session) (rest : List (Text × Reaction)) :
      Change s { s with reactions := rest }

abbrev Changes : Session → Session → Prop :=
  Relation.ReflTransGen Change

/-- A relation between an earlier and a later session that every operation respects. -/
structure Law (R : Session → Session → Prop) : Prop where
  refl : ∀ s, R s s
  trans : ∀ {s t u}, R s t → R t u → R s u
  change : ∀ {s t}, Change s t → R s t
  execution : ∀ {s t id frame}, R (s.enter id frame) t → R s (t.leave id (s.interpreter id).depth)
  run : ∀ {s t id}, R (s.beginRun id) t → R s (t.endRun id)

theorem Law.changes {R : Session → Session → Prop} (law : Law R) {s t : Session}
    (h : Changes s t) : R s t := by
  induction h with
  | refl => exact law.refl s
  | tail _ hc ih => exact law.trans ih (law.change hc)

/-- A property that every change keeps, and every beginning and end of an execution or a run. -/
structure Stable (P : Session → Prop) : Prop where
  change : ∀ {s t}, Change s t → P s → P t
  enter : ∀ {s} id frame, P s → P (s.enter id frame)
  leave : ∀ {s} id depth, P s → P (s.leave id depth)
  beginRun : ∀ {s} id, P s → P (s.beginRun id)
  endRun : ∀ {s} id, P s → P (s.endRun id)

theorem Stable.law {P : Session → Prop} (stable : Stable P) : Law fun s t => P s → P t where
  refl _ h := h
  trans hst htu h := htu (hst h)
  change hc := stable.change hc
  execution hin h := stable.leave _ _ (hin (stable.enter _ _ h))
  run hin h := stable.endRun _ (hin (stable.beginRun _ h))

end Session

namespace Exec

open Session

variable {α β : Type}

/-! ## Operations that only make changes -/

/-- Returns, with nothing but changes made. -/
def Calm (x : Exec α) : Prop :=
  ∀ s, ∃ a t, x s = (.ok a, t) ∧ Changes s t

theorem calm_pure (a : α) : Calm (pure a : Exec α) :=
  fun s => ⟨a, s, rfl, .refl⟩

theorem Calm.bind {x : Exec α} {f : α → Exec β} (hx : Calm x) (hf : ∀ a, Calm (f a)) :
    Calm (x >>= f) := by
  intro s
  obtain ⟨a, t, hxs, hst⟩ := hx s
  obtain ⟨b, u, hft, htu⟩ := hf a t
  exact ⟨b, u, by rw [bind_apply, hxs]; exact hft, hst.trans htu⟩

theorem calm_interpreter (id : Nat) : Calm (interpreter id) :=
  fun s => ⟨s.interpreter id, s, rfl, .refl⟩

theorem calm_modify {change : Session → Session} (h : ∀ s, Change s (change s)) :
    Calm (modify change) :=
  fun s => ⟨(), change s, rfl, .single (h s)⟩

theorem calm_tell (notice : Notice) : Calm (tell notice) :=
  calm_modify fun s => .told s notice

theorem calm_log (channel : Channel) (text : Text) : Calm (log channel text) :=
  calm_modify fun s => .logged s channel text

theorem calm_report (id : Nat) (d : Diagnostic) : Calm (report id d) :=
  (calm_modify fun s => .reported s id d).bind fun _ =>
    (calm_log _ _).bind fun _ => calm_tell _

theorem calm_addFunction (id : Nat) (routine : Routine) : Calm (addFunction id routine) := by
  have store : Calm (modifyStore id (·.addFunction routine)) :=
    calm_modify fun s => .functionAdded s id routine
  refine (calm_interpreter id).bind fun i => ?_
  dsimp only
  split
  · exact (calm_log _ _).bind fun _ => store
  · exact store

theorem calm_openWindow (id : Nat) (base : Path) (body : List Text) :
    Calm (openWindow id base body) :=
  (calm_interpreter id).bind fun _ =>
    (calm_log _ _).bind fun _ => (calm_tell _).bind fun _ => calm_pure _

theorem calm_takeSegment (id : Nat) (base : Path) (segment : Segment) :
    Calm (takeSegment id base segment) := by
  cases segment with
  | statement line => exact calm_pure none
  | function header name body closing =>
      exact (calm_addFunction id _).bind fun _ => calm_pure none
  | window header body closing =>
      exact (calm_openWindow id base _).bind fun w => calm_pure (some w)
  | inlineWindow header body =>
      exact (calm_openWindow id base body).bind fun w => calm_pure (some w)
  | rejected header problem => exact (calm_report id _).bind fun _ => calm_pure none

theorem calm_takeSegments (id : Nat) (base : Path) (segments : List Segment) :
    Calm (takeSegments id base segments) := by
  induction segments with
  | nil => exact calm_pure []
  | cons segment rest ih =>
      exact (calm_takeSegment id base segment).bind fun _ => ih.bind fun _ => calm_pure _

theorem calm_trace (id : Nat) (line : Line) : Calm (trace id line) := by
  refine (calm_interpreter id).bind fun i => ?_
  split
  · exact calm_tell _
  · exact calm_pure ()

theorem openCall_apply (id : Nat) (name : Text) (arguments : List Text) (frame : Frame)
    (s : Session) :
    ∃ t, openCall id name arguments frame s =
      (.ok
        { interpreter := id, frame := frame.enter name arguments,
          lines := (s.interpreter id).store.body name }, t) ∧ Changes s t := by
  unfold openCall
  simp only [bind_apply, interpreter]
  split
  · exact ⟨s, rfl, .refl⟩
  · exact ⟨_, rfl, .single (.logged s _ _)⟩

theorem prepare_apply (id : Nat) (source : Text) (base : Path) (file : Option Text)
    (s : Session) :
    ∃ script t, prepare id source base file s = (.ok script, t.beginRun id) ∧ Changes s t ∧
      script.frame =
        { base, depth := if (s.interpreter id).activeRuns = 0 then 0
            else (s.interpreter id).depth + 1 } := by
  obtain ⟨windows, t₁, h₁, hc₁⟩ :=
    calm_takeSegments id base (Segment.ofLines (Line.scan source file)) s
  unfold prepare
  simp only [bind_apply, interpreter, h₁]
  exact ⟨_, _, rfl, (hc₁.tail (.logged _ _ _)).tail (.told _ _), rfl⟩

/-! ## Laws across operations -/

/-- Across the operation a relation holds, however it ends. -/
def Within (R : Session → Session → Prop) (x : Exec α) : Prop :=
  ∀ s, R s (x s).2

variable {R : Session → Session → Prop}

theorem Calm.within {x : Exec α} (law : Law R) (hx : Calm x) : Within R x := by
  intro s
  obtain ⟨a, t, hxs, hst⟩ := hx s
  rw [hxs]
  exact law.changes hst

/-- What holds across an operation and across those that may follow it holds across both. -/
theorem across_bind {x : Exec α} {f : α → Exec β} {s : Session}
    (trans : ∀ {s t u}, R s t → R t u → R s u) (hx : R s (x s).2)
    (hf : ∀ a t, x s = (.ok a, t) → R t (f a t).2) : R s ((x >>= f) s).2 := by
  rw [bind_apply]
  cases hxs : x s with
  | mk result t =>
      rw [hxs] at hx
      cases result with
      | ok a => exact trans hx (hf a t hxs)
      | error fault => exact hx

theorem Within.bind {x : Exec α} {f : α → Exec β} (law : Law R) (hx : Within R x)
    (hf : ∀ a, Within R (f a)) : Within R (x >>= f) :=
  fun s => across_bind law.trans (hx s) fun a t _ => hf a t

theorem within_fail (law : Law R) (fault : Fault) : Within R (fail fault : Exec α) :=
  fun s => law.refl s

theorem within_ofExcept (law : Law R) (result : Except Fault α) :
    Within R (ofExcept result) := by
  cases result with
  | ok a => exact law.refl
  | error fault => exact law.refl

theorem within_each {f : β → Exec Unit} (law : Law R) (hf : ∀ b, Within R (f b))
    (bs : List β) : Within R (each f bs) := by
  induction bs with
  | nil => exact law.refl
  | cons b rest ih => exact (hf b).bind law fun _ => ih

theorem within_writing {operation : Exec Unit} (law : Law R) (n : Int)
    (h : Within R operation) : Within R (writing n operation) := by
  unfold writing
  split
  · exact h
  · exact within_fail law _

theorem within_runWith {runner : Runner} (law : Law R)
    (hr : ∀ id frame lines, Within R (runner id frame lines)) (id : Nat) (source : Text)
    (base : Path) (file : Option Text) : Within R (runWith runner id source base file) := by
  intro s
  obtain ⟨script, t, hp, hc, -⟩ := prepare_apply id source base file s
  have hrun := law.run (hr id script.frame script.statements (t.beginRun id))
  unfold runWith
  simp only [bind_apply, hp, ensuring]
  cases hx : runner id script.frame script.statements (t.beginRun id) with
  | mk result u =>
      rw [hx] at hrun
      cases result with
      | ok a => exact law.trans (law.changes hc) hrun
      | error fault => exact law.trans (law.changes hc) hrun

/-- What holds when a statement was executed up to the activation that it opens. An external script
has begun its run by then. -/
inductive Opened (R : Session → Session → Prop) (s : Session) :
    Except Fault (Option Opening) × Session → Prop
  | fault {fault : Fault} {u : Session} (h : R s u) : Opened R s (.error fault, u)
  | none {u : Session} (h : R s u) : Opened R s (.ok none, u)
  | call {opening : Opening} {u : Session} (hs : opening.script = .none) (h : R s u) :
      Opened R s (.ok (some opening), u)
  | script {opening : Opening} {path : Text} {t : Session} (hs : opening.script = some path)
      (h : R s t) : Opened R s (.ok (some opening), t.beginRun opening.interpreter)

def Opens (R : Session → Session → Prop) (x : Exec (Option Opening)) : Prop :=
  ∀ s, Opened R s (x s)

theorem Opened.trans {s t : Session} {out : Except Fault (Option Opening) × Session} (law : Law R)
    (hst : R s t) (h : Opened R t out) : Opened R s out := by
  cases h with
  | fault h => exact .fault (law.trans hst h)
  | none h => exact .none (law.trans hst h)
  | call hs h => exact .call hs (law.trans hst h)
  | script hs h => exact .script hs (law.trans hst h)

theorem opens_none (law : Law R) : Opens R (pure none) :=
  fun s => .none (law.refl s)

theorem Opens.of_bind {x : Exec α} {f : α → Exec (Option Opening)} (law : Law R)
    (hx : Within R x) (hf : ∀ a, Opens R (f a)) : Opens R (x >>= f) := by
  intro s
  have h := hx s
  rw [bind_apply]
  cases hxs : x s with
  | mk result t =>
      rw [hxs] at h
      cases result with
      | ok a => exact (hf a t).trans law h
      | error fault => exact .fault h

variable {say : Text → Exec Unit}

theorem within_announce (law : Law R) (hsay : ∀ text, Within R (say text)) (id : Nat)
    (line : Line) (action : Action) : Within R (announce say id line action) := by
  cases action with
  | print text => exact hsay text
  | clearOutput => exact (calm_tell _).within law
  | clearDebug => exact (calm_tell _).within law
  | update text => exact (calm_tell _).within law
  | define definition name value size => exact (calm_tell _).within law
  | setBudget ceiling => exact (calm_tell _).within law
  | free name size => exact within_writing law size ((calm_tell _).within law)
  | refuse problem => exact (calm_report id _).within law
  | overBudget name size budget =>
      exact ((calm_log _ _).within law).bind law fun _ =>
        within_writing law size ((calm_report id _).within law)
  | fail fault => exact within_fail law fault
  | skip => exact law.refl
  | call name arguments => exact law.refl
  | external path => exact law.refl

variable (disk : Disk)

theorem opens_openScript (law : Law R) (hsay : ∀ text, Within R (say text)) (path : Text)
    (base : Path) : Opens R (openScript disk say path base) := by
  intro s
  unfold openScript
  simp only [bind_apply, get]
  split
  · refine Opens.of_bind law (x := record _) (fun t => law.change (.sought t _)) (fun _ => ?_) s
    refine Opens.of_bind law (within_ofExcept law _) fun text => ?_
    cases text with
    | error reason =>
        exact .of_bind law ((calm_log _ _).within law) fun _ => .of_bind law (hsay _) fun _ =>
          .of_bind law (hsay _) fun _ =>
            .of_bind law ((calm_report s.activeInterpreter _).within law) fun _ => opens_none law
    | ok source =>
        refine .of_bind law (hsay _) fun _ t => ?_
        obtain ⟨script, u, hp, hc, -⟩ :=
          prepare_apply s.activeInterpreter source (base.join (.ofText path)).parent (some path) t
        rw [bind_apply, hp]
        exact .script rfl (law.changes hc)
  · exact .none (law.refl s)

theorem opens_perform (law : Law R) (hsay : ∀ text, Within R (say text)) (id : Nat)
    (frame : Frame) (line : Line) (action : Action) :
    Opens R (perform disk say id frame line action) := by
  have alone : ∀ action, Opens R (do announce say id line action; pure none) := fun action =>
    .of_bind law (within_announce law hsay id line action) fun _ => opens_none law
  cases action with
  | call name arguments =>
      intro s
      obtain ⟨t, ho, hc⟩ := openCall_apply id name arguments frame s
      change Opened R s ((openCall id name arguments frame >>= fun o => pure (some o)) s)
      rw [bind_apply, ho]
      exact .call rfl (law.changes hc)
  | external path => exact opens_openScript disk law hsay path frame.base
  | _ => exact alone _

theorem opens_step (law : Law R) (hsay : ∀ text, Within R (say text)) (id : Nat)
    (frame : Frame) (line : Line) : Opens R (step disk say id frame line) := by
  unfold step
  refine .of_bind law ((calm_trace id line).within law) fun _ => ?_
  intro s
  simp only [bind_apply, get, modify]
  have h := opens_perform disk law hsay id frame (Statement.citedLine line)
    (s.actionOf id frame line) (s.act id frame line (s.actionOf id frame line))
  exact Opened.trans law (law.change (.acted s id frame line)) h

/-! ## Nested executions -/

/-- A law holds across an opening and the execution of its lines, if it does across the latter. -/
theorem within_complete {runner : Runner} {s t : Session} {opening : Opening} (law : Law R)
    (hsay : ∀ text, Within R (say text)) (hopened : Opened R s (.ok (some opening), t))
    (hbody : R t (runner opening.interpreter opening.frame opening.lines t).2) :
    R s (complete say runner opening t).2 := by
  cases hopened with
  | call hs h =>
      simp only [complete, hs]
      exact law.trans h hbody
  | @script _ path t hs h =>
      refine law.trans h ?_
      have hrun := law.run hbody
      simp only [complete, hs, bind_apply, ensuring]
      cases hy : runner opening.interpreter opening.frame opening.lines
          (t.beginRun opening.interpreter) with
      | mk result v =>
          rw [hy] at hrun
          cases result with
          | ok a => exact law.trans hrun (hsay _ _)
          | error fault => exact hrun

theorem within_executeLine {runner : Runner} (law : Law R) (hsay : ∀ text, Within R (say text))
    (hr : ∀ id frame lines, Within R (runner id frame lines)) (id : Nat) (frame : Frame)
    (line : Line) : Within R (executeLine disk say runner id frame line) := by
  intro s
  have h := opens_step disk law hsay id frame line s
  unfold executeLine
  rw [bind_apply]
  cases hx : step disk say id frame line s with
  | mk result u =>
      rw [hx] at h
      cases result with
      | error fault =>
          cases h with
          | fault h => exact h
      | ok opened =>
          cases opened with
          | none =>
              cases h with
              | none h => exact h
          | some opening => exact within_complete law hsay h (hr _ _ _ u)

theorem within_activation {runner : Runner} (law : Law R) (hsay : ∀ text, Within R (say text))
    (hr : ∀ id frame lines, Within R (runner id frame lines)) (id : Nat) (frame : Frame)
    (lines : List Line) : Within R (activation disk say runner id frame lines) := by
  intro s
  have h := within_each law (within_executeLine disk law hsay hr id frame) lines
  exact law.execution (h (s.enter id frame))

/-- The induction over nested executions: a law holds across the execution of lines. -/
theorem within_lines (law : Law R) (hsay : ∀ text, Within R (say text)) (levels : Nat) :
    ∀ id frame ls, Within R (lines disk say levels id frame ls) := by
  induction levels with
  | zero => exact fun _ _ _ => law.refl
  | succ levels ih => exact within_activation disk law hsay ih

/-! ## Whole operations -/

theorem within_run (law : Law R) (hsay : ∀ text, Within R (say text)) (id : Nat)
    (source : Text) (base : Path) (file : Option Text) :
    Within R (run disk say id source base file) :=
  ((calm_interpreter id).within law).bind law fun _ =>
    within_runWith law (within_lines disk law hsay _) id source base file

theorem within_execute (law : Law R) (hsay : ∀ text, Within R (say text)) (id : Nat)
    (text : Text) (base : Path) : Within R (execute disk say id text base) :=
  ((calm_interpreter id).within law).bind law fun _ => within_lines disk law hsay _ _ _ _

theorem within_call (law : Law R) (hsay : ∀ text, Within R (say text)) (id : Nat)
    (name : Text) (arguments : List Text) (frame : Frame) :
    Within R (call disk say id name arguments frame) := by
  refine ((calm_interpreter id).within law).bind law fun i s => ?_
  obtain ⟨t, ho, hc⟩ := openCall_apply id name arguments frame s
  rw [bind_apply, ho]
  exact law.trans (law.changes hc) (within_lines disk law hsay _ _ _ _ t)

theorem within_unit {x : Exec α} (law : Law R) (hx : Within R x) :
    Within R (do let _ ← x; pure () : Exec Unit) :=
  hx.bind law fun _ => law.refl

end Exec

/-! ## Engines -/

/-- A relation holds across everything that an engine executes. -/
structure Engine.Respects (engine : Engine) (R : Session → Session → Prop) : Prop where
  execute : ∀ id text base, Exec.Within R (engine.execute id text base)
  run : ∀ id source base file, Exec.Within R (engine.run id source base file)

namespace Engine.Respects

open Exec Session

variable {R : Session → Session → Prop} {engine : Engine} (h : engine.Respects R) (law : Law R)

include h law

theorem pressWindow (w : OpenWindow) : Within R (engine.pressWindow w) := by
  unfold Engine.pressWindow
  split
  · exact law.refl
  · exact (h.execute _ _ _).bind law fun _ => law.refl

theorem press (index : Int) : Within R (engine.press index) := by
  intro s
  unfold Engine.press
  simp only [bind_apply, Exec.get]
  cases windowAt? ((s.host.map (·.windows)).getD #[]) index with
  | none => exact law.refl s
  | some w => exact h.pressWindow law w s

theorem react (reaction : Reaction) : Within R (engine.react reaction) := by
  intro s
  cases reaction with
  | execute text => exact h.execute _ text _ s
  | run source file => exact within_unit law (h.run _ source _ file) s
  | press window => exact within_unit law (h.press law window) s
  | reset => exact law.change (.wiped s s.activeInterpreter)

theorem say (text : Text) : Within R (engine.say text) := by
  refine ((calm_tell _).within law).bind law fun _ s => ?_
  simp only [bind_apply, Exec.get]
  cases (if s.host.isSome then takeReaction? text s.reactions else none) with
  | none => exact law.refl s
  | some found => exact law.trans (law.change (.reactionTaken s found.2)) (h.react law _ _)

theorem runFile (disk : Disk) {say : Text → Exec Unit} (hsay : ∀ text, Within R (say text))
    (codec : Except EncodingNameError Codec) (path : Path) :
    Within R (engine.runFile disk say codec path) := by
  refine Within.bind law (x := record _) (fun s => law.change (.sought s path)) fun _ => ?_
  refine (within_ofExcept law _).bind law fun text => ?_
  cases text with
  | error reason =>
      exact ((calm_log _ _).within law).bind law fun _ => (hsay _).bind law fun _ => law.refl
  | ok source => exact (h.run 0 source _ _).bind law fun _ => law.refl

end Engine.Respects

namespace Exec

open Session

variable {R : Session → Session → Prop} (disk : Disk)

theorem respects_engine (law : Law R) {say : Text → Exec Unit}
    (hsay : ∀ text, Within R (say text)) : (engine disk say).Respects R where
  execute := within_execute disk law hsay
  run := within_run disk law hsay

/-- The induction over reactions inside one another: a law holds across printing a line. -/
theorem within_say (law : Law R) (count : Nat) : ∀ text, Within R (Exec.say disk count text) := by
  induction count with
  | zero => exact fun text => (calm_tell _).within law
  | succ count ih => exact (respects_engine disk law ih).say law

/-! ## Operations on a stack -/

theorem within_reportExhausted (law : Law R) (id : Nat) : Within R (reportExhausted id) :=
  ((calm_interpreter id).bind fun _ => (calm_log _ _).bind fun _ => calm_report id _).within law

/-- A relation that holds across an operation holds across the guarded one as well, if it does
across the report of the guard. -/
theorem across_guarded {id : Nat} {x : Exec Unit} (htrans : ∀ {s t u}, R s t → R t u → R s u)
    (hexhausted : Within R (reportExhausted id)) (hx : Within R x) : Within R (guarded id x) := by
  intro s
  have hs := hx s
  unfold guarded
  split
  · rename_i t heq
    rw [heq] at hs
    exact htrans hs (hexhausted t)
  · exact hs

theorem across_guardedRuns {id : Nat} {runner : Runner} {frame : Frame} {ls : List Line}
    (htrans : ∀ {s t u}, R s t → R t u → R s u) (hexhausted : Within R (reportExhausted id))
    (hrunner : Within R (runner id frame ls)) : Within R (guardedRuns runner id frame ls) := by
  intro s
  unfold guardedRuns
  simp only [bind_apply, interpreter]
  split
  · exact across_guarded (R := R) htrans hexhausted hrunner s
  · exact hrunner s

theorem within_guardedRuns {runner : Runner} (law : Law R)
    (hr : ∀ id frame ls, Within R (runner id frame ls)) (id : Nat) (frame : Frame)
    (ls : List Line) : Within R (guardedRuns runner id frame ls) :=
  across_guardedRuns law.trans (within_reportExhausted law id) (hr id frame ls)

section Stack

variable {say : Nat → Text → Exec Unit} (law : Law R)
  (hsay : ∀ room text, Within R (say room text))

include law hsay

theorem within_linesOn (room : Nat) :
    ∀ id frame ls, Within R (linesOn disk say room id frame ls) := by
  induction room with
  | zero => exact fun _ _ _ => law.refl
  | succ room ih => exact within_activation disk law (hsay room) (within_guardedRuns law ih)

theorem within_runOn (room id : Nat) (source : Text) (base : Path) (file : Option Text) :
    Within R (runOn disk say room id source base file) :=
  within_runWith law (within_guardedRuns law (within_linesOn disk law hsay room)) id
    source base file

theorem within_executeOn (room id : Nat) (text : Text) (base : Path) :
    Within R (executeOn disk say room id text base) := by
  have hlines := within_linesOn disk law hsay room id { base } [.ofStatement text]
  refine ((calm_interpreter id).within law).bind law fun i => ?_
  dsimp only
  split
  · exact across_guarded law.trans (within_reportExhausted law id) hlines
  · exact hlines

theorem within_callOn (room id : Nat) (name : Text) (arguments : List Text) (frame : Frame) :
    Within R (callOn disk say room id name arguments frame) := by
  intro s
  obtain ⟨t, ho, hc⟩ := openCall_apply id name arguments frame s
  unfold callOn
  rw [bind_apply, ho]
  exact law.trans (law.changes hc) (within_linesOn disk law hsay room _ _ _ t)

theorem respects_engineOn (room : Nat) : (engineOn disk say room).Respects R where
  execute := within_executeOn disk law hsay room
  run := within_runOn disk law hsay room

end Stack

theorem within_sayOn (law : Law R) (count : Nat) :
    ∀ room text, Within R (sayOn disk count room text) := by
  induction count with
  | zero => exact fun _ text => (calm_tell _).within law
  | succ count ih => exact fun room => (respects_engineOn disk law ih room).say law

end Exec

namespace Session

/-- The sessions that come about by operations on fresh interpreters, with any disk and on any stack
at any time. An operation that breaks off leaves a session as well. -/
inductive Reachable : Session → Prop
  | fresh (surface : Option Surface) (reactions : List (Text × Reaction)) :
      Reachable { host := surface.map fun surface => { surface }, reactions }
  | addInterpreter {s : Session} (h : Reachable s) (config : Config) :
      Reachable (s.addInterpreter config)
  | run {s : Session} (h : Reachable s) (disk : Disk) (id : Nat) (source : Text) (base : Path)
      (file : Option Text) : Reachable (s.run disk id source base file).2
  | execute {s : Session} (h : Reachable s) (disk : Disk) (id : Nat) (text : Text)
      (base : Path) : Reachable (s.execute disk id text base).2
  | call {s : Session} (h : Reachable s) (disk : Disk) (id : Nat) (name : Text)
      (arguments : List Text) (frame : Frame) :
      Reachable (s.call disk id name arguments frame).2
  | press {s : Session} (h : Reachable s) (disk : Disk) (index : Int) :
      Reachable (s.press disk index).2
  | pressWindow {s : Session} (h : Reachable s) (disk : Disk) (w : OpenWindow) :
      Reachable (s.pressWindow disk w).2
  | runFile {s : Session} (h : Reachable s) (disk : Disk)
      (codec : Except EncodingNameError Codec) (path : Path) :
      Reachable (s.runFile disk codec path).2
  | runOn {s : Session} (h : Reachable s) (stack : Nat) (disk : Disk) (id : Nat) (source : Text)
      (base : Path) (file : Option Text) : Reachable (s.runOn stack disk id source base file).2
  | executeOn {s : Session} (h : Reachable s) (stack : Nat) (disk : Disk) (id : Nat)
      (text : Text) (base : Path) : Reachable (s.executeOn stack disk id text base).2
  | callOn {s : Session} (h : Reachable s) (stack : Nat) (disk : Disk) (id : Nat) (name : Text)
      (arguments : List Text) (frame : Frame) :
      Reachable (s.callOn stack disk id name arguments frame).2
  | pressOn {s : Session} (h : Reachable s) (stack : Nat) (disk : Disk) (index : Int) :
      Reachable (s.pressOn stack disk index).2
  | pressWindowOn {s : Session} (h : Reachable s) (stack : Nat) (disk : Disk) (w : OpenWindow) :
      Reachable (s.pressWindowOn stack disk w).2
  | runFileOn {s : Session} (h : Reachable s) (stack : Nat) (disk : Disk)
      (codec : Except EncodingNameError Codec) (path : Path) :
      Reachable (s.runFileOn stack disk codec path).2
  | reset {s : Session} (h : Reachable s) (id : Nat) : Reachable (s.reset id)
  | dropHost {s : Session} (h : Reachable s) : Reachable s.dropHost

/-- A property that a law carries from an earlier to a later session, and that new interpreters and
the loss of the host leave alone, holds of every session that can be reached. -/
theorem Law.reachable {R : Session → Session → Prop} (law : Law R) {P : Session → Prop}
    (carried : ∀ {s t}, R s t → P s → P t)
    (fresh : ∀ (surface : Option Surface) reactions,
      P { host := surface.map fun surface => { surface }, reactions })
    (added : ∀ {s} config, P s → P (s.addInterpreter config))
    (dropped : ∀ {s}, P s → P s.dropHost) {s : Session} (h : Reachable s) : P s := by
  have say := fun disk => Exec.within_say disk law
  have sayOn := fun disk => Exec.within_sayOn disk law
  have engine := fun disk count => Exec.respects_engine disk law (say disk count)
  have engineOn := fun disk count => Exec.respects_engineOn disk law (sayOn disk count)
  induction h with
  | fresh surface reactions => exact fresh surface reactions
  | addInterpreter _ config ih => exact added config ih
  | run _ disk id source base file ih =>
      exact carried (Exec.within_run disk law (say disk _) id source base file _) ih
  | execute _ disk id text base ih =>
      exact carried (Exec.within_execute disk law (say disk _) id text base _) ih
  | call _ disk id name arguments frame ih =>
      exact carried (Exec.within_call disk law (say disk _) id name arguments frame _) ih
  | press _ disk index ih =>
      exact carried ((engine disk _).press law index _) ih
  | pressWindow _ disk w ih => exact carried ((engine disk _).pressWindow law w _) ih
  | runFile _ disk codec path ih =>
      exact carried ((engine disk _).runFile law disk (say disk _) codec path _) ih
  | runOn _ stack disk id source base file ih =>
      exact carried (Exec.within_runOn disk law (sayOn disk _) stack id source base file _) ih
  | executeOn _ stack disk id text base ih =>
      exact carried (Exec.within_executeOn disk law (sayOn disk _) stack id text base _) ih
  | callOn _ stack disk id name arguments frame ih =>
      exact carried
        (Exec.within_callOn disk law (sayOn disk _) stack id name arguments frame _) ih
  | pressOn _ stack disk index ih => exact carried ((engineOn disk _ stack).press law index _) ih
  | pressWindowOn _ stack disk w ih =>
      exact carried ((engineOn disk _ stack).pressWindow law w _) ih
  | runFileOn _ stack disk codec path ih =>
      exact carried
        ((engineOn disk _ stack).runFile law disk (sayOn disk _ stack) codec path _) ih
  | reset _ id ih => exact carried (law.change (.wiped _ id)) ih
  | dropHost _ ih => exact dropped ih

/-- A stable property that holds of fresh sessions, and survives new interpreters and the loss of
the host, holds of every session that can be reached. -/
theorem Stable.reachable {P : Session → Prop} (stable : Stable P)
    (fresh : ∀ host reactions, P { host, reactions })
    (added : ∀ {s} config, P s → P (s.addInterpreter config))
    (dropped : ∀ {s}, P s → P s.dropHost) {s : Session} (h : Reachable s) : P s :=
  stable.law.reachable (fun kept => kept) (fun _ _ => fresh _ _) added dropped h

end Session

end LineScript
