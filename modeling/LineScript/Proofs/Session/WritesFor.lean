import LineScript.Proofs.Session.DepthLimit

/-! # Writes for an interpreter

`WriteFor id` lists the single changes that are made on behalf of interpreter `id`. Executing lines
for an interpreter comes to writes for that interpreter only, however deeply calls and external
scripts are nested: the host runs a script for the interpreter on top of its stack, and while lines
are executed this is the one that executes them. What such writes cannot change is stated once, in
`Served`.
-/

namespace LineScript

def Event.diagnostic? : Event → Option Diagnostic
  | .told (.debug (.diagnostic d)) => some d
  | _ => none

/-- The event belongs to the interpreter, as far as it names one. -/
def Event.IsFor (id : Nat) : Event → Prop
  | .told (.opened w) => w.owner = id
  | .entered other _ => other = id
  | .performed other _ _ _ => other = id
  | .left other => other = id
  | _ => True

namespace Session

def windows (s : Session) : Array OpenWindow :=
  (s.host.map (·.windows)).getD #[]

/-- One change that is made for interpreter `id`. A diagnostic is added to its report and told to
the host at once. -/
inductive WriteFor (id : Nat) (s : Session) : Session → Prop
  | told {notice : Notice} (hclosed : ∀ w, notice ≠ .opened w)
      (hplain : (Event.told notice).diagnostic? = none) : WriteFor id s (s.tell notice)
  | opened {w : OpenWindow} (howner : w.owner = id) {body : List Text} {title : Text}
      (hwindow : w.window = .ofBody body title) : WriteFor id s (s.tell (.opened w))
  | logged (channel : Channel) (text : Text) : WriteFor id s (s.record (.logged channel text))
  | sought (path : Path) : WriteFor id s (s.record (.sought path))
  | reported (d : Diagnostic) : WriteFor id s (Exec.report id d s).2
  | acted (frame : Frame) (line : Line) (action : Action) :
      WriteFor id s (s.act id frame line action)
  | functionAdded (routine : Routine) :
      WriteFor id s
        (s.modifyInterpreter id fun i => { i with store := i.store.addFunction routine })
  | entered (frame : Frame) : WriteFor id s (s.enter id frame)
  | left (depth : Int) : WriteFor id s (s.leave id depth)
  | begun : WriteFor id s (s.beginRun id)
  | ended : WriteFor id s (s.endRun id)

abbrev WritesFor (id : Nat) : Session → Session → Prop :=
  Relation.ReflTransGen (WriteFor id)

/-- If there is a host, it takes interpreter `id` to be the one that is executing. -/
def Turn (s : Session) (id : Nat) : Prop :=
  s.host.isSome → s.activeInterpreter = id

theorem Turn.congr {s t : Session} {id : Nat} (h : t.books = s.books) (hs : s.Turn id) :
    t.Turn id := by
  intro hhost
  rw [activeInterpreter_congr h]
  apply hs
  have hx := congrArg Option.isSome (executing_congr h)
  simpa [hhost] using hx.symm

theorem turn_enter (s : Session) (id : Nat) (frame : Frame) : (s.enter id frame).Turn id := by
  intro _
  unfold enter pushExecuting activeInterpreter
  cases hhost : s.host with
  | none => simp_all [enter, pushExecuting, record, modifyInterpreter]
  | some host => simp [record, modifyInterpreter, hhost]

end Session

/-! ## Operations for an interpreter -/

namespace Exec

open Session

variable {α β : Type} {id : Nat} {s : Session}

theorem writesFor_bind {x : Exec α} {f : α → Exec β} (hx : WritesFor id s (x s).2)
    (hf : ∀ a t, x s = (.ok a, t) → WritesFor id t (f a t).2) : WritesFor id s ((x >>= f) s).2 :=
  across_bind .trans hx hf

theorem serves_bind {x : Exec α} {f : α → Exec β} (hx : Within (WritesFor id) x)
    (hf : ∀ a, Within (WritesFor id) (f a)) : Within (WritesFor id) (x >>= f) :=
  fun s => writesFor_bind (hx s) fun a t _ => hf a t

theorem serves_pure (a : α) : Within (WritesFor id) (pure a : Exec α) :=
  fun _ => .refl

theorem serves_interpreter (other : Nat) : Within (WritesFor id) (interpreter other) :=
  fun _ => .refl

theorem serves_tell {notice : Notice} (hclosed : ∀ w, notice ≠ .opened w)
    (hplain : (Event.told notice).diagnostic? = none) : Within (WritesFor id) (tell notice) :=
  fun _ => .single (.told hclosed hplain)

theorem serves_log (channel : Channel) (text : Text) : Within (WritesFor id) (log channel text) :=
  fun _ => .single (.logged channel text)

theorem serves_report (id : Nat) (d : Diagnostic) : Within (WritesFor id) (report id d) :=
  fun _ => .single (.reported d)

theorem serves_writing {n : Int} {operation : Exec Unit} (h : Within (WritesFor id) operation) :
    Within (WritesFor id) (writing n operation) := by
  unfold writing
  split
  · exact h
  · exact fun _ => .refl

theorem serves_ofExcept (result : Except Fault α) : Within (WritesFor id) (ofExcept result) := by
  cases result with
  | ok a => exact fun _ => .refl
  | error fault => exact fun _ => .refl

theorem serves_addFunction (id : Nat) (routine : Routine) :
    Within (WritesFor id) (addFunction id routine) := by
  have hadded : Within (WritesFor id) (modifyStore id (·.addFunction routine)) :=
    fun _ => .single (.functionAdded routine)
  refine serves_bind (serves_interpreter id) fun i => ?_
  dsimp only
  split
  · exact serves_bind (serves_log _ _) fun _ => hadded
  · exact hadded

theorem serves_openWindow (id : Nat) (base : Path) (body : List Text) :
    Within (WritesFor id) (openWindow id base body) := by
  refine serves_bind (serves_interpreter id) fun i => serves_bind (serves_log _ _) fun _ => ?_
  have htold : Within (WritesFor id) (tell (.opened
      { window := .ofBody body i.config.defaultWindowTitle, owner := id, base })) :=
    fun _ => .single (.opened rfl rfl)
  exact serves_bind htold fun _ => serves_pure _

theorem serves_takeSegment (id : Nat) (base : Path) (segment : Segment) :
    Within (WritesFor id) (takeSegment id base segment) := by
  cases segment with
  | statement line => exact serves_pure none
  | function header name body closing =>
      exact serves_bind (serves_addFunction id _) fun _ => serves_pure none
  | window header body closing =>
      exact serves_bind (serves_openWindow id base _) fun w => serves_pure (some w)
  | inlineWindow header body =>
      exact serves_bind (serves_openWindow id base body) fun w => serves_pure (some w)
  | rejected header problem =>
      exact serves_bind (serves_report id _) fun _ => serves_pure none

theorem serves_takeSegments (id : Nat) (base : Path) (segments : List Segment) :
    Within (WritesFor id) (takeSegments id base segments) := by
  induction segments with
  | nil => exact serves_pure []
  | cons segment rest ih =>
      exact serves_bind (serves_takeSegment id base segment) fun _ =>
        serves_bind ih fun _ => serves_pure _

theorem serves_prepare (id : Nat) (source : Text) (base : Path) (file : Option Text) :
    Within (WritesFor id) (prepare id source base file) := by
  have hbegin : Within (WritesFor id) (modify (·.beginRun id)) := fun _ => .single .begun
  exact serves_bind (serves_interpreter id) fun _ =>
    serves_bind (serves_takeSegments id base _) fun _ =>
      serves_bind (serves_log _ _) fun _ =>
        serves_bind (serves_tell (fun _ => Notice.noConfusion) rfl) fun _ =>
          serves_bind hbegin fun _ => serves_pure _

section ExecutionRelation

variable {disk : Disk} {say : Text → Exec Unit} {R : Session → Session → Prop}

/-- What a statement opens is for the interpreter that executes it. -/
theorem interpreter_of_turn (hbalanced : ∀ text, Balanced (say text)) (hturn : s.Turn id)
    {frame : Frame} {line : Line} {opening : Opening} {t : Session}
    (h : step disk say id frame line s = (.ok (some opening), t)) : opening.interpreter = id := by
  rw [step_apply] at h
  rcases perform_some h with ⟨name, arguments, -, hcall⟩ | ⟨path, -, hscript⟩
  · obtain ⟨u, hu, -⟩ := openCall_apply id name arguments frame
      ((s.traced id line).act id frame line (s.actionOf id frame line))
    obtain ⟨ho, -⟩ := Prod.mk.inj (hu.symm.trans hcall)
    cases ho
    rfl
  · obtain ⟨hhost, hi, -⟩ := openScript_some hbalanced hscript
    rw [hi]
    refine Turn.congr ?_ hturn hhost
    rw [books_act, books_traced]

/-- A relation between an earlier and a later session that holds across every statement which
interpreter `id` executes, and across all that stands around the statements. -/
structure ExecutionRelation (disk : Disk) (say : Text → Exec Unit) (id : Nat)
    (R : Session → Session → Prop) : Prop where
  refl : ∀ s, R s s
  trans : ∀ {s t u}, R s t → R t u → R s u
  prepare : ∀ source base file, Within R (prepare id source base file)
  printed : ∀ text, Within R (say text)
  step : ∀ {s : Session}, s.Turn id → ∀ frame line, R s (step disk say id frame line s).2
  enter : ∀ s frame, R s (s.enter id frame)
  leave : ∀ s depth, R s (s.leave id depth)
  endRun : ∀ s, R s (s.endRun id)

namespace ExecutionRelation

variable (hR : ExecutionRelation disk say id R) (hbalanced : ∀ text, Balanced (say text))

include hR hbalanced

theorem executeLine {runner : Runner} (hrunner : ∀ frame ls, Within R (runner id frame ls))
    (hturn : s.Turn id) (frame : Frame) (line : Line) :
    R s (executeLine disk say runner id frame line s).2 := by
  refine across_bind (x := Exec.step disk say id frame line) hR.trans
    (hR.step hturn frame line) fun opened t hstep => ?_
  cases opened with
  | none => exact hR.refl t
  | some opening =>
      have hi := interpreter_of_turn hbalanced hturn hstep
      have hbody := hrunner opening.frame opening.lines t
      change R t (complete say runner opening t).2
      unfold complete
      rw [hi]
      cases opening.script with
      | none => exact hbody
      | some path =>
          exact across_bind hR.trans (hR.trans hbody (hR.endRun _)) fun _ u _ =>
            hR.printed _ u

/-- The relation holds across an activation if it does across those that are opened in it. -/
theorem activation {runner : Runner} (hrunner : ∀ frame ls, Within R (runner id frame ls))
    (hkept : ∀ id frame ls, Balanced (runner id frame ls)) (frame : Frame) (ls : List Line) :
    Within R (activation disk say runner id frame ls) := by
  intro s
  -- each line puts the books back, so the turn goes from line to line
  have heach : ∀ (ls : List Line) (t : Session), t.Turn id →
      R t (each (Exec.executeLine disk say runner id frame) ls t).2 := by
    intro ls
    induction ls with
    | nil => exact fun t _ => hR.refl t
    | cons line ls ih =>
        intro t hturn
        refine across_bind hR.trans (hR.executeLine hbalanced hrunner hturn frame line) ?_
        intro _ u hline
        have hbooks := within_executeLine disk books_law hbalanced hkept id frame line t
        rw [hline] at hbooks
        exact ih u (hturn.congr hbooks)
  have hbody := heach ls (s.enter id frame) (turn_enter s id frame)
  exact hR.trans (hR.enter s frame) (hR.trans hbody (hR.leave _ _))

/-- The relation holds across the execution of lines, however deeply calls and external scripts are
nested. -/
theorem lines (levels : Nat) (frame : Frame) (ls : List Line) :
    Within R (lines disk say levels id frame ls) := by
  induction levels generalizing frame ls with
  | zero => exact hR.refl
  | succ levels ih =>
      exact hR.activation hbalanced ih (within_lines disk books_law hbalanced levels) frame ls

omit hbalanced in
theorem runWith {runner : Runner} (hrunner : ∀ frame ls, Within R (runner id frame ls))
    (source : Text) (base : Path) (file : Option Text) :
    Within R (runWith runner id source base file) := by
  intro s
  refine across_bind hR.trans (hR.prepare source base file s) fun script t _ => ?_
  have hlines := hrunner script.frame script.statements t
  exact across_bind hR.trans (hR.trans hlines (hR.endRun _)) fun _ u _ =>
    hR.refl u

theorem run (source : Text) (base : Path) (file : Option Text) :
    Within R (run disk say id source base file) :=
  fun s => hR.runWith (hR.lines hbalanced (levelsFrom (s.interpreter id) 0)) source base
    file s

theorem execute (text : Text) (base : Path) : Within R (execute disk say id text base) :=
  fun s => hR.lines hbalanced (levelsFrom (s.interpreter id) 0) { base } [.ofStatement text] s

section Stack

variable (hexhausted : Within R (reportExhausted id))

include hexhausted

theorem linesOn (room : Nat) (frame : Frame) (ls : List Line) :
    Within R (linesOn disk (fun _ => say) room id frame ls) := by
  induction room generalizing frame ls with
  | zero => exact hR.refl
  | succ room ih =>
      have hkept := within_linesOn disk books_law (fun _ => hbalanced) room
      exact hR.activation hbalanced
        (fun frame ls => across_guardedRuns hR.trans hexhausted (ih frame ls))
        (within_guardedRuns books_law hkept) frame ls

theorem runOn (room : Nat) (source : Text) (base : Path) (file : Option Text) :
    Within R (runOn disk (fun _ => say) room id source base file) :=
  hR.runWith (fun frame ls => across_guardedRuns hR.trans hexhausted
    (hR.linesOn hbalanced hexhausted room frame ls)) source base file

theorem executeOn (room : Nat) (text : Text) (base : Path) :
    Within R (executeOn disk (fun _ => say) room id text base) := by
  intro s
  have hlines := hR.linesOn hbalanced hexhausted room { base } [.ofStatement text]
  unfold Exec.executeOn
  simp only [bind_apply, interpreter]
  split
  · exact across_guarded (R := R) hR.trans hexhausted hlines s
  · exact hlines s

end Stack

end ExecutionRelation

end ExecutionRelation

section Printing

variable {disk : Disk} {say : Text → Exec Unit}
  (hsay : ∀ text, Within (WritesFor id) (say text)) (hbalanced : ∀ text, Balanced (say text))

include hsay

theorem serves_announce (line : Line) (action : Action) :
    Within (WritesFor id) (announce say id line action) := by
  cases action with
  | print text => exact hsay text
  | clearOutput => exact serves_tell (fun _ => Notice.noConfusion) rfl
  | clearDebug => exact serves_tell (fun _ => Notice.noConfusion) rfl
  | update text => exact serves_tell (fun _ => Notice.noConfusion) rfl
  | define definition name value size => exact serves_tell (fun _ => Notice.noConfusion) rfl
  | setBudget ceiling => exact serves_tell (fun _ => Notice.noConfusion) rfl
  | free name size => exact serves_writing (serves_tell (fun _ => Notice.noConfusion) rfl)
  | refuse problem => exact serves_report id _
  | overBudget name size budget =>
      exact serves_bind (serves_log _ _) fun _ => serves_writing (serves_report id _)
  | fail fault => exact fun _ => .refl
  | skip => exact serves_pure ()
  | call name arguments => exact serves_pure ()
  | external path => exact serves_pure ()

/-- The host runs an external script for the interpreter on top of its stack. -/
theorem writesFor_openScript (hturn : s.Turn id) (path : Text) (base : Path) :
    WritesFor id s (openScript disk say path base s).2 := by
  unfold openScript
  simp only [bind_apply, get]
  split
  · rename_i hhost
    rw [hturn hhost]
    have hsought : Within (WritesFor id) (record (.sought (base.join (.ofText path)))) :=
      fun _ => .single (.sought _)
    refine serves_bind hsought (fun _ => serves_bind (serves_ofExcept _) fun text => ?_) s
    cases text with
    | error reason =>
        exact serves_bind (serves_log _ _) fun _ => serves_bind (hsay _) fun _ =>
          serves_bind (hsay _) fun _ => serves_bind (serves_report id _) fun _ => serves_pure none
    | ok source =>
        exact serves_bind (hsay _) fun _ =>
          serves_bind (serves_prepare id _ _ _) fun _ => serves_pure _
  · exact .refl

theorem writesFor_perform (hturn : s.Turn id) (frame : Frame) (line : Line) (action : Action) :
    WritesFor id s (perform disk say id frame line action s).2 := by
  have halone : ∀ action, WritesFor id s ((do announce say id line action; pure none :
      Exec (Option Opening)) s).2 := fun action =>
    serves_bind (serves_announce hsay line action) (fun _ => serves_pure none) s
  cases action with
  | call name arguments =>
      refine writesFor_bind (x := openCall id name arguments frame) ?_ fun _ _ _ => .refl
      unfold openCall
      simp only [bind_apply, interpreter]
      split
      · exact .refl
      · exact .single (.logged _ _)
  | external path => exact writesFor_openScript hsay hturn path frame.base
  | _ =>
      simp only [perform]
      exact halone _

theorem writesFor_step (hturn : s.Turn id) (frame : Frame) (line : Line) :
    WritesFor id s (step disk say id frame line s).2 := by
  rw [step_apply]
  have htraced : WritesFor id s (s.traced id line) := by
    unfold traced
    split
    · exact .single (.told (fun _ => Notice.noConfusion) rfl)
    · exact .refl
  have hturn' : ((s.traced id line).act id frame line (s.actionOf id frame line)).Turn id := by
    apply hturn.congr
    rw [books_act, books_traced]
  exact (htraced.tail (.acted frame line _)).trans (writesFor_perform hsay hturn' frame _ _)

/-- Executing lines for an interpreter comes to writes for this interpreter. -/
theorem writesFor_executionRelation : ExecutionRelation disk say id (WritesFor id) where
  refl _ := .refl
  trans := .trans
  prepare := serves_prepare id
  printed := hsay
  step hturn frame line := writesFor_step hsay hturn frame line
  enter _ frame := .single (.entered frame)
  leave _ depth := .single (.left depth)
  endRun _ := .single .ended

include hbalanced

theorem serves_run (source : Text) (base : Path) (file : Option Text) :
    Within (WritesFor id) (run disk say id source base file) :=
  (writesFor_executionRelation hsay).run hbalanced source base file

theorem serves_execute (text : Text) (base : Path) :
    Within (WritesFor id) (execute disk say id text base) :=
  (writesFor_executionRelation hsay).execute hbalanced text base

omit hsay hbalanced in
theorem serves_reportExhausted (id : Nat) : Within (WritesFor id) (reportExhausted id) :=
  serves_bind (serves_interpreter id) fun _ =>
    serves_bind (serves_log _ _) fun _ => serves_report id _

theorem serves_runOn (room : Nat) (source : Text) (base : Path) (file : Option Text) :
    Within (WritesFor id) (runOn disk (fun _ => say) room id source base file) :=
  (writesFor_executionRelation hsay).runOn hbalanced (serves_reportExhausted id) room
    source base file

theorem serves_executeOn (room : Nat) (text : Text) (base : Path) :
    Within (WritesFor id) (executeOn disk (fun _ => say) room id text base) :=
  (writesFor_executionRelation hsay).executeOn hbalanced (serves_reportExhausted id) room text base

end Printing

/-- Printing without a reaction is a write for any interpreter. -/
theorem serves_say (disk : Disk) (text : Text) : Within (WritesFor id) (Exec.say disk 0 text) :=
  serves_tell (fun _ => Notice.noConfusion) rfl

end Exec

/-! ## What writes for an interpreter leave alone -/

namespace Session

/-- From `s` to `t` only interpreter `id` was at work. No other interpreter has changed, windows
that came up are its own, the events on record are its own, and the diagnostics that the host was
told of are the ones that its report grew by. -/
structure Served (id : Nat) (s t : Session) : Prop where
  others : ∀ other, other ≠ id → t.interpreter other = s.interpreter other
  size : t.interpreters.size = s.interpreters.size
  reactions : t.reactions = s.reactions
  host : t.host.isSome = s.host.isSome
  owners : ∀ w ∈ t.windows, w.owner = id ∨ ∃ w' ∈ s.windows, w'.owner = w.owner
  events : ∃ events, t.transcript.toList = s.transcript.toList ++ events ∧
    (∀ event ∈ events, event.IsFor id) ∧
    (s.host.isSome → id < s.interpreters.size →
      (t.interpreter id).report.diagnostics.toList =
        (s.interpreter id).report.diagnostics.toList ++ events.filterMap Event.diagnostic?)

theorem reactions_tell (s : Session) (notice : Notice) :
    (s.tell notice).reactions = s.reactions := by
  unfold tell
  cases s.host <;> rfl

theorem isSome_host_tell (s : Session) (notice : Notice) :
    (s.tell notice).host.isSome = s.host.isSome := by
  unfold tell
  cases hhost : s.host <;> simp [hhost]

theorem transcript_tell (s : Session) (notice : Notice) :
    (s.tell notice).transcript.toList =
      s.transcript.toList ++ if s.host.isSome then [.told notice] else [] := by
  unfold tell
  cases hhost : s.host <;> simp [record]

namespace Served

variable {id : Nat} {s t u : Session}

theorem refl (id : Nat) (s : Session) : Served id s s where
  others _ _ := rfl
  size := rfl
  reactions := rfl
  host := rfl
  owners w hw := .inr ⟨w, hw, rfl⟩
  events := ⟨[], by simp, by simp, by simp⟩

theorem trans (hst : Served id s t) (htu : Served id t u) : Served id s u where
  others other hne := (htu.others other hne).trans (hst.others other hne)
  size := htu.size.trans hst.size
  reactions := htu.reactions.trans hst.reactions
  host := htu.host.trans hst.host
  owners w hw := by
    rcases htu.owners w hw with hid | ⟨w', hw', howner⟩
    · exact .inl hid
    · rcases hst.owners w' hw' with hid | ⟨w'', hw'', howner'⟩
      · exact .inl (howner.symm.trans hid)
      · exact .inr ⟨w'', hw'', howner'.trans howner⟩
  events := by
    obtain ⟨first, hfirst, hfor, hreport⟩ := hst.events
    obtain ⟨second, hsecond, hfor', hreport'⟩ := htu.events
    refine ⟨first ++ second, ?_, ?_, ?_⟩
    · rw [hsecond, hfirst, List.append_assoc]
    · intro event hmem
      rcases List.mem_append.1 hmem with hmem | hmem
      · exact hfor event hmem
      · exact hfor' event hmem
    · intro hhost hid
      have hhost' : t.host.isSome := by rw [hst.host]; exact hhost
      have hid' : id < t.interpreters.size := by rw [hst.size]; exact hid
      rw [hreport' hhost' hid', hreport hhost hid, List.filterMap_append, List.append_assoc]

theorem modifyInterpreter (s : Session) (id : Nat) {change : Interpreter → Interpreter}
    (h : ∀ i, (change i).report = i.report) : Served id s (s.modifyInterpreter id change) where
  others other hne := by
    rw [interpreter_modifyInterpreter, if_neg]
    exact fun heq => hne heq.1.symm
  size := size_modifyInterpreter s id change
  reactions := rfl
  host := rfl
  owners w hw := .inr ⟨w, hw, rfl⟩
  events := by
    refine ⟨[], by simp [Session.modifyInterpreter], by simp, ?_⟩
    intro _ hid
    rw [interpreter_modifyInterpreter_self hid, h]
    simp

theorem record (s : Session) {event : Event} (hfor : event.IsFor id)
    (hplain : event.diagnostic? = none) : Served id s (s.record event) where
  others _ _ := rfl
  size := rfl
  reactions := rfl
  host := rfl
  owners w hw := .inr ⟨w, hw, rfl⟩
  events := ⟨[event], by simp [Session.record], by simpa using hfor, by simp [hplain]⟩

theorem owners_tell {notice : Notice} (hfor : (Event.told notice).IsFor id) :
    ∀ w ∈ (s.tell notice).windows, w.owner = id ∨ ∃ w' ∈ s.windows, w'.owner = w.owner := by
  intro w hw
  unfold Session.tell at hw
  cases hhost : s.host with
  | none =>
      rw [hhost] at hw
      exact .inr ⟨w, hw, rfl⟩
  | some host =>
      have hwindows : s.windows = host.windows := by simp [windows, hhost]
      simp only [hhost, windows, Option.map_some, Option.getD_some, Host.receive] at hw
      rw [hwindows]
      cases notice with
      | opened w' =>
          rcases Array.mem_push.1 hw with hold | rfl
          · exact .inr ⟨w, hold, rfl⟩
          · exact .inl hfor
      | updated text =>
          -- the newest window may have got a longer content, but not another owner
          obtain ⟨k, hk, rfl⟩ := Array.mem_iff_getElem.1 hw
          simp only [Host.windowsAfter, Array.size_modify] at hk
          refine .inr ⟨host.windows[k], Array.getElem_mem hk, ?_⟩
          simp only [Host.windowsAfter, Array.getElem_modify]
          split <;> rfl
      | _ => exact .inr ⟨w, hw, rfl⟩

theorem tell (s : Session) {notice : Notice} (hfor : (Event.told notice).IsFor id)
    (hplain : (Event.told notice).diagnostic? = none) : Served id s (s.tell notice) where
  others other _ := interpreter_tell s notice other
  size := by rw [interpreters_tell]
  reactions := reactions_tell s notice
  host := isSome_host_tell s notice
  owners := owners_tell hfor
  events := by
    refine ⟨_, transcript_tell s notice, ?_, ?_⟩
    · intro event hmem
      split at hmem
      · rw [List.mem_singleton.1 hmem]
        exact hfor
      · cases hmem
    · intro hhost _
      simp [hhost, hplain]

theorem report (s : Session) (id : Nat) (d : Diagnostic) : Served id s (Exec.report id d s).2 := by
  generalize hu : (s.modifyInterpreter id fun i => { i with report := i.report.add d }).record
    (.logged .execution (d.format false)) = u
  have ht : (Exec.report id d s).2 = u.tell (.debug (.diagnostic d)) := by
    rw [← hu]
    rfl
  have hadded : ∀ other, u.interpreter other =
      (s.modifyInterpreter id fun i => { i with report := i.report.add d }).interpreter other := by
    intro other
    rw [← hu]
    rfl
  have hwindows : u.windows = s.windows := by
    rw [← hu]
    rfl
  rw [ht]
  refine ⟨?_, ?_, ?_, ?_, ?_, ?_⟩
  · intro other hne
    rw [interpreter_tell, hadded, interpreter_modifyInterpreter, if_neg]
    exact fun heq => hne heq.1.symm
  · rw [interpreters_tell, ← hu]
    exact size_modifyInterpreter s id _
  · rw [reactions_tell, ← hu]
    rfl
  · rw [isSome_host_tell, ← hu]
    rfl
  · rw [← hwindows]
    exact owners_tell trivial
  · have htranscript : u.transcript.toList =
        s.transcript.toList ++ [.logged .execution (d.format false)] := by
      rw [← hu]
      exact Array.toList_push
    have hevents := transcript_tell u (.debug (.diagnostic d))
    rw [htranscript, List.append_assoc] at hevents
    refine ⟨_, hevents, ?_, ?_⟩
    · intro event hmem
      rcases List.mem_append.1 hmem with hmem | hmem
      · rw [List.mem_singleton.1 hmem]
        trivial
      · split at hmem
        · rw [List.mem_singleton.1 hmem]
          trivial
        · cases hmem
    · intro hhost hid
      have hhost' : u.host.isSome := by
        rw [← hu]
        exact hhost
      rw [interpreter_tell, hadded, interpreter_modifyInterpreter_self hid, if_pos hhost']
      exact Array.toList_push

theorem of_host (hinterpreters : t.interpreters = s.interpreters)
    (htranscript : t.transcript = s.transcript) (hreactions : t.reactions = s.reactions)
    (hwindows : t.host.map (·.windows) = s.host.map (·.windows)) : Served id s t where
  others other _ := by rw [interpreter, interpreter, hinterpreters]
  size := by rw [hinterpreters]
  reactions := hreactions
  host := by simpa using congrArg Option.isSome hwindows
  owners w hw := by
    rw [windows, hwindows] at hw
    exact .inr ⟨w, hw, rfl⟩
  events := ⟨[], by simp [htranscript], by simp, by simp [interpreter, hinterpreters]⟩

theorem pushExecuting (s : Session) (id : Nat) : Served id s (s.pushExecuting id) := by
  refine of_host rfl rfl rfl ?_
  cases hhost : s.host <;> simp [Session.pushExecuting, hhost]

theorem popExecuting (s : Session) (id : Nat) : Served id s (s.popExecuting id) := by
  refine of_host rfl rfl rfl ?_
  cases hhost : s.host with
  | none => simp [Session.popExecuting, hhost]
  | some host =>
      simp only [Session.popExecuting, hhost, Option.map_some, Option.some.injEq]
      split
      · split
        · rfl
        · rfl
      · rfl

end Served

theorem WriteFor.served {id : Nat} {s t : Session} (h : WriteFor id s t) : Served id s t := by
  cases h with
  | @told notice hclosed hplain =>
      refine .tell s ?_ hplain
      cases notice with
      | opened w => exact absurd rfl (hclosed w)
      | _ => trivial
  | opened howner _ => exact .tell s howner rfl
  | logged channel text => exact .record s trivial rfl
  | sought path => exact .record s trivial rfl
  | reported d => exact .report s id d
  | acted frame line action =>
      have hrecorded : Served id s (s.record (.performed id frame line action)) :=
        .record s rfl rfl
      exact hrecorded.trans (.modifyInterpreter _ id fun _ => rfl)
  | functionAdded routine => exact .modifyInterpreter s id fun _ => rfl
  | entered frame =>
      have hdepth : Served id s (s.modifyInterpreter id fun i => { i with depth := frame.depth }) :=
        .modifyInterpreter s id fun _ => rfl
      have hpushed := Served.pushExecuting
        (s.modifyInterpreter id fun i => { i with depth := frame.depth }) id
      exact (hdepth.trans hpushed).trans (.record _ rfl rfl)
  | left depth =>
      have hdepth : Served id s (s.modifyInterpreter id fun i => { i with depth }) :=
        .modifyInterpreter s id fun _ => rfl
      have hpopped := Served.popExecuting (s.modifyInterpreter id fun i => { i with depth }) id
      exact (hdepth.trans hpopped).trans (.record _ rfl rfl)
  | begun => exact .modifyInterpreter s id fun _ => rfl
  | ended => exact .modifyInterpreter s id fun _ => rfl

theorem WritesFor.served {id : Nat} {s t : Session} (h : WritesFor id s t) : Served id s t := by
  induction h with
  | refl => exact .refl id s
  | tail _ hwrite ih => exact ih.trans hwrite.served

/-! ## Runs without reactions -/

section Plain

variable {s : Session} (disk : Disk) (id : Nat) (source : Text) (base : Path)
  (file : Option Text)

theorem perform_plain {α : Type} (operation : (Text → Exec Unit) → Exec α)
    (hplain : s.reactions = []) : s.perform disk operation = operation (Exec.say disk 0) s := by
  simp only [perform, hplain, List.length_nil]

theorem run_plain (hplain : s.reactions = []) :
    s.run disk id source base file = Exec.run disk (Exec.say disk 0) id source base file s :=
  perform_plain disk _ hplain

theorem reactions_run (hplain : s.reactions = []) :
    (s.run disk id source base file).2.reactions = [] := by
  have hwrites : WritesFor id s (Exec.run disk (Exec.say disk 0) id source base file s).2 :=
    Exec.serves_run (Exec.serves_say disk) (Exec.within_say disk books_law 0) source base file s
  rw [run_plain disk id source base file hplain, hwrites.served.reactions, hplain]

end Plain

end Session

end LineScript
