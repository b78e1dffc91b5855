import LineScript.Proofs.Session.Effect
import LineScript.Proofs.Session.Reported

/-! # Runs inside runs

An external script is run inside the run of the script that asks for it. `ScriptRun` holds one such
run, with the sessions in which it starts, begins to execute its statements and has executed them.
The runs inside a run are those that start at a place that it reaches. Every external script that is
read there has one, and it lies within the outer run from its start to its end.
-/

namespace LineScript

open Exec Session

/-- The run of a script, without reactions to what is printed. The activations around it are listed
from the inside, its own being the first if it is the run of an external script. -/
structure ScriptRun (disk : Disk) where
  around : List Opening
  interpreter : Nat
  source : Text
  base : Path
  file : Option Text
  start : Session
  script : Prepared
  begun : Session
  result : Except Fault Unit
  last : Session
  present : interpreter < start.interpreters.size
  prepared : prepare interpreter source base file start = (.ok script, begun)
  executed : Executes disk (Exec.say disk 0) (fun _ _ => True) around.length interpreter
    script.frame script.statements (begun.enter interpreter script.frame) (result, last)

/-- The session in which the action of the statement at a place is carried out. -/
def Place.acted (p : Place) : Session :=
  (p.session.traced p.interpreter p.line).act p.interpreter p.frame p.line p.action

def Place.resolved (p : Place) (path : Text) : Path :=
  p.frame.base.join (.ofText path)

namespace Place

variable (p : Place)

theorem books_acted : p.acted.books = p.session.books :=
  (books_act _ _ _ _ _).trans (books_traced _ _ _)

theorem isSome_host_acted : p.acted.host.isSome = p.session.host.isSome := by
  have hexecuting := congrArg Option.isSome (executing_congr p.books_acted)
  simpa using hexecuting

theorem config_acted (id : Nat) :
    (p.acted.interpreter id).config = (p.session.interpreter id).config :=
  config_eq_of_settings (settings_eq_of_books p.books_acted) id

theorem stepAt_carried {p : Place} (disk : Disk) (hturn : p.session.Turn p.interpreter) :
    Carried disk p.interpreter p.frame (Statement.citedLine p.line) p.acted p.action
      (stepAt disk (Exec.say disk 0) p) :=
  step_carried fun _ _ => hturn

end Place

namespace Exec

variable {disk : Disk} {say : Text → Exec Unit} {visit : Nat → Frame → Prop}
  {around : List Opening} {id : Nat} {frame : Frame} {ls : List Line} {s : Session} {p : Place}
  {out : Except Fault Unit × Session}

/-- At a place that an execution reaches, the statement there is executed and others after it, and
from the end of these on all comes to writes for the interpreter. -/
theorem Reaches.executes (hbalanced : ∀ text, Balanced (say text))
    (hsay : ∀ text, Within (WritesFor id) (say text))
    (hp : Reaches disk say around id frame ls s p) (hturn : s.Turn id)
    (h : Executes disk say visit around.length id frame ls s out) :
    ∃ rest out', Executes disk say visit p.around.length p.interpreter p.frame (p.line :: rest)
      p.session out' ∧ WritesFor id out'.2 out.2 := by
  induction hp generalizing out with
  | here => exact ⟨_, out, h, .refl⟩
  | plain hstep _ ih =>
      exact ih hsay (turn_of_plain hbalanced hturn hstep) ((Executes.plain_iff hstep).1 h)
  | @inside around id frame line lines s t p opening hstep _ ih =>
      obtain ⟨result, u, body, hafter⟩ := h.writesFor_after_body hbalanced hsay hstep hturn
      obtain rfl := interpreter_of_turn hbalanced hturn hstep
      obtain ⟨rest, out', hexecutes, hwrites⟩ := ih hsay (turn_enter t _ _) body
      exact ⟨rest, out', hexecutes, hwrites.trans hafter⟩
  | @past around id frame line lines s t u v p opening result hstep body hend _ ih =>
      obtain ⟨result', u', ended, v', body', hend', hrest⟩ := h.opened hstep
      obtain ⟨rfl, rfl⟩ := Prod.mk.inj (body.unique body')
      obtain ⟨rfl, rfl⟩ := Prod.mk.inj (hend.symm.trans hend')
      have hbooks := (Executes.nested hstep trivial body hend .done).within books_law hbalanced
      rcases hrest with ⟨-, rest⟩ | ⟨fault', hbroken, -⟩
      · exact ih hsay (hturn.congr hbooks) rest
      · cases hbroken

variable {line : Line} {t : Session}

theorem books_of_plain (hbalanced : ∀ text, Balanced (say text))
    (hstep : step disk say id frame line s = (.ok none, t)) : t.books = s.books := by
  have hopened := opens_step disk books_law hbalanced id frame line s
  rw [hstep] at hopened
  cases hopened with
  | none hbooks => exact hbooks

/-- The places that are reached from a line that opens nothing. -/
theorem reaches_of_none (hstep : step disk say id frame line s = (.ok none, t)) :
    Reaches disk say around id frame (line :: ls) s p ↔
      p = { around, interpreter := id, frame, line, session := s } ∨
        Reaches disk say around id frame ls t p := by
  constructor
  · intro h
    cases h with
    | here => exact .inl rfl
    | plain hstep' later =>
        cases hstep.symm.trans hstep'
        exact .inr later
    | inside hstep' body => cases hstep.symm.trans hstep'
    | past hstep' body hend later => cases hstep.symm.trans hstep'
  · rintro (rfl | later)
    · exact .here
    · exact .plain hstep later

theorem reaches_of_fault {fault : Fault}
    (hstep : step disk say id frame line s = (.error fault, t)) :
    Reaches disk say around id frame (line :: ls) s p ↔
      p = { around, interpreter := id, frame, line, session := s } := by
  constructor
  · intro h
    cases h with
    | here => rfl
    | plain hstep' later => cases hstep.symm.trans hstep'
    | inside hstep' body => cases hstep.symm.trans hstep'
    | past hstep' body hend later => cases hstep.symm.trans hstep'
  · rintro rfl
    exact .here

/-- The places that are reached from a line that opens an activation: in the activation, and after
it if it is completed without a fault. -/
theorem reaches_of_some {opening : Opening} {result ended : Except Fault Unit} {u v : Session}
    (hstep : step disk say id frame line s = (.ok (some opening), t))
    (hbody : Executes disk say (fun _ _ => True) (around.length + 1) opening.interpreter
      opening.frame opening.lines (t.enter opening.interpreter opening.frame) (result, u))
    (hend : complete say (fun _ _ _ _ => (result,
      u.leave opening.interpreter (t.interpreter opening.interpreter).depth)) opening t =
        (ended, v)) :
    Reaches disk say around id frame (line :: ls) s p ↔
      p = { around, interpreter := id, frame, line, session := s } ∨
        Reaches disk say (opening :: around) opening.interpreter opening.frame opening.lines
          (t.enter opening.interpreter opening.frame) p ∨
        ended = .ok () ∧ Reaches disk say around id frame ls v p := by
  constructor
  · intro h
    cases h with
    | here => exact .inl rfl
    | plain hstep' later => cases hstep.symm.trans hstep'
    | inside hstep' body =>
        cases hstep.symm.trans hstep'
        exact .inr (.inl body)
    | past hstep' body hend' later =>
        cases hstep.symm.trans hstep'
        cases hbody.unique body
        cases hend.symm.trans hend'
        exact .inr (.inr ⟨rfl, later⟩)
  · rintro (rfl | body | ⟨rfl, later⟩)
    · exact .here
    · exact .inside hstep body
    · exact .past hstep hbody hend later

/-- A run prepares its script and executes the statements, however deep they nest, unless the
interpreter is in the middle of a run at a depth that no run can have. -/
theorem run_executes (disk : Disk) (hsay : ∀ text, Balanced (say text)) (source : Text)
    (base : Path) (file : Option Text) (hid : id < s.interpreters.size)
    (hdepth : (s.interpreter id).activeRuns = 0 ∨ 0 ≤ (s.interpreter id).depth) :
    ∃ script t result last, prepare id source base file s = (.ok script, t) ∧
      Executes disk say (fun _ _ => True) 0 id script.frame script.statements
        (t.enter id script.frame) (result, last) ∧
      let ended := (last.leave id (t.interpreter id).depth).endRun id
      run disk say id source base file s =
        (result.map fun _ => script.result (ended.interpreter id), ended) := by
  obtain ⟨script, t, hp, -, hframe⟩ := prepare_apply id source base file s
  have hstanding := standing_of_prepare hid hp
  have hnonneg : 0 ≤ script.frame.depth := by
    rw [hframe]
    dsimp only
    split <;> omega
  have hexecuted : Executes disk say (fun _ _ => True) 0 id script.frame script.statements
      ((t.beginRun id).enter id script.frame)
      (each (executeLine disk say (lines disk say (2 * (s.interpreter id).config.depthLimit.toNat))
        id script.frame) script.statements ((t.beginRun id).enter id script.frame)) := by
    refine executes_of_acting hsay ?_ hstanding.toActing script.statements
    rw [if_neg hstanding.running]
    omega
  have hrun : run disk say id source base file s =
      runWith (activation disk say
        (lines disk say (2 * (s.interpreter id).config.depthLimit.toNat))) id
        source base file s := rfl
  rw [hrun, runWith_congr hp (activation_apply disk say _ id script.frame script.statements _)]
  generalize each (executeLine disk say
    (lines disk say (2 * (s.interpreter id).config.depthLimit.toNat))
    id script.frame) script.statements ((t.beginRun id).enter id script.frame) = out at hexecuted ⊢
  obtain ⟨result, last⟩ := out
  exact ⟨script, _, result, last, hp, hexecuted, runWith_outcome hp⟩

end Exec

namespace ScriptRun

variable {disk : Disk}

def ended (r : ScriptRun disk) : Session :=
  (r.last.leave r.interpreter (r.begun.interpreter r.interpreter).depth).endRun r.interpreter

def outcome (r : ScriptRun disk) : Except Fault RunResult × Session :=
  (r.result.map fun _ => r.script.result (r.ended.interpreter r.interpreter), r.ended)

/-- The run is the one that the operation `run` carries out. -/
structure IsRoot (r : ScriptRun disk) (s : Session) (id : Nat) (source : Text) (base : Path)
    (file : Option Text) : Prop where
  around : r.around = []
  interpreter : r.interpreter = id
  source : r.source = source
  base : r.base = base
  file : r.file = file
  start : r.start = s

def Reaches (r : ScriptRun disk) (p : Place) : Prop :=
  Exec.Reaches disk (Exec.say disk 0) r.around r.interpreter r.script.frame r.script.statements
    (r.begun.enter r.interpreter r.script.frame) p

/-- The activation of the run, as the statement opens it that asks for the script. -/
def opening (r : ScriptRun disk) (path : Text) : Opening :=
  { interpreter := r.interpreter, frame := r.script.frame, lines := r.script.statements
    script := some path }

/-- The run is that of the external script that the statement at a place asks for. -/
structure StartedAt (r : ScriptRun disk) (p : Place) (path : Text) : Prop where
  action : p.action = .external path
  host : p.session.host.isSome
  read : disk.readScript (p.session.interpreter p.interpreter).config.codec (p.resolved path) =
    .ok (.ok r.source)
  around : r.around = r.opening path :: p.around
  interpreter : r.interpreter = p.interpreter
  base : r.base = (p.resolved path).parent
  file : r.file = some path
  start : r.start = announcing p.acted path (p.resolved path)

/-- The run is the other one, or lies inside it. -/
def Includes (run r : ScriptRun disk) : Prop :=
  r = run ∨ ∃ p path, run.Reaches p ∧ r.StartedAt p path

/-! ## The run that an operation carries out -/

theorem runs_say (disk : Disk) : ∀ text, Balanced (Exec.say disk 0 text) :=
  within_say disk books_law 0

/-- The operation `run` carries a run out, unless the interpreter is in the middle of a run at a
depth that no run can have. -/
theorem exists_isRoot {s : Session} {id : Nat} (disk : Disk) (source : Text) (base : Path)
    (file : Option Text) (hid : id < s.interpreters.size) (hplain : s.reactions = [])
    (hdepth : (s.interpreter id).activeRuns = 0 ∨ 0 ≤ (s.interpreter id).depth) :
    ∃ run : ScriptRun disk, run.IsRoot s id source base file ∧
      run.outcome = s.run disk id source base file := by
  obtain ⟨script, t, result, last, hp, hexecuted, hrun⟩ :=
    run_executes disk (runs_say disk) source base file hid hdepth
  refine ⟨⟨[], id, source, base, file, s, script, t, result, last, hid, hp, hexecuted⟩,
    ⟨rfl, rfl, rfl, rfl, rfl, rfl⟩, ?_⟩
  rw [run_plain disk id source base file hplain, hrun]
  rfl

/-! ## Places that a run reaches -/

theorem standing (r : ScriptRun disk) :
    Standing (r.begun.enter r.interpreter r.script.frame) r.interpreter r.script.frame
      (r.start.interpreter r.interpreter).config.depthLimit :=
  standing_of_prepare r.present r.prepared

theorem Reaches.standing {r : ScriptRun disk} {p : Place} (h : r.Reaches p) :
    p.interpreter = r.interpreter ∧
      Standing p.session r.interpreter p.frame
        (r.start.interpreter r.interpreter).config.depthLimit :=
  Exec.Reaches.standing (runs_say disk) h r.standing

theorem Reaches.turn {r : ScriptRun disk} {p : Place} (h : r.Reaches p) :
    p.session.Turn p.interpreter := by
  obtain ⟨hi, hstanding⟩ := h.standing
  rw [hi]
  exact hstanding.active

/-! ## The runs of external scripts -/

variable {p : Place} {path : Text}

/-- A statement that asks for a script that can be read prepares it and opens its activation. -/
theorem stepAt_ran {source : Text} (hturn : p.session.Turn p.interpreter)
    (haction : p.action = .external path) (hhost : p.session.host.isSome)
    (hread : disk.readScript (p.session.interpreter p.interpreter).config.codec
      (p.resolved path) = .ok (.ok source)) :
    ∃ script t, prepare p.interpreter source (p.resolved path).parent (some path)
        (announcing p.acted path (p.resolved path)) = (.ok script, t) ∧
      stepAt disk (Exec.say disk 0) p =
        (.ok (some
          { interpreter := p.interpreter, frame := script.frame, lines := script.statements
            script := some path }), t) := by
  have hcarried := Place.stepAt_carried disk hturn
  rw [haction] at hcarried
  rw [← p.config_acted] at hread
  rw [← p.isSome_host_acted] at hhost
  unfold Place.resolved at hread ⊢
  generalize stepAt disk (Exec.say disk 0) p = out at hcarried
  cases hcarried with
  | told hnotice => cases hnotice
  | reported hd hnoted => cases hd
  | failed hlocal hnoted => exact absurd rfl (hlocal path)
  | unhosted hnone =>
      rw [hnone] at hhost
      cases hhost
  | unaskable _ hresolved hread' =>
      subst hresolved
      cases hread.symm.trans hread'
  | unreadable _ hresolved hread' =>
      subst hresolved
      cases hread.symm.trans hread'
  | ran _ hresolved hread' hprepared =>
      subst hresolved
      cases hread.symm.trans hread'
      exact ⟨_, _, hprepared, rfl⟩

theorem StartedAt.stepAt_eq {r : ScriptRun disk} (h : r.StartedAt p path)
    (hturn : p.session.Turn p.interpreter) :
    stepAt disk (Exec.say disk 0) p = (.ok (some (r.opening path)), r.begun) := by
  obtain ⟨script, t, hprepared, hstep⟩ := stepAt_ran hturn h.action h.host h.read
  have hprepared' := r.prepared
  rw [h.interpreter, h.base, h.file, h.start] at hprepared'
  cases hprepared.symm.trans hprepared'
  rw [hstep, opening, h.interpreter]

theorem StartedAt.unique {r r' : ScriptRun disk} (h : r.StartedAt p path)
    (h' : r'.StartedAt p path) : r = r' := by
  obtain ⟨around, interpreter, source, base, file, start, script, begun, result, last, present,
    prepared, executed⟩ := r
  obtain ⟨around', interpreter', source', base', file', start', script', begun', result', last',
    present', prepared', executed'⟩ := r'
  obtain ⟨-, -, hread, haround, hinterpreter, hbase, hfile, hstart⟩ := h
  obtain ⟨-, -, hread', haround', hinterpreter', hbase', hfile', hstart'⟩ := h'
  dsimp only [opening] at *
  subst hinterpreter hinterpreter' hbase hbase' hfile hfile' hstart hstart'
  cases hread.symm.trans hread'
  cases prepared.symm.trans prepared'
  subst haround haround'
  cases executed.unique executed'
  rfl

/-- Every external script that an execution reads has its run, and from the last of its statements
on all comes to writes for the interpreter. -/
theorem exists_startedAt {around : List Opening} {id : Nat} {limit : Int} {frame : Frame}
    {ls : List Line}
    {s : Session} {out : Except Fault Unit × Session} {source : Text}
    (hacting : Acting s id frame limit)
    (hp : Exec.Reaches disk (Exec.say disk 0) around id frame ls s p)
    (h : Executes disk (Exec.say disk 0) (fun _ _ => True) around.length id frame ls s out)
    (haction : p.action = .external path) (hhost : p.session.host.isSome)
    (hread : disk.readScript (p.session.interpreter p.interpreter).config.codec
      (p.resolved path) = .ok (.ok source)) :
    ∃ r : ScriptRun disk, r.StartedAt p path ∧ r.source = source ∧ WritesFor id r.last out.2 := by
  obtain ⟨hi, hacting'⟩ := hp.acting (runs_say disk) hacting
  obtain ⟨rest, out', hexecutes, hwrites⟩ :=
    hp.executes (runs_say disk) (serves_say disk) hacting.active h
  rw [← hi] at hacting' hwrites
  obtain ⟨script, t, hprepared, hstep⟩ := stepAt_ran hacting'.active haction hhost hread
  obtain ⟨result, u, body, hafter⟩ :=
    hexecutes.writesFor_after_body (runs_say disk) (serves_say disk)
    hstep hacting'.active
  have hpresent : p.interpreter <
      (announcing p.acted path (p.resolved path)).interpreters.size := by
    rw [announcing, interpreters_tell]
    exact lt_of_lt_of_eq hacting'.present (size_congr p.books_acted).symm
  refine ⟨⟨{ interpreter := p.interpreter, frame := script.frame, lines := script.statements
             script := some path } :: p.around, p.interpreter, source, (p.resolved path).parent,
      some path, announcing p.acted path (p.resolved path), script, t, result, u, hpresent,
      hprepared, body⟩, ⟨haction, hhost, hread, rfl, rfl, rfl, rfl, rfl⟩, rfl, ?_⟩
  rw [← hi]
  exact hafter.trans hwrites

/-! ## Runs lie within the runs around them -/

theorem writesFor_acted (p : Place) : WritesFor p.interpreter p.session p.acted := by
  have htraced : WritesFor p.interpreter p.session (p.session.traced p.interpreter p.line) := by
    unfold traced
    split
    · exact .single (.told (fun _ => Notice.noConfusion) rfl)
    · exact .refl
  exact htraced.tail (.acted _ _ _)

theorem writesFor_announcing (s : Session) (id : Nat) (path : Text) (resolved : Path) :
    WritesFor id s (announcing s path resolved) :=
  .head (.sought resolved) (.single (.told (fun _ => Notice.noConfusion) rfl))

theorem StartedAt.writesFor_start {r : ScriptRun disk} (h : r.StartedAt p path) :
    WritesFor p.interpreter p.session r.start := by
  rw [h.start]
  exact (writesFor_acted p).trans (writesFor_announcing _ _ _ _)

theorem writesFor_begun (r : ScriptRun disk) : WritesFor r.interpreter r.start r.begun := by
  have hprepared := serves_prepare r.interpreter r.source r.base r.file r.start
  rw [r.prepared] at hprepared
  exact hprepared

theorem writesFor_last (r : ScriptRun disk) : WritesFor r.interpreter r.begun r.last :=
  .head (.entered r.script.frame)
    (r.executed.writes (runs_say disk) (serves_say disk) (turn_enter _ _ _))

theorem writesFor_ended (r : ScriptRun disk) : WritesFor r.interpreter r.last r.ended :=
  .head (.left _) (.single .ended)

/-- A run that is included in another belongs to the same interpreter; it starts after the other one
and has executed its statements before the other one has. -/
theorem Includes.within {run r : ScriptRun disk} (h : run.Includes r) :
    r.interpreter = run.interpreter ∧ WritesFor run.interpreter run.start r.start ∧
      WritesFor run.interpreter r.last run.last := by
  rcases h with rfl | ⟨p, path, hp, hr⟩
  · exact ⟨rfl, .refl, .refl⟩
  · have hi := hp.standing.1
    obtain ⟨hbefore, -⟩ := Exec.Reaches.writes (runs_say disk) (serves_say disk) hp
      (turn_enter _ _ _) run.executed
    obtain ⟨r', hr', -, hafter⟩ := exists_startedAt run.standing.toActing hp run.executed hr.action
      hr.host hr.read
    cases hr.unique hr'
    have hstarted := hr.writesFor_start
    rw [hi] at hstarted
    exact ⟨hr.interpreter.trans hi,
      run.writesFor_begun.trans (.head (.entered _) (hbefore.trans hstarted)), hafter⟩

end ScriptRun

end LineScript
