import LineScript.Proofs.Session.WritesFor
import LineScript.Proofs.Session.SingleStatement

/-! # Stacks that suffice

Nothing that a statement does by itself takes up the stack: it is exhausted only by activations
inside one another, and the depth limit bounds these. On a stack with room for more activations than
the limit, a run is what it is without any bound on the stack. A statement outside any run can come
to twice as many.
-/

namespace LineScript

open Session

namespace Exec

/-- The operation does not break off for want of room on the stack. -/
def NeverExhausts {α : Type} (x : Exec α) : Prop :=
  ∀ s, (x s).1 ≠ .error .stackExhausted

section Operations

variable {α β : Type} {x : Exec α}

theorem Sure.neverExhausts (h : Sure x) : NeverExhausts x := by
  intro s
  obtain ⟨a, t, hx⟩ := h s
  rw [hx]
  simp

theorem Calm.neverExhausts (h : Calm x) : NeverExhausts x :=
  h.sure.neverExhausts

theorem neverExhausts_fail {fault : Fault} (h : fault ≠ .stackExhausted) :
    NeverExhausts (fail fault : Exec α) := by
  intro s hs
  exact h (Except.error.inj hs)

theorem NeverExhausts.bind {f : α → Exec β} (hx : NeverExhausts x)
    (hf : ∀ a, NeverExhausts (f a)) : NeverExhausts (x >>= f) := by
  intro s
  have hs := hx s
  rw [bind_apply]
  cases hxs : x s with
  | mk result t =>
      rw [hxs] at hs
      cases result with
      | ok a => exact hf a t
      | error fault => exact fun h => hs (congrArg Except.error (Except.error.inj h))

theorem neverExhausts_writing {n : Int} {operation : Exec Unit} (h : NeverExhausts operation) :
    NeverExhausts (writing n operation) := by
  unfold writing
  split
  · exact h
  · exact neverExhausts_fail Fault.noConfusion

end Operations

/-! ## Statements -/

variable {disk : Disk} {say : Text → Exec Unit} {visit : Nat → Frame → Prop} {n id : Nat}
  {frame : Frame} {ls : List Line} {s t : Session}

theorem neverExhausts_readScript (disk : Disk) (codec : Except EncodingNameError Codec)
    (path : Path) : NeverExhausts (ofExcept (disk.readScript codec path)) := by
  cases hread : disk.readScript codec path with
  | ok text => exact (calm_pure text).neverExhausts
  | error fault =>
      refine neverExhausts_fail ?_
      rintro rfl
      have hpath : path.fault? ≠ some .stackExhausted := by
        rw [Ne, Path.fault?_eq_some]
        simp
      unfold Disk.readScript Disk.scriptText at hread
      repeat' split at hread
      all_goals cases hread
      exact hpath ‹_›

section Printing

variable (hsay : ∀ text, NeverExhausts (say text))

include hsay

theorem neverExhausts_announce {config : Config} {store : Store} {statement : Statement}
    {action : Action} (h : action.Founded config frame store statement) (line : Line) :
    NeverExhausts (announce say id line action) := by
  cases h with
  | print => exact hsay _
  | fail hroom => exact neverExhausts_fail hroom
  | free => exact neverExhausts_writing (calm_tell _).neverExhausts
  | overBudget =>
      exact (calm_log _ _).neverExhausts.bind fun _ =>
        neverExhausts_writing (calm_report id _).neverExhausts
  | refuse => exact (calm_report id _).neverExhausts
  | skip => exact (calm_pure ()).neverExhausts
  | call => exact (calm_pure ()).neverExhausts
  | external => exact (calm_pure ()).neverExhausts
  | _ => exact (calm_tell _).neverExhausts

theorem neverExhausts_openScript (path : Text) (base : Path) :
    NeverExhausts (openScript disk say path base) := by
  intro s
  unfold openScript
  simp only [bind_apply, get]
  split
  · have hsought : Calm (record (.sought (base.join (.ofText path)))) :=
      calm_modify fun s => .sought s _
    refine (hsought.neverExhausts.bind fun _ =>
      (neverExhausts_readScript disk _ _).bind fun text => ?_) s
    cases text with
    | error reason =>
        exact (calm_log _ _).neverExhausts.bind fun _ => (hsay _).bind fun _ =>
          (hsay _).bind fun _ => (calm_report _ _).neverExhausts.bind fun _ =>
            (calm_pure none).neverExhausts
    | ok source =>
        refine (hsay _).bind fun _ => NeverExhausts.bind ?_ fun _ =>
          (calm_pure (some _)).neverExhausts
        intro t
        obtain ⟨script, u, hp, -⟩ := prepare_apply s.activeInterpreter source
          (base.join (.ofText path)).parent (some path) t
        rw [hp]
        simp
  · simp

theorem step_ne_exhausted {line : Line} {opened : Except Fault (Option Opening)}
    (h : step disk say id frame line s = (opened, t)) : opened ≠ .error .stackExhausted := by
  have hopened : opened = (step disk say id frame line s).1 := by rw [h]
  have hfounded : (s.actionOf id frame line).Founded (s.interpreter id).config frame
      (s.interpreter id).store (.ofLine line) := Action.founded_of _ _ _ _
  rw [hopened, step_apply]
  clear hopened h
  generalize s.actionOf id frame line = action at hfounded
  have halone : NeverExhausts (do announce say id (Statement.citedLine line) action; pure none :
      Exec (Option Opening)) :=
    (neverExhausts_announce hsay hfounded _).bind fun _ => (calm_pure none).neverExhausts
  cases action with
  | call name arguments =>
      intro hs
      obtain ⟨u, hu, -⟩ := openCall_apply id name arguments frame
        ((s.traced id line).act id frame line (.call name arguments))
      simp only [perform, bind_apply, hu] at hs
      cases hs
  | external path => exact neverExhausts_openScript hsay path frame.base _
  | _ =>
      simp only [perform]
      exact halone _

theorem complete_ne_exhausted {opening : Opening} {result ended : Except Fault Unit}
    {u v : Session} (h : result ≠ .error .stackExhausted)
    (hend : complete say (fun _ _ _ _ => (result, u)) opening t = (ended, v)) :
    ended ≠ .error .stackExhausted := by
  have hended : ended = (complete say (fun _ _ _ _ => (result, u)) opening t).1 := by rw [hend]
  rw [hended]
  unfold complete
  cases opening.script with
  | none => exact h
  | some path =>
      simp only [bind_apply, ensuring]
      cases result with
      | ok _ => exact hsay _ _
      | error fault => exact fun hs => h (congrArg Except.error (Except.error.inj hs))

theorem Executes.ne_exhausted {out : Except Fault Unit × Session}
    (h : Executes disk say visit n id frame ls s out) : out.1 ≠ .error .stackExhausted := by
  induction h with
  | done => simp
  | plain _ _ ih => exact ih
  | fault hstep =>
      intro h
      exact step_ne_exhausted hsay hstep (congrArg Except.error (Except.error.inj h))
  | nested _ _ _ _ _ _ ihrest => exact ihrest
  | broken _ _ _ hend ihbody => exact complete_ne_exhausted hsay ihbody hend

end Printing

/-! ## Enough room -/

theorem guarded_of_ne {x : Exec Unit} (h : (x s).1 ≠ .error .stackExhausted) :
    guarded id x s = x s := by
  unfold guarded
  split
  · rename_i heq
    rw [heq] at h
    exact absurd rfl h
  · rfl

theorem guardedRuns_of_ne {runner : Runner}
    (h : (runner id frame ls s).1 ≠ .error .stackExhausted) :
    guardedRuns runner id frame ls s = runner id frame ls s := by
  unfold guardedRuns
  simp only [bind_apply, interpreter]
  split
  · exact guarded_of_ne h
  · rfl

variable {limit : Int}

/-- Where the limit is met before the stack is exhausted, lines are executed as without a bound. -/
theorem executes_linesOn (hsay : ∀ text, Balanced (say text))
    (hroom : ∀ text, NeverExhausts (say text)) {room : Nat}
    (henough : if (s.interpreter id).activeRuns = 0 then limit + max limit 0 ≤ room + frame.depth
      else limit ≤ room + frame.depth)
    (hid : id < s.interpreters.size) (hlimit : (s.interpreter id).config.depthLimit = limit)
    (ls : List Line) :
    ∃ result u,
      guardedRuns (linesOn disk (fun _ => say) (room + 1)) id frame ls s =
        (result, u.leave id (s.interpreter id).depth) ∧
      linesOn disk (fun _ => say) (room + 1) id frame ls s =
        (result, u.leave id (s.interpreter id).depth) ∧
      Executes disk say (fun _ _ => True) n id frame ls (s.enter id frame) (result, u) := by
  have hwithin : ∀ room id frame ls,
      Balanced (guardedRuns (linesOn disk (fun _ => say) room) id frame ls) :=
    fun room => within_guardedRuns books_law (within_linesOn disk books_law (fun _ => hsay) room)
  -- an activation that is an execution in the unbounded sense leaves nothing for the guard to catch
  have hactivation : ∀ {room id frame ls t n result u},
      Executes disk say (fun _ _ => True) n id frame ls (t.enter id frame) (result, u) →
      activation disk say (guardedRuns (linesOn disk (fun _ => say) room)) id frame ls t =
        (result, u.leave id (t.interpreter id).depth) →
      guardedRuns (linesOn disk (fun _ => say) (room + 1)) id frame ls t =
        (result, u.leave id (t.interpreter id).depth) := by
    intro room id frame ls t n result u hexecutes hactivation
    have hlines : linesOn disk (fun _ => say) (room + 1) id frame ls t =
        (result, u.leave id (t.interpreter id).depth) := hactivation
    rw [guardedRuns_of_ne, hlines]
    rw [hlines]
    exact hexecutes.ne_exhausted hroom
  have hacting : Acting (s.enter id frame) id frame limit := .enter hid hlimit frame
  rw [← activeRuns_enter s id frame] at henough
  have hexecutes := executes_of_runners (n := n) hsay hwithin hactivation henough hacting ls
  have happly := activation_apply disk say (guardedRuns (linesOn disk (fun _ => say) room)) id frame
    ls s
  exact ⟨_, _, hactivation hexecutes happly, happly, hexecutes⟩

/-- On a stack with room for more activations than the limit, a run of an idle interpreter is what
it is without a bound on the stack. -/
theorem runOn_eq_run (hsay : ∀ text, Balanced (say text))
    (hroom : ∀ text, NeverExhausts (say text)) {stack : Nat} (hid : id < s.interpreters.size)
    (hidle : (s.interpreter id).activeRuns = 0)
    (hstack : max (s.interpreter id).config.depthLimit 0 < stack)
    (source : Text) (base : Path) (file : Option Text) :
    runOn disk (fun _ => say) stack id source base file s =
      run disk say id source base file s := by
  obtain ⟨script, t, hp, hc, hframe⟩ := prepare_apply id source base file s
  have hbooks : t.books = s.books := books_law.changes hc
  have hid' : id < t.interpreters.size := by rw [size_congr hbooks]; exact hid
  obtain ⟨room, rfl⟩ : ∃ room, stack = room + 1 := ⟨stack - 1, by omega⟩
  have hdepth : script.frame.depth = 0 := by simp [hframe, hidle]
  have henough : if ((t.beginRun id).interpreter id).activeRuns = 0
      then (s.interpreter id).config.depthLimit + max (s.interpreter id).config.depthLimit 0 ≤
        room + script.frame.depth
      else (s.interpreter id).config.depthLimit ≤ room + script.frame.depth := by
    rw [activeRuns_beginRun hid', if_neg (Nat.succ_ne_zero _)]
    omega
  have hlimit : ((t.beginRun id).interpreter id).config.depthLimit =
      (s.interpreter id).config.depthLimit := by
    rw [beginRun, interpreter_modifyInterpreter_self hid',
      config_eq_of_settings (settings_eq_of_books hbooks)]
  have hbegun : id < (t.beginRun id).interpreters.size :=
    (size_modifyInterpreter t id _).symm ▸ hid'
  obtain ⟨result, u, hlines, -, hexecutes⟩ :=
    executes_linesOn (n := 0) hsay hroom henough hbegun hlimit script.statements
  have hbounded : Runs disk say (fun _ _ => True) id source base file s
      (runOn disk (fun _ => say) (room + 1) id source base file s) := by
    have hrun : runOn disk (fun _ => say) (room + 1) id source base file s =
        runWith (guardedRuns (linesOn disk (fun _ => say) (room + 1))) id source base file s := rfl
    rw [hrun, runWith_congr hp hlines]
    exact .intro hp trivial hexecutes
  exact hbounded.unique (runs_run hsay hid hidle source base file)

/-- On a stack with room for as many activations as can be inside one another, a statement comes to
what it does without a bound on the stack. -/
theorem executeOn_eq_execute (hsay : ∀ text, Balanced (say text))
    (hroom : ∀ text, NeverExhausts (say text)) {stack : Nat} (hid : id < s.interpreters.size)
    (hstack : levelsFrom (s.interpreter id) 0 ≤ stack) (text : Text) (base : Path) :
    executeOn disk (fun _ => say) stack id text base s = execute disk say id text base s := by
  unfold levelsFrom at hstack
  obtain ⟨room, rfl⟩ : ∃ room, stack = room + 1 := ⟨stack - 1, by omega⟩
  have henough : if (s.interpreter id).activeRuns = 0
      then (s.interpreter id).config.depthLimit + max (s.interpreter id).config.depthLimit 0 ≤
        room + ({ base } : Frame).depth
      else (s.interpreter id).config.depthLimit ≤ room + ({ base } : Frame).depth := by
    change if _ then _ ≤ (room : Int) + 0 else _ ≤ (room : Int) + 0
    split
    · omega
    · omega
  obtain ⟨result, u, -, hlines, hexecutes⟩ :=
    executes_linesOn (n := 0) hsay hroom henough hid rfl [.ofStatement text]
  obtain ⟨result', u', hexecute, hexecutes'⟩ := executes_execute disk hsay hid text base
  cases hexecutes.unique hexecutes'
  rw [hexecute, ← hlines]
  unfold executeOn
  simp only [bind_apply, interpreter]
  split
  · refine guarded_of_ne ?_
    rw [hlines]
    exact hexecutes.ne_exhausted hroom
  · rfl

end Exec

namespace Session

variable {s : Session} {stack id : Nat}

theorem performOn_plain {α : Type} (disk : Disk) (operation : (Nat → Text → Exec Unit) → Exec α)
    (hplain : s.reactions = []) :
    s.performOn disk operation = operation (fun _ => Exec.say disk 0) s := by
  have hsay : Exec.sayOn disk 0 = fun _ => Exec.say disk 0 := funext fun _ => rfl
  simp only [performOn, hplain, List.length_nil, hsay]

/-- A stack with room for more activations than the limit suffices for a run of an idle
interpreter. -/
theorem runOn_eq_run (disk : Disk) (source : Text) (base : Path) (file : Option Text)
    (hplain : s.reactions = []) (hid : id < s.interpreters.size)
    (hidle : (s.interpreter id).activeRuns = 0)
    (hstack : max (s.interpreter id).config.depthLimit 0 < stack) :
    s.runOn stack disk id source base file = s.run disk id source base file := by
  rw [runOn, performOn_plain disk _ hplain, run_plain disk id source base file hplain]
  exact Exec.runOn_eq_run (Exec.within_say disk books_law 0)
    (fun _ => (Exec.calm_tell _).neverExhausts) hid hidle hstack source base file

theorem executeOn_eq_execute (disk : Disk) (text : Text) (base : Path)
    (hplain : s.reactions = []) (hid : id < s.interpreters.size)
    (hstack : Exec.levelsFrom (s.interpreter id) 0 ≤ stack) :
    s.executeOn stack disk id text base = s.execute disk id text base := by
  rw [executeOn, performOn_plain disk _ hplain, execute, perform_plain disk _ hplain]
  exact Exec.executeOn_eq_execute (Exec.within_say disk books_law 0)
    (fun _ => (Exec.calm_tell _).neverExhausts) hid hstack text base

end Session

end LineScript
