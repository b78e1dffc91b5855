import LineScript.Proofs.Session.Action
import LineScript.Proofs.Session.Refusal

/-! # The depth limit

A run that starts in an idle interpreter nests its activations no deeper than the limit of the
settings, whatever functions and external scripts call and include one another, also if scripts
replace functions that are executing. Depth travels on two ways: a call hands it on in its frame, an
external script reads it back from the interpreter. `Standing` says that the two agree.
-/

namespace LineScript

namespace Session

/-- Interpreter `id` executes statements in a frame: it is at the depth of the frame, and the host
knows that it is the one to act. -/
structure Acting (s : Session) (id : Nat) (frame : Frame) (limit : Int) : Prop where
  present : id < s.interpreters.size
  depth : (s.interpreter id).depth = frame.depth
  limit : (s.interpreter id).config.depthLimit = limit
  active : s.host.isSome → s.activeInterpreter = id

/-- Interpreter `id` executes statements in a frame as part of a run. -/
structure Standing (s : Session) (id : Nat) (frame : Frame) (limit : Int) : Prop
    extends Acting s id frame limit where
  running : (s.interpreter id).activeRuns ≠ 0

namespace Acting

variable {s t : Session} {id : Nat} {frame : Frame} {limit : Int}

theorem congr (h : t.books = s.books) (hs : Acting s id frame limit) :
    Acting t id frame limit := by
  have hi := interpreter_books_congr h id
  simp only [Interpreter.books, Prod.mk.injEq] at hi
  obtain ⟨hconfig, hdepth, -⟩ := hi
  refine ⟨?_, ?_, ?_, ?_⟩
  · rw [size_congr h]
    exact hs.present
  · rw [hdepth]
    exact hs.depth
  · rw [hconfig]
    exact hs.limit
  · intro hhost
    rw [activeInterpreter_congr h]
    apply hs.active
    have hx := congrArg Option.isSome (executing_congr h)
    simpa [hhost] using hx.symm

/-- Hosts that are there on both sides take the same interpreter to be executing. -/
theorem activeInterpreter_eq {other : Frame} {limit' : Int} (hs : Acting s id frame limit)
    (ht : Acting t id other limit') (hhost : t.host.isSome = s.host.isSome) :
    t.activeInterpreter = s.activeInterpreter := by
  cases hsome : s.host with
  | some host =>
      have hpresent : s.host.isSome := by simp [hsome]
      rw [hs.active hpresent, ht.active (hhost.trans hpresent)]
  | none =>
      have hnone : t.host = none := by simpa [hsome] using hhost
      simp [activeInterpreter, hsome, hnone]

theorem enter (hid : id < s.interpreters.size)
    (hlimit : (s.interpreter id).config.depthLimit = limit) (frame : Frame) :
    Acting (s.enter id frame) id frame limit := by
  have hi : (s.enter id frame).interpreter id = { s.interpreter id with depth := frame.depth } :=
    interpreter_modifyInterpreter_self hid fun i => { i with depth := frame.depth }
  refine ⟨?_, ?_, ?_, ?_⟩
  · exact (size_modifyInterpreter s id _).symm ▸ hid
  · rw [hi]
  · rw [hi]
    exact hlimit
  · intro _
    unfold Session.enter pushExecuting activeInterpreter
    cases hhost : s.host with
    | none => simp_all [Session.enter, pushExecuting, record, modifyInterpreter]
    | some host => simp [record, modifyInterpreter, hhost]

end Acting

theorem activeRuns_congr {s t : Session} (h : t.books = s.books) (id : Nat) :
    (t.interpreter id).activeRuns = (s.interpreter id).activeRuns :=
  congrArg (·.2.2) (interpreter_books_congr h id)

theorem activeRuns_enter (s : Session) (id : Nat) (frame : Frame) (other : Nat) :
    ((s.enter id frame).interpreter other).activeRuns = (s.interpreter other).activeRuns := by
  have hi : (s.enter id frame).interpreter other =
      (s.modifyInterpreter id fun i => { i with depth := frame.depth }).interpreter other := rfl
  rw [hi, interpreter_modifyInterpreter]
  split
  · rfl
  · rfl

theorem activeRuns_beginRun {s : Session} {id : Nat} (hid : id < s.interpreters.size) :
    ((s.beginRun id).interpreter id).activeRuns = (s.interpreter id).activeRuns + 1 := by
  rw [beginRun, interpreter_modifyInterpreter_self hid]

namespace Standing

variable {s t : Session} {id : Nat} {frame : Frame} {limit : Int}

theorem congr (h : t.books = s.books) (hs : Standing s id frame limit) :
    Standing t id frame limit where
  toActing := hs.toActing.congr h
  running := by
    rw [activeRuns_congr h]
    exact hs.running

theorem enter_beginRun (hid : id < s.interpreters.size)
    (hlimit : (s.interpreter id).config.depthLimit = limit) (frame : Frame) :
    Standing ((s.beginRun id).enter id frame) id frame limit where
  toActing := by
    have hbegun : (s.beginRun id).interpreter id =
        { s.interpreter id with activeRuns := (s.interpreter id).activeRuns + 1 } :=
      interpreter_modifyInterpreter_self hid _
    refine .enter ?_ ?_ frame
    · exact (size_modifyInterpreter s id _).symm ▸ hid
    · rw [hbegun]
      exact hlimit
  running := by
    rw [activeRuns_enter, activeRuns_beginRun hid]
    exact Nat.succ_ne_zero _

end Standing

end Session

namespace Exec

open Session

variable {disk : Disk} {say : Text → Exec Unit} {s t : Session}

/-! ## What a statement opens -/

theorem openScript_some {path : Text} {base : Path} {opening : Opening}
    (hsay : ∀ text, Balanced (say text))
    (h : openScript disk say path base s = (.ok (some opening), t)) :
    s.host.isSome ∧ opening.interpreter = s.activeInterpreter ∧ opening.script = some path ∧
      opening.frame.depth =
        (if (s.interpreter s.activeInterpreter).activeRuns = 0 then 0
          else (s.interpreter s.activeInterpreter).depth + 1) ∧
      ∃ u : Session, u.books = s.books ∧ t = u.beginRun opening.interpreter := by
  unfold openScript at h
  simp only [bind_apply, get] at h
  split at h
  · rename_i hhost
    obtain ⟨_, t₁, hrecord, h⟩ := bind_ok (x := record _) h
    obtain ⟨text, t₂, hread, h⟩ := bind_ok h
    have ht₂ : t₂.books = s.books := by
      rw [ofExcept_ok hread, ← (Prod.mk.inj hrecord).2]
      rfl
    cases text with
    | error reason =>
        obtain ⟨_, t₃, -, h⟩ := bind_ok h
        obtain ⟨_, t₄, -, h⟩ := bind_ok h
        obtain ⟨_, t₅, -, h⟩ := bind_ok h
        obtain ⟨_, t₆, -, h⟩ := bind_ok h
        simp at h
    | ok source =>
        obtain ⟨_, t₃, hbanner, h⟩ := bind_ok h
        have ht₃ : t₃.books = s.books := ((hsay _).books_eq hbanner).trans ht₂
        obtain ⟨script, u, hp, hc, hframe⟩ :=
          prepare_apply s.activeInterpreter source (base.join (.ofText path)).parent (some path) t₃
        simp only [bind_apply, hp, pure_apply, Prod.mk.injEq, Except.ok.injEq,
          Option.some.injEq] at h
        obtain ⟨rfl, rfl⟩ := h
        have hi := interpreter_books_congr ht₃ s.activeInterpreter
        simp only [Interpreter.books, Prod.mk.injEq] at hi
        refine ⟨hhost, rfl, rfl, ?_, u, (books_law.changes hc).trans ht₃, rfl⟩
        simp only [hframe, hi.2.1, hi.2.2]
  · simp at h

/-- Only calls and external scripts open activations. -/
theorem perform_some {id : Nat} {frame : Frame} {line : Line} {action : Action}
    {opening : Opening} (h : perform disk say id frame line action s = (.ok (some opening), t)) :
    (∃ name arguments, action = .call name arguments ∧
      openCall id name arguments frame s = (.ok opening, t)) ∨
    ∃ path, action = .external path ∧
      openScript disk say path frame.base s = (.ok (some opening), t) := by
  cases action with
  | call name arguments =>
      obtain ⟨opening', u, hcall, h⟩ := bind_ok h
      simp only [pure_apply, Prod.mk.injEq, Except.ok.injEq, Option.some.injEq] at h
      obtain ⟨rfl, rfl⟩ := h
      exact .inl ⟨name, arguments, rfl, hcall⟩
  | external path => exact .inr ⟨path, rfl, h⟩
  | _ =>
      simp only [perform] at h
      obtain ⟨_, u, -, h⟩ := bind_ok h
      simp at h

variable {id n : Nat} {limit : Int} {frame : Frame} {line : Line} {ls : List Line}
  {opening : Opening}

/-- How an activation that interpreter `id` opens lies below the frame of the statement that opens
it. An external script has begun its run by then; outside any run it starts again from the top. -/
inductive Below (s : Session) (id : Nat) (frame : Frame) (opening : Opening) : Session → Prop
  | call {t : Session} (hscript : opening.script = none)
      (hdepth : opening.frame.depth = frame.depth + 1) (hbooks : t.books = s.books) :
      Below s id frame opening t
  | script {path : Text} {u : Session} (hscript : opening.script = some path)
      (hdepth : opening.frame.depth =
        if (s.interpreter id).activeRuns = 0 then 0 else frame.depth + 1)
      (hbooks : u.books = s.books) : Below s id frame opening (u.beginRun id)

/-- What a statement opens is for its own interpreter, which acts in it once it enters. -/
theorem opens_of_acting (hsay : ∀ text, Balanced (say text)) (hs : Acting s id frame limit)
    (h : step disk say id frame line s = (.ok (some opening), t)) :
    frame.depth < limit ∧ opening.interpreter = id ∧ Below s id frame opening t ∧
      Acting (t.enter id opening.frame) id opening.frame limit := by
  have hbooks : ((s.traced id line).act id frame line (s.actionOf id frame line)).books =
      s.books := by
    rw [books_act, books_traced]
  have hs' := hs.congr hbooks
  rw [step_apply] at h
  rcases perform_some h with ⟨name, arguments, ha, hcall⟩ | ⟨path, ha, hscript⟩
  · have hdepth := (Action.of_eq_call ha).2
    rw [hs.limit] at hdepth
    obtain ⟨u, hu, hc⟩ := openCall_apply id name arguments frame
      ((s.traced id line).act id frame line (s.actionOf id frame line))
    obtain ⟨ho, rfl⟩ := Prod.mk.inj (hu.symm.trans hcall)
    cases ho
    have hu := (books_law.changes hc).trans hbooks
    have ht := hs.congr hu
    exact ⟨hdepth, rfl, .call rfl rfl hu, .enter ht.present ht.limit _⟩
  · have hdepth := (Action.of_eq_external ha).2
    rw [hs.limit] at hdepth
    obtain ⟨hhost, hi, hpath, hframe, u, hu, rfl⟩ := openScript_some hsay hscript
    -- the host runs the script for the interpreter that it takes to be executing, which is this one
    rw [hs'.active hhost] at hi hframe
    rw [hs'.depth, activeRuns_congr hbooks] at hframe
    have hu := hu.trans hbooks
    have ht := hs.congr hu
    rw [hi]
    exact ⟨hdepth, rfl, .script hpath hframe hu,
      (Standing.enter_beginRun ht.present ht.limit _).toActing⟩

/-- What a statement opens inside a run is one level deeper and within the limit, and its
interpreter stands in it once it enters. -/
theorem opens_of_standing (hsay : ∀ text, Balanced (say text))
    (hs : Standing s id frame limit)
    (h : step disk say id frame line s = (.ok (some opening), t)) :
    frame.depth < limit ∧ opening.interpreter = id ∧ opening.frame.depth = frame.depth + 1 ∧
      Standing (t.enter id opening.frame) id opening.frame limit := by
  obtain ⟨hlt, hi, hbelow, hacting⟩ := opens_of_acting hsay hs.toActing h
  cases hbelow with
  | call _ hdepth hbooks =>
      refine ⟨hlt, hi, hdepth, ⟨hacting, ?_⟩⟩
      rw [activeRuns_enter, activeRuns_congr hbooks]
      exact hs.running
  | @script path u _ hdepth hbooks =>
      rw [if_neg hs.running] at hdepth
      have hu := hs.toActing.congr hbooks
      exact ⟨hlt, hi, hdepth, .enter_beginRun hu.present hu.limit _⟩

/-! ## Enough levels -/

/-- A frame that `n` calls and external scripts lie around is at depth `n`, within the limit. Under
a negative limit nothing is opened, but a script is executed all the same. -/
def AtDepth (limit : Int) (n : Nat) (frame : Frame) : Prop :=
  frame.depth = n ∧ n ≤ max limit 0

/-- A runner executes the body of an opening in the unbounded sense. -/
def ExecutesBody (disk : Disk) (say : Text → Exec Unit) (visit : Nat → Frame → Prop)
    (runner : Runner) (n : Nat) (opening : Opening) (t : Session) : Prop :=
  ∃ result u,
    runner opening.interpreter opening.frame opening.lines t =
      (result, u.leave opening.interpreter (t.interpreter opening.interpreter).depth) ∧
    Executes disk say visit n opening.interpreter opening.frame opening.lines
      (t.enter opening.interpreter opening.frame) (result, u)

/-- Lines are executed in the unbounded sense if the runner does so for the bodies that they open.
The sessions between the lines meet an invariant that rests on the books. -/
theorem executes_of_bodies {runner : Runner} {visit : Nat → Frame → Prop} {I : Session → Prop}
    (hsay : ∀ text, Balanced (say text))
    (hrunner : ∀ id frame ls, Balanced (runner id frame ls))
    (hcongr : ∀ {s t : Session}, t.books = s.books → I s → I t)
    (hbodies : ∀ {line s t opening}, I s →
      step disk say id frame line s = (.ok (some opening), t) →
      visit (n + 1) opening.frame ∧ ExecutesBody disk say visit runner (n + 1) opening t)
    (hs : I s) (ls : List Line) :
    Executes disk say visit n id frame ls s
      (each (executeLine disk say runner id frame) ls s) := by
  induction ls generalizing s with
  | nil => exact .done
  | cons line ls ih =>
      have hkept := within_executeLine disk books_law hsay hrunner id frame line s
      rw [each_cons, bind_apply]
      cases hstep : step disk say id frame line s with
      | mk opened t =>
          cases opened with
          | error fault =>
              have hline : executeLine disk say runner id frame line s = (.error fault, t) := by
                simp only [executeLine, bind_apply, hstep]
              rw [hline]
              exact .fault hstep
          | ok opened =>
              cases opened with
              | none =>
                  have hline : executeLine disk say runner id frame line s = (.ok (), t) := by
                    simp only [executeLine, bind_apply, hstep, pure_apply]
                  rw [hline] at hkept ⊢
                  exact .plain hstep (ih (hcongr hkept hs))
              | some opening =>
                  -- only the outcome of the runner for this opening matters from here on
                  obtain ⟨hvisit, result, u, hrun, hbody⟩ := hbodies hs hstep
                  have hline : executeLine disk say runner id frame line s =
                      complete say (fun _ _ _ _ => (result, u.leave opening.interpreter
                        (t.interpreter opening.interpreter).depth)) opening t := by
                    simp only [executeLine, bind_apply, hstep]
                    exact complete_congr say hrun
                  rw [hline] at hkept ⊢
                  cases hend : complete say (fun _ _ _ _ => (result, u.leave opening.interpreter
                      (t.interpreter opening.interpreter).depth)) opening t with
                  | mk ended v =>
                      rw [hend] at hkept
                      cases ended with
                      | ok a => exact .nested hstep hvisit hbody hend (ih (hcongr hkept hs))
                      | error fault => exact .broken hstep hvisit hbody hend

/-- With as many levels as the limit is away, the bounded recursion executes lines in the unbounded
sense. -/
theorem executes_of_standing (hsay : ∀ text, Balanced (say text)) {levels : Nat}
    (henough : limit ≤ n + levels) (hdepth : frame.depth = n) (hs : Standing s id frame limit)
    (ls : List Line) :
    Executes disk say (AtDepth limit) n id frame ls s
      (each (executeLine disk say (lines disk say levels) id frame) ls s) := by
  induction levels generalizing n frame ls s with
  | zero =>
      -- the frame is at the limit, so nothing is opened in it
      refine executes_of_bodies hsay (within_lines disk books_law hsay 0) Standing.congr ?_ hs ls
      intro line s t opening hs hstep
      obtain ⟨hlt, -⟩ := opens_of_standing hsay hs hstep
      omega
  | succ levels ih =>
      refine executes_of_bodies hsay (within_lines disk books_law hsay (levels + 1)) Standing.congr
        ?_ hs ls
      intro line s t opening hs hstep
      obtain ⟨hlt, rfl, hdeeper, hstanding⟩ := opens_of_standing hsay hs hstep
      refine ⟨⟨by omega, by omega⟩, _, _, activation_apply disk say (lines disk say levels)
        opening.interpreter opening.frame opening.lines t, ?_⟩
      exact ih (by omega) (by omega) hstanding opening.lines

section Prepared

variable {source : Text} {base : Path} {file : Option Text} {script : Prepared}

theorem standing_of_prepare (hid : id < s.interpreters.size)
    (hp : prepare id source base file s = (.ok script, t)) :
    Standing (t.enter id script.frame) id script.frame (s.interpreter id).config.depthLimit := by
  obtain ⟨script', u, hp', hc, -⟩ := prepare_apply id source base file s
  obtain ⟨-, rfl⟩ := Prod.mk.inj (hp'.symm.trans hp)
  have hbooks : u.books = s.books := books_law.changes hc
  refine .enter_beginRun ?_ ?_ _
  · rw [size_congr hbooks]
    exact hid
  · rw [config_eq_of_settings (settings_eq_of_books hbooks)]

theorem executes_of_prepare (disk : Disk) (hsay : ∀ text, Balanced (say text))
    (hid : id < s.interpreters.size) (hidle : (s.interpreter id).activeRuns = 0)
    (hp : prepare id source base file s = (.ok script, t)) :
    Executes disk say (AtDepth (s.interpreter id).config.depthLimit) 0 id script.frame
      script.statements (t.enter id script.frame)
      (each (executeLine disk say (lines disk say (2 * (s.interpreter id).config.depthLimit.toNat))
        id script.frame) script.statements (t.enter id script.frame)) := by
  obtain ⟨script', u, hp', -, hframe⟩ := prepare_apply id source base file s
  obtain ⟨hscript, -⟩ := Prod.mk.inj (hp'.symm.trans hp)
  cases hscript
  exact executes_of_standing hsay (by omega) (by simp [hframe, hidle]) (standing_of_prepare hid hp)
    script.statements

end Prepared

/-- The run of an idle interpreter is a run in the unbounded sense, and stays within the limit. -/
theorem runs_run (hsay : ∀ text, Balanced (say text)) (hid : id < s.interpreters.size)
    (hidle : (s.interpreter id).activeRuns = 0) (source : Text) (base : Path)
    (file : Option Text) :
    Runs disk say (AtDepth (s.interpreter id).config.depthLimit) id source base file s
      (run disk say id source base file s) := by
  obtain ⟨script, t, hp, -, hframe⟩ := prepare_apply id source base file s
  have hdepth : script.frame.depth = (0 : Nat) := by simp [hframe, hidle]
  have hrun : run disk say id source base file s =
      runWith (activation disk say
        (lines disk say (2 * (s.interpreter id).config.depthLimit.toNat))) id
        source base file s := rfl
  rw [hrun, runWith_congr hp (activation_apply disk say _ id script.frame script.statements _)]
  exact .intro hp ⟨hdepth, Int.le_max_right _ _⟩ (executes_of_prepare disk hsay hid hidle hp)

end Exec

end LineScript
