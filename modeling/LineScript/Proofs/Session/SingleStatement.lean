import LineScript.Proofs.Script.Scan
import LineScript.Proofs.Session.Outcome

/-! # Statements outside a run

One statement can be executed without a run around it, as the button of a window does. The main
result compares this with the run of a script that holds just the statement. The two differ in one
thing: without a run around it, an external script starts again from the top, so that more nested
activations fit in below the depth limit.
-/

namespace LineScript

/-- The statement at a place belongs to an external script, or to a function that one calls. -/
def Place.InScript (p : Place) : Prop :=
  ∃ o ∈ p.around, o.script.isSome

namespace Exec

open Session

variable {disk : Disk} {say : Text → Exec Unit} {id n : Nat} {limit : Int} {frame : Frame}
  {s t : Session}

/-! ## Enough levels without a run -/

/-- Inside a run as many levels are enough as the limit is away. Outside any run, calls can go down
to the limit, and one external script can start again from the top. The runner of a level need only
do what an activation does that has the runner of the level below it, where this is an execution in
the unbounded sense. -/
theorem executes_of_runners (hsay : ∀ text, Balanced (say text)) {runner : Nat → Runner}
    (hbalanced : ∀ levels id frame ls, Balanced (runner levels id frame ls))
    (hactivation : ∀ {levels id frame ls t n result u},
      Executes disk say (fun _ _ => True) n id frame ls (t.enter id frame) (result, u) →
      activation disk say (runner levels) id frame ls t =
        (result, u.leave id (t.interpreter id).depth) →
      runner (levels + 1) id frame ls t = (result, u.leave id (t.interpreter id).depth))
    {levels : Nat}
    (henough : if (s.interpreter id).activeRuns = 0 then limit + max limit 0 ≤ levels + frame.depth
      else limit ≤ levels + frame.depth)
    (hs : Acting s id frame limit) (ls : List Line) :
    Executes disk say (fun _ _ => True) n id frame ls s
      (each (executeLine disk say (runner levels) id frame) ls s) := by
  induction levels generalizing n frame ls s with
  | zero =>
      -- the frame is at the limit, so nothing is opened in it
      refine executes_of_bodies hsay (hbalanced 0) Acting.congr ?_ hs ls
      intro line u t opening hu hstep
      obtain ⟨hlt, -⟩ := opens_of_acting hsay hu hstep
      split at henough <;> omega
  | succ levels ih =>
      have hcongr : ∀ {u v : Session}, v.books = u.books →
          Acting u id frame limit ∧
            (u.interpreter id).activeRuns = (s.interpreter id).activeRuns →
          Acting v id frame limit ∧
            (v.interpreter id).activeRuns = (s.interpreter id).activeRuns :=
        fun h hu => ⟨hu.1.congr h, (activeRuns_congr h id).trans hu.2⟩
      refine executes_of_bodies hsay (hbalanced (levels + 1)) hcongr ?_ ⟨hs, rfl⟩ ls
      rintro line u t opening ⟨hu, hruns⟩ hstep
      obtain ⟨hlt, rfl, hbelow, hacting⟩ := opens_of_acting hsay hu hstep
      have hdeeper : if ((t.enter opening.interpreter opening.frame).interpreter
            opening.interpreter).activeRuns = 0
          then limit + max limit 0 ≤ levels + opening.frame.depth
          else limit ≤ levels + opening.frame.depth := by
        rw [activeRuns_enter]
        cases hbelow with
        | call _ hdepth hbooks =>
            rw [activeRuns_congr hbooks, hruns, hdepth]
            split at henough
            · rename_i hidle
              rw [if_pos hidle]
              omega
            · rename_i hrunning
              rw [if_neg hrunning]
              omega
        | @script path v _ hdepth hbooks =>
            -- from the top at most `limit` levels are needed; outside any run that many are left
            rw [activeRuns_beginRun (hu.congr hbooks).present, if_neg (Nat.succ_ne_zero _), hdepth,
              hruns]
            split at henough
            · rename_i hidle
              rw [if_pos hidle]
              omega
            · rename_i hrunning
              rw [if_neg hrunning]
              omega
      have hbody := ih (n := n + 1) hdeeper hacting opening.lines
      exact ⟨trivial, _, _, hactivation hbody (activation_apply disk say _ _ _ _ t), hbody⟩

theorem executes_of_acting (hsay : ∀ text, Balanced (say text)) {levels : Nat}
    (henough : if (s.interpreter id).activeRuns = 0 then limit + max limit 0 ≤ levels + frame.depth
      else limit ≤ levels + frame.depth)
    (hs : Acting s id frame limit) (ls : List Line) :
    Executes disk say (fun _ _ => True) n id frame ls s
      (each (executeLine disk say (lines disk say levels) id frame) ls s) :=
  executes_of_runners hsay (within_lines disk books_law hsay) (fun _ h => h) henough hs ls

/-- Lines that an execution starts with, in whatever frame, are executed in the unbounded sense. -/
theorem executes_lines (disk : Disk) (hsay : ∀ text, Balanced (say text))
    (hid : id < s.interpreters.size) (frame : Frame) (ls : List Line) :
    ∃ result u,
      lines disk say (levelsFrom (s.interpreter id) frame.depth) id frame ls s =
        (result, u.leave id (s.interpreter id).depth) ∧
      Executes disk say (fun _ _ => True) 0 id frame ls (s.enter id frame) (result, u) := by
  have hlevels : levelsFrom (s.interpreter id) frame.depth =
      2 * (s.interpreter id).config.depthLimit.toNat + (-frame.depth).toNat + 1 := by
    unfold levelsFrom
    omega
  rw [hlevels]
  refine ⟨_, _, activation_apply disk say _ id _ _ s, ?_⟩
  refine executes_of_acting hsay ?_ (.enter hid rfl _) _
  split
  · omega
  · omega

theorem executes_execute (disk : Disk) (hsay : ∀ text, Balanced (say text))
    (hid : id < s.interpreters.size) (text : Text) (base : Path) :
    ∃ result u,
      execute disk say id text base s = (result, u.leave id (s.interpreter id).depth) ∧
      Executes disk say (fun _ _ => True) 0 id { base } [.ofStatement text] (s.enter id { base })
        (result, u) :=
  executes_lines disk hsay hid { base } [.ofStatement text]

/-! ## Side by side with a run -/

/-- How a run on one side goes with a statement outside any run on the other. Up to the first
external script both are equally deep. Inside it the second side, which started again from the top,
is not deeper than the first. -/
structure Offset (limit : Int) (around : List Opening) (id : Nat) (f : Frame) (s : Session)
    (g : Frame) (t : Session) : Prop where
  frame : f.Alike g
  run : Standing s id f limit
  alone : Acting t id g limit
  depth : f.depth = around.length
  side : ((∀ o ∈ around, o.script = none) ∧ (t.interpreter id).activeRuns = 0 ∧
      g.depth = f.depth) ∨
    (∃ o ∈ around, o.script.isSome) ∧ (t.interpreter id).activeRuns ≠ 0 ∧ g.depth ≤ f.depth

variable {f g : Frame} {around : List Opening}

theorem Offset.le (h : Offset limit around id f s g t) : g.depth ≤ f.depth := by
  rcases h.side with ⟨-, -, hdepth⟩ | ⟨-, -, hdepth⟩
  · omega
  · exact hdepth

/-- A statement does the same thing on both sides, unless the run refuses it for its depth inside an
external script. -/
theorem Offset.actionOf_eq {line line' : Line} (h : Offset limit around id f s g t)
    (houtcome : t.outcome = s.outcome) (htext : line'.text = line.text)
    (hfit : (∃ o ∈ around, o.script.isSome) →
      s.actionOf id f line ≠ .refuse (.depthExceeded limit)) :
    t.actionOf id g line' = s.actionOf id f line := by
  unfold actionOf at hfit ⊢
  rw [config_outcome_congr houtcome, store_outcome_congr houtcome, Action.of_ofLine_congr htext]
  refine Action.of_frame_congr (by rw [h.frame]) ?_
  intro hnests
  rcases h.side with ⟨-, -, hdepth⟩ | ⟨hscript, -, hdepth⟩
  · rw [hdepth]
  · -- the run is the deeper side here, so what it lets through is let through on both
    have hbelow : ¬ (s.interpreter id).config.depthLimit ≤ f.depth := by
      intro hlimit
      apply hfit hscript
      rw [Action.of_nests_at_limit hnests hlimit, h.run.limit]
    omega

theorem Offset.congr {s' t' : Session} (hs : s'.books = s.books) (ht : t'.books = t.books)
    (h : Offset limit around id f s g t) : Offset limit around id f s' g t' where
  frame := h.frame
  run := h.run.congr hs
  alone := h.alone.congr ht
  depth := h.depth
  side := by
    rw [activeRuns_congr ht]
    exact h.side

/-- The two sides go on together in the activations that they open. -/
theorem Offset.opened (hsay : ∀ text, Balanced (say text)) {line line' : Line} {s' t' : Session}
    {o o' : Opening} {kin : Line → Line → Prop} (h : Offset limit around id f s g t)
    (hstep : step disk say id f line s = (.ok (some o), s'))
    (hstep' : step disk say id g line' t = (.ok (some o'), t')) (ho : o.Alike kin o') :
    Offset limit (o :: around) o.interpreter o.frame (s'.enter o.interpreter o.frame) o'.frame
      (t'.enter o.interpreter o'.frame) := by
  obtain ⟨-, rfl, hdepth, hstanding⟩ := opens_of_standing hsay h.run hstep
  obtain ⟨-, -, hbelow, hacting⟩ := opens_of_acting hsay h.alone hstep'
  have hlength := h.depth
  refine ⟨ho.frame, hstanding, hacting, by simp; omega, ?_⟩
  rw [activeRuns_enter]
  cases hbelow with
  | call hscript hdepth' hbooks =>
      rw [ho.script] at hscript
      rw [activeRuns_congr hbooks]
      rcases h.side with ⟨hnone, hruns, hsame⟩ | ⟨⟨found, hmem, hsome⟩, hruns, hle⟩
      · refine .inl ⟨?_, hruns, by omega⟩
        intro p hp
        rcases List.mem_cons.1 hp with rfl | hp
        · exact hscript
        · exact hnone p hp
      · exact .inr ⟨⟨found, List.mem_cons_of_mem o hmem, hsome⟩, hruns, by omega⟩
  | @script path u hscript hdepth' hbooks =>
      rw [ho.script] at hscript
      -- a first script starts at depth 0, a later one just below a frame that is not the deeper one
      have hle := h.le
      refine .inr ⟨⟨o, List.mem_cons_self, by simp [hscript]⟩, ?_, ?_⟩
      · rw [activeRuns_beginRun (h.alone.congr hbooks).present]
        exact Nat.succ_ne_zero _
      · split at hdepth' <;> omega

theorem offset_lockstep (hsay : ∀ text, Balanced (say text)) :
    Lockstep disk say say (fun s t => t.outcome = s.outcome)
      (fun line line' => line'.text = line.text)
      (fun p => p.InScript → p.action ≠ .refuse (.depthExceeded limit)) (Offset limit) where
  base h := congrArg (·.base) h.frame
  active h houtcome := h.run.activeInterpreter_eq h.alone (host_outcome_congr houtcome)
  action h houtcome htext hfit := h.actionOf_eq houtcome htext hfit
  congr := Offset.congr
  opened := Offset.opened hsay

/-! ## The run of one statement -/

theorem ofLines_statement {line : Line}
    (hfunction : Segment.isFunctionHeader line.text.toList = false)
    (hwindow : Segment.isWindowHeader line.text.toList = false) :
    Segment.ofLines [line] = [.statement line] := by
  simp [Segment.ofLines, Segment.ofLinesAfter, Segment.starting, hfunction, hwindow]

/-- Before its statement is executed, the run of a script with just one statement shows nothing
outside the debug channel. -/
theorem prepare_statement {text : Text} {file : Option Text} {line : Line}
    (hid : id < s.interpreters.size) (hidle : (s.interpreter id).activeRuns = 0)
    (hsegments : Segment.ofLines (Line.scan text file) = [.statement line]) (base : Path) :
    ∃ script t, prepare id text base file s = (.ok script, t) ∧ script.frame = { base } ∧
      script.statements = [line] ∧ t.outcome = s.outcome ∧
      Standing (t.enter id { base }) id { base } (s.interpreter id).config.depthLimit := by
  have htaken : takeSegments id base [.statement line] s = (.ok [], s) := rfl
  unfold prepare
  simp only [bind_apply, interpreter, hsegments, htaken, hidle, if_true]
  refine ⟨_, _, rfl, rfl, rfl, ?_, ?_⟩
  · exact (outcome_eq_of_content (content_beginRun _ id)).trans
      ((outcome_debug _ _).trans (outcome_eq_of_content (content_record _ rfl)))
  · refine .enter_beginRun ?_ ?_ _
    · rw [interpreters_tell]
      exact hid
    · simp

/-- A statement that is executed at the start of a run and outside any run, in sessions with the
same outcome, ends in the same way and in sessions with the same outcome again. -/
theorem Executes.match_alone {visit visit' : Nat → Frame → Prop} {base : Path} {line line' : Line}
    {out out' : Except Fault Unit × Session} (hbalanced : ∀ text, Balanced (say text))
    (hsay : ∀ text, Matches (fun s t => t.outcome = s.outcome) Eq (say text) (say text))
    (hid : id < t.interpreters.size) (hidle : (t.interpreter id).activeRuns = 0)
    (hlimit : (t.interpreter id).config.depthLimit = limit) (houtcome : t.outcome = s.outcome)
    (hstanding : Standing (s.enter id { base }) id { base } limit)
    (htext : line'.text = line.text)
    (h : Executes disk say visit 0 id { base } [line] (s.enter id { base }) out)
    (h' : Executes disk say visit' 0 id { base } [line'] (t.enter id { base }) out')
    (hfit : ∀ p, Reaches disk say [] id { base } [line] (s.enter id { base }) p → p.InScript →
      p.action ≠ .refuse (.depthExceeded limit)) :
    Match (fun s t => t.outcome = s.outcome) Eq out out' := by
  have hoffset : Offset limit [] id { base } (s.enter id { base }) { base }
      (t.enter id { base }) := by
    refine ⟨rfl, hstanding, .enter hid hlimit _, rfl, .inl ⟨by simp, ?_, rfl⟩⟩
    rw [activeRuns_enter]
    exact hidle
  have hentered : (t.enter id { base }).outcome = (s.enter id { base }).outcome :=
    outcome_coupling.entered id _ _ houtcome
  exact Executes.lockstep outcome_coupling hsay (offset_lockstep hbalanced) hbalanced hbalanced h h'
    rfl hoffset hentered (.cons htext .nil) hfit

end Exec

open Exec in
/-- A statement that is executed outside any run comes to the same as the run of a script that holds
just this statement, as long as the run refuses no statement of an external script for its depth.
Both return, or break off with the same fault; they print the same lines, open and update the same
windows, leave the same variables, sizes, functions and budget, and report the same, apart from the
places that diagnostics name. What goes to the debug channel differs: the run announces itself. -/
theorem execute_agrees_with_run (s : Session) (disk : Disk) (id : Nat) (text : Text) (base : Path)
    (file : Option Text) (line : Line) (hid : id < s.interpreters.size)
    (hidle : (s.interpreter id).activeRuns = 0) (hplain : s.reactions = [])
    (hscan : Line.scan text file = [line])
    (hfunction : Segment.isFunctionHeader line.text.toList = false)
    (hwindow : Segment.isWindowHeader line.text.toList = false)
    (hdepth : ∀ p, s.Reaches disk id text base file p → p.InScript →
      p.action ≠ .refuse (.depthExceeded (s.interpreter id).config.depthLimit)) :
    let executed := s.execute disk id text base
    let ran := s.run disk id text base file
    executed.1 = ran.1.map (fun _ => ()) ∧ executed.2.outcome = ran.2.outcome ∧
      ∀ other, (executed.2.interpreter other).report.codes =
        (ran.2.interpreter other).report.codes := by
  intro executed ran
  have hreactions : s.reactions.length = 0 := by simp [hplain]
  have hbalanced : ∀ text, Balanced (Exec.say disk s.reactions.length text) :=
    within_say disk Session.books_law _
  have hsay : ∀ text, Matches (fun s t => t.outcome = s.outcome) Eq
      (Exec.say disk s.reactions.length text) (Exec.say disk s.reactions.length text) := by
    rw [hreactions]
    exact fun text => matches_tell Session.outcome_coupling _
  have hsegments : Segment.ofLines (Line.scan text file) = [.statement line] := by
    rw [hscan]
    exact ofLines_statement hfunction hwindow
  obtain ⟨script, t, hp, hframe, hstatements, houtcome, hstanding⟩ :=
    prepare_statement hid hidle hsegments base
  obtain ⟨result', u', hexecuted, alone⟩ := executes_execute disk hbalanced hid text base
  have hruns : Runs disk (Exec.say disk s.reactions.length)
      (AtDepth (s.interpreter id).config.depthLimit) id text base file s ran :=
    runs_run hbalanced hid hidle text base file
  generalize ran = out at hruns
  cases hruns with
  | @intro script' t' result u hp' _ body =>
      obtain ⟨hscript, rfl⟩ := Prod.mk.inj (hp.symm.trans hp')
      cases hscript
      rw [hframe, hstatements] at body
      have hfit : ∀ p, Reaches disk (Exec.say disk s.reactions.length) [] id { base } [line]
          (t.enter id { base }) p → p.InScript →
          p.action ≠ .refuse (.depthExceeded (s.interpreter id).config.depthLimit) := by
        intro p hreached
        refine hdepth p ⟨script, t, hp, ?_⟩
        rw [hframe, hstatements]
        exact hreached
      have hmatch := body.match_alone hbalanced hsay hid hidle rfl houtcome.symm hstanding
        (Line.text_of_scan hscan).symm alone hfit
      have houtcome : (u'.leave id (s.interpreter id).depth).outcome =
          ((u.leave id (t.interpreter id).depth).endRun id).outcome := by
        rw [Session.outcome_eq_of_content (Session.content_endRun _ id)]
        exact Session.outcome_coupling.left id _ _ hmatch.sessions
      rw [show executed = _ from hexecuted, runWith_outcome hp]
      refine ⟨?_, houtcome, Session.codes_outcome_congr houtcome⟩
      cases hmatch with
      | ok _ _ => rfl
      | error _ => rfl

/-- A window's button runs a script file that calls a function and asks for a variable that is not
there. Two levels are enough for both. -/
theorem execute_agrees_with_run_of_script :
    let disk : Disk := { Disk.blank with read := fun _ => .ok "call f\nprint @x".toUTF8.toList }
    let f : Routine := { name := "f", body := [.ofStatement "print \"in f\""], location := {} }
    let s : Session :=
      { host := some { surface := .buffer {} }
        interpreters :=
          #[{ config := { maxCallDepth := 2 }, store := ({} : Store).addFunction f }] }
    let line : Line :=
      { text := "@EXTERNAL RUN a", location := { line := some 1 }, sourceLine := some 1 }
    let executed := s.execute disk 0 "@EXTERNAL RUN a" {}
    let ran := s.run disk 0 "@EXTERNAL RUN a" {} none
    (0 < s.interpreters.size ∧ (s.interpreter 0).activeRuns = 0 ∧ s.reactions = [] ∧
      Line.scan "@EXTERNAL RUN a" none = [line] ∧
      Segment.isFunctionHeader line.text.toList = false ∧
      Segment.isWindowHeader line.text.toList = false ∧
      ∀ p, s.Reaches disk 0 "@EXTERNAL RUN a" {} none p → p.InScript →
        p.action ≠ .refuse (.depthExceeded (s.interpreter 0).config.depthLimit)) ∧
    executed.2.outcome = ran.2.outcome ∧ (executed.2.interpreter 0).report.codes = ["E301"] := by
  intro disk f s line
  have hid : 0 < s.interpreters.size := by decide
  have hidle : (s.interpreter 0).activeRuns = 0 := by decide
  have hscan : Line.scan "@EXTERNAL RUN a" none = [line] := by decide +kernel
  have hdepth : ∀ p, s.Reaches disk 0 "@EXTERNAL RUN a" {} none p → p.InScript →
      p.action ≠ .refuse (.depthExceeded (s.interpreter 0).config.depthLimit) := by
    intro p hp _ haction
    -- no statement on record was refused for its depth
    have hnone : .refuse (.depthExceeded (s.interpreter 0).config.depthLimit) ∉
        (s.run disk 0 "@EXTERNAL RUN a" {} none).2.actions 0 := by decide +kernel
    have hbalanced := Exec.within_say disk Session.books_law s.reactions.length
    have hruns : Exec.Runs disk (Exec.say disk s.reactions.length)
        (Exec.AtDepth (s.interpreter 0).config.depthLimit) 0 "@EXTERNAL RUN a" {} none s
        (s.run disk 0 "@EXTERNAL RUN a" {} none) :=
      Exec.runs_run hbalanced hid hidle "@EXTERNAL RUN a" {} none
    have hmem := Exec.RunReaches.mem_actions hbalanced (Exec.within_say disk Session.adds_law _) hid
      hp hruns
    rw [haction] at hmem
    exact hnone hmem
  obtain ⟨-, houtcome, -⟩ := execute_agrees_with_run s disk 0 "@EXTERNAL RUN a" {} none line hid
    hidle rfl hscan (by decide) (by decide) hdepth
  exact ⟨⟨hid, hidle, rfl, hscan, by decide, by decide, hdepth⟩, houtcome, by decide +kernel⟩

/-- With a limit of one, the run refuses the call in the script file, since that is one level below
the statement. Without a run around it the statement lets the call through. -/
theorem execute_nests_deeper_than_run :
    let disk : Disk := { Disk.blank with read := fun _ => .ok "call f".toUTF8.toList }
    let f : Routine := { name := "f", body := [.ofStatement "print \"in f\""], location := {} }
    let s : Session :=
      { host := some { surface := .buffer {} }
        interpreters :=
          #[{ config := { maxCallDepth := 1 }, store := ({} : Store).addFunction f }] }
    let executed := s.execute disk 0 "@EXTERNAL RUN a" {}
    let ran := s.run disk 0 "@EXTERNAL RUN a" {} none
    (executed.2.interpreter 0).report.codes = [] ∧ .output "in f" ∈ executed.2.notices ∧
      (ran.2.interpreter 0).report.codes = ["E303"] ∧ .output "in f" ∉ ran.2.notices := by
  decide +kernel

end LineScript
