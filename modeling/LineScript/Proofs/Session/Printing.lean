import LineScript.Proofs.Session.Concatenation
import LineScript.Proofs.Session.Effect

/-! # What a script prints

`Prints` says which lines an operation shows on output, when it shows nothing else outside the debug
channel and reports nothing. It goes along with sequencing, so what a run prints is put together
from what its statements print. Windows and rejected headers are left out here: a script has to
consist of statements and functions.
-/

namespace LineScript

namespace Session

/-- From `s` to `t` the host was told to show the lines, and besides them got lines for the debug
channel only. No settings and no report changed, and the application did not react. -/
structure Prints (s t : Session) (shown : List Text) : Prop where
  told : ∃ notices, Told s t notices ∧ notices.filter (!·.isDebug) = shown.map .output
  kept : t.interpreters.map (fun i => (i.config, i.report)) =
    s.interpreters.map fun i => (i.config, i.report)
  reactions : t.reactions = s.reactions

/-- The run of a script returns without a diagnostic and prints the lines. -/
def RunPrints (s : Session) (disk : Disk) (id : Nat) (source : Text) (base : Path)
    (file : Option Text) (shown : List Text) : Prop :=
  ∃ result t, s.run disk id source base file = (.ok result, t) ∧ result.diagnostics = [] ∧
    s.Prints t shown

variable {s t u : Session} {id : Nat} {shown more : List Text}

namespace Prints

theorem trans (hst : Prints s t shown) (htu : Prints t u more) : Prints s u (shown ++ more) := by
  obtain ⟨first, hfirst, hshown⟩ := hst.told
  obtain ⟨second, hsecond, hmore⟩ := htu.told
  refine ⟨⟨first ++ second, hfirst.trans hsecond, ?_⟩, htu.kept.trans hst.kept,
    htu.reactions.trans hst.reactions⟩
  rw [List.filter_append, List.map_append, hshown, hmore]

theorem of_content (h : t.content = s.content) (hreactions : t.reactions = s.reactions) :
    Prints s t [] := by
  refine ⟨⟨[], .of_display (display_eq_of_content h), rfl⟩, ?_, hreactions⟩
  have hall := congrArg (fun content => content.interpreters.map fun i => (i.1, i.2.2)) h
  simpa [content, Interpreter.content, Function.comp_def] using hall

theorem interpreter_eq (h : Prints s t shown) (id : Nat) :
    (t.interpreter id).config = (s.interpreter id).config ∧
      (t.interpreter id).report = (s.interpreter id).report :=
  Prod.mk.inj (view_interpreter_congr (fun i => (i.config, i.report)) h.kept id)

theorem size_eq (h : Prints s t shown) : t.interpreters.size = s.interpreters.size := by
  simpa using congrArg Array.size h.kept

theorem isSome_host (h : Prints s t shown) : t.host.isSome = s.host.isSome := by
  obtain ⟨notices, htold, -⟩ := h.told
  simpa using congrArg Option.isSome htold.host

theorem enter (s : Session) (id : Nat) (frame : Frame) : Prints s (s.enter id frame) [] :=
  of_content (content_enter s id frame) rfl

theorem leave (s : Session) (id : Nat) (depth : Int) : Prints s (s.leave id depth) [] :=
  of_content (content_leave s id depth) rfl

theorem logged (s : Session) (channel : Channel) (text : Text) :
    Prints s (s.record (.logged channel text)) [] :=
  of_content (content_record s rfl) rfl

theorem modifyStore (s : Session) (id : Nat) (change : Store → Store) :
    Prints s (s.modifyInterpreter id fun i => { i with store := change i.store }) [] :=
  ⟨⟨[], .of_display rfl, rfl⟩, map_modifyInterpreter s id fun _ => rfl, rfl⟩

theorem output (hhost : s.host.isSome) (text : Text) :
    Prints s (s.tell (.output text)) [text] :=
  ⟨⟨_, told_tell_of_host hhost _, rfl⟩, by rw [interpreters_tell], reactions_tell s _⟩

theorem debug (hhost : s.host.isSome) (line : DebugLine) : Prints s (s.tell (.debug line)) [] :=
  ⟨⟨_, told_tell_of_host hhost _, rfl⟩, by rw [interpreters_tell], reactions_tell s _⟩

theorem traced_act (s : Session) (id : Nat) (frame : Frame) (line : Line) (action : Action) :
    Prints s ((s.traced id line).act id frame line action) [] := by
  have hkept := (modifyStore ((s.traced id line).record (.performed id frame line action)) id
    (·.after action)).kept
  refine ⟨⟨_, told_traced_act s id frame line action, filter_traceNotices s id line.text⟩, ?_,
    (Quiet.traced_act s id frame line action).reactions⟩
  rw [← interpreters_traced s id line]
  exact hkept

end Prints

end Session

theorem Store.value?_after_define (store : Store) (definition : Definition) (name value : Text)
    (size : Int) : (store.after (.define definition name value size)).value? name = some value := by
  simp [Store.after, Store.value?, Store.setVariable, Table.get?_put]

namespace Exec

open Session

variable {disk : Disk} {id : Nat} {frame : Frame} {line : Line} {s t : Session}

/-! ## Statements -/

/-- Printing a line that the application does not react to just shows it. -/
theorem say_unheard {text : Text} (hquiet : takeReaction? text s.reactions = none)
    (disk : Disk) (count : Nat) : say disk count text s = (.ok (), s.tell (.output text)) := by
  cases count with
  | zero => rfl
  | succ count =>
      simp only [say, Engine.say, bind_apply, tell, modify, get, reactions_tell, hquiet, ite_self]
      rfl

theorem prints_step_print {text : Text} (hhost : s.host.isSome)
    (hquiet : takeReaction? text s.reactions = none)
    (haction : s.actionOf id frame line = .print text) (disk : Disk) (count : Nat) :
    ∃ t, step disk (say disk count) id frame line s = (.ok none, t) ∧ Prints s t [text] := by
  have hacted := Prints.traced_act s id frame line (.print text)
  have hshown := Prints.output (hacted.isSome_host.trans hhost) text
  refine ⟨_, ?_, hacted.trans hshown⟩
  rw [step_apply, haction]
  simp only [perform, announce, bind_apply,
    say_unheard (by rw [hacted.reactions]; exact hquiet) disk count, pure_apply]

theorem prints_step_define {definition : Definition} {name value : Text} {size : Int}
    (hid : id < s.interpreters.size) (hhost : s.host.isSome)
    (haction : s.actionOf id frame line = .define definition name value size) (disk : Disk)
    (say : Text → Exec Unit) :
    ∃ t, step disk say id frame line s = (.ok none, t) ∧ Prints s t [] ∧
      (t.interpreter id).store.value? name = some value := by
  have hacted := Prints.traced_act s id frame line (.define definition name value size)
  have hshown := Prints.debug (hacted.isSome_host.trans hhost) (.defined definition name value)
  refine ⟨_, ?_, hacted.trans hshown, ?_⟩
  · rw [step_apply, haction]
    rfl
  · have htraced : id < ((s.traced id line).record (.performed id frame line
        (.define definition name value size))).interpreters.size := by
      rw [← interpreters_traced s id line] at hid
      exact hid
    rw [interpreter_tell, Session.act, interpreter_modifyInterpreter_self htraced]
    exact Store.value?_after_define _ definition name value size

/-! ## Scripts -/

theorem prints_addFunction (id : Nat) (routine : Routine) (s : Session) :
    ∃ t, addFunction id routine s = (.ok (), t) ∧ Prints s t [] := by
  unfold addFunction
  simp only [bind_apply, interpreter]
  split
  · exact ⟨_, rfl, (Prints.logged s _ _).trans (.modifyStore _ id (·.addFunction routine))⟩
  · exact ⟨_, rfl, .modifyStore s id (·.addFunction routine)⟩

theorem prints_takeSegment (id : Nat) (base : Path) {segment : Segment}
    (hwindow : segment.window? = none) (hproblem : segment.diagnostic? = none) (s : Session) :
    ∃ t, takeSegment id base segment s = (.ok none, t) ∧ Prints s t [] := by
  cases segment with
  | statement line => exact ⟨s, rfl, .of_content rfl rfl⟩
  | function header name body closing =>
      obtain ⟨t, ht, hprints⟩ :=
        prints_addFunction id { name, body, location := header.location } s
      refine ⟨t, ?_, hprints⟩
      simp only [takeSegment, bind_apply, ht]
      rfl
  | window header body closing => cases hwindow
  | inlineWindow header body => cases hwindow
  | rejected header problem => cases hproblem

theorem prints_takeSegments (id : Nat) (base : Path) {segments : List Segment}
    (h : ∀ segment ∈ segments, segment.window? = none ∧ segment.diagnostic? = none) (s : Session) :
    ∃ t, takeSegments id base segments s = (.ok [], t) ∧ Prints s t [] := by
  induction segments generalizing s with
  | nil => exact ⟨s, rfl, .of_content rfl rfl⟩
  | cons segment segments ih =>
      obtain ⟨⟨hwindow, hproblem⟩, hrest⟩ := List.forall_mem_cons.1 h
      obtain ⟨t, htaken, ht⟩ := prints_takeSegment id base hwindow hproblem s
      obtain ⟨u, htaken', hu⟩ := ih hrest t
      refine ⟨u, ?_, ht.trans hu⟩
      simp only [takeSegments, bind_apply, htaken, htaken', pure_apply]
      rfl

/-- Before its first statement, a script of statements and functions prints nothing. The
interpreter has taken its functions then. -/
theorem prints_prepare {source : Text} {file : Option Text} (hid : id < s.interpreters.size)
    (hhost : s.host.isSome)
    (h : ∀ segment ∈ Segment.ofLines (Line.scan source file),
      segment.window? = none ∧ segment.diagnostic? = none) (base : Path) :
    ∃ script t, prepare id source base file s = (.ok script, t) ∧ Prints s t [] ∧
      script.statements = (Segment.ofLines (Line.scan source file)).filterMap Segment.statement? ∧
      script.frame =
        { base, depth := if (s.interpreter id).activeRuns = 0 then 0
            else (s.interpreter id).depth + 1 } ∧
      script.first = (s.interpreter id).report.diagnostics.size ∧
      (t.interpreter id).store =
        ((Segment.ofLines (Line.scan source file)).foldl Interpreter.taking
          (s.interpreter id)).store := by
  obtain ⟨u, htaken, hu⟩ := prints_takeSegments id base h s
  obtain ⟨v, htaken', hv⟩ := takeSegments_apply hid base (Segment.ofLines (Line.scan source file))
  obtain ⟨-, rfl⟩ := Prod.mk.inj (htaken.symm.trans htaken')
  obtain ⟨script, text, hp, hstatements, hframe⟩ := prepare_taken htaken
  obtain ⟨script', t, hp', -, hfirst, -⟩ := prepare_takes hid source base file
  obtain ⟨hscript, -⟩ := Prod.mk.inj (hp.symm.trans hp')
  cases hscript
  have hlogged := hu.trans (.logged u .execution text)
  have hbanner := hlogged.trans (.debug (hlogged.isSome_host.trans hhost) .banner)
  refine ⟨script, _, hp, hbanner.trans (.of_content (content_beginRun _ id) rfl), hstatements,
    hframe, hfirst, ?_⟩
  have hbegun := interpreter_content_congr
    (content_beginRun ((u.record (.logged .execution text)).tell (.debug .banner)) id) id
  rw [interpreter_tell, interpreter_record, hv] at hbegun
  exact congrArg (·.2.1) hbegun

theorem run_prints {say : Text → Exec Unit} {source : Text} {base : Path} {file : Option Text}
    {script : Prepared} {u : Session} {shown : List Text}
    (hp : prepare id source base file s = (.ok script, t)) (hprepared : Prints s t [])
    (hfirst : script.first = (s.interpreter id).report.diagnostics.size)
    (hlines : each (executeLine disk say
      (lines disk say (2 * (s.interpreter id).config.depthLimit.toNat))
      id script.frame) script.statements (t.enter id script.frame) = (.ok (), u))
    (hshown : Prints (t.enter id script.frame) u shown) :
    ∃ result v, run disk say id source base file s = (.ok result, v) ∧ result.diagnostics = [] ∧
      Prints s v shown := by
  have hended : Prints s ((u.leave id (t.interpreter id).depth).endRun id) shown := by
    have hbody := (hprepared.trans (.enter t id script.frame)).trans hshown
    have hleft := (hbody.trans (.leave u id (t.interpreter id).depth)).trans
      (.of_content (content_endRun _ id) rfl)
    simpa using hleft
  refine ⟨script.result (((u.leave id (t.interpreter id).depth).endRun id).interpreter id), _, ?_,
    ?_, hended⟩
  · rw [run_apply hp, hlines]
    rfl
  · simp only [Prepared.result, (hended.interpreter_eq id).2, hfirst]
    simp

end Exec

end LineScript
