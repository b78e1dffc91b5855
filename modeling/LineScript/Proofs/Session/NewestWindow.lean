import LineScript.Proofs.Session.HostIndependence
import LineScript.Proofs.Session.Announcement
import LineScript.Proofs.Session.Bracketing
import LineScript.Proofs.Session.Directory

/-! # Updates reach the newest window

Windows open in structural passes and are updated by statements, which may be those of scripts, of
functions, of external scripts and of buttons, in any order. What the windows of a host show comes
from the openings and updates on record: an update belongs to the last window that was opened before
it. The invariant is that the host is told of an update right when the statement is performed.
-/

namespace LineScript

open Exec Session

/-! ## Openings and updates -/

/-- What becomes of the windows of a host: one is opened, or the newest gets one more line. -/
inductive WindowStep where
  | opened (w : OpenWindow)
  | updated (text : Text)
  deriving DecidableEq, Repr

namespace OpenWindow

/-- A window with lines under its content. -/
def extended (w : OpenWindow) (texts : List Text) : OpenWindow :=
  { w with
    window := { w.window with
      content := Text.intercalate "\n" (w.window.content :: texts) } }

theorem extended_nil (w : OpenWindow) : w.extended [] = w := by
  simp [extended]

theorem extended_extend (w : OpenWindow) (text : Text) (texts : List Text) :
    (w.extend text).extended texts = w.extended (text :: texts) := by
  cases texts with
  | nil => simp [extended, extend, Text.intercalate_cons_cons]
  | cons next texts => simp [extended, extend, Text.intercalate_cons_cons, Text.append_assoc]

end OpenWindow

/-- A window that was opened, and the updates from then on until the next one was opened. -/
structure Chapter where
  opened : OpenWindow
  updates : List Text
  deriving DecidableEq, Repr

namespace Chapter

def steps (c : Chapter) : List WindowStep :=
  .opened c.opened :: c.updates.map .updated

def window (c : Chapter) : OpenWindow :=
  c.opened.extended c.updates

end Chapter

def Notice.windowStep? : Notice → Option WindowStep
  | .opened w => some (.opened w)
  | .updated text => some (.updated text)
  | _ => none

/-- An event in the life of the windows: the host is told of one that opens, or a statement is
performed that updates the newest. -/
def Event.windowStep? : Event → Option WindowStep
  | .told (.opened w) => some (.opened w)
  | .performed _ _ _ (.update text) => some (.updated text)
  | _ => none

def Session.windowSteps (s : Session) : List WindowStep :=
  s.transcript.toList.filterMap Event.windowStep?

namespace Host

def afterStep (windows : Array OpenWindow) : WindowStep → Array OpenWindow
  | .opened w => windows.push w
  | .updated text => windows.modify (windows.size - 1) (·.extend text)

/-- Only openings and updates matter for the windows. -/
theorem foldl_windowsAfter (windows : Array OpenWindow) (notices : List Notice) :
    notices.foldl windowsAfter windows =
      (notices.filterMap Notice.windowStep?).foldl afterStep windows := by
  induction notices generalizing windows with
  | nil => rfl
  | cons notice notices ih =>
      rw [List.foldl_cons, ih]
      cases notice <;> rfl

def extendNewest (windows : Array OpenWindow) (texts : List Text) : Array OpenWindow :=
  windows.modify (windows.size - 1) (·.extended texts)

theorem extendNewest_nil (windows : Array OpenWindow) : extendNewest windows [] = windows := by
  apply Array.ext_getElem?
  intro k
  simp only [extendNewest, Array.getElem?_modify, OpenWindow.extended_nil]
  split <;> simp

theorem extendNewest_cons (windows : Array OpenWindow) (text : Text) (texts : List Text) :
    extendNewest (afterStep windows (.updated text)) texts =
      extendNewest windows (text :: texts) := by
  apply Array.ext_getElem?
  intro k
  simp only [extendNewest, afterStep, Array.getElem?_modify, Array.size_modify,
    ← OpenWindow.extended_extend]
  split <;> simp [Function.comp_def]

theorem extendNewest_push (windows : Array OpenWindow) (w : OpenWindow) (texts : List Text) :
    extendNewest (afterStep windows (.opened w)) texts = windows.push (w.extended texts) := by
  apply Array.ext_getElem?
  intro k
  simp only [extendNewest, afterStep, Array.getElem?_modify, Array.size_push, Nat.add_sub_cancel,
    Array.getElem?_push]
  split <;> simp_all [eq_comm]

theorem getElem?_extendNewest {windows : Array OpenWindow} {k : Nat} {w : OpenWindow}
    (h : windows[k]? = some w) (texts : List Text) :
    (extendNewest windows texts)[k]? =
      some (if k + 1 = windows.size then w.extended texts else w) := by
  have hk := (Array.getElem?_eq_some_iff.1 h).1
  have hlast : windows.size - 1 = k ↔ k + 1 = windows.size := by omega
  simp only [extendNewest, Array.getElem?_modify, h, hlast]
  split <;> rfl

/-- What a list of steps makes of the windows: the updates that come first go to the newest of them,
and each opening begins a chapter. -/
theorem foldl_afterStep (windows : Array OpenWindow) (steps : List WindowStep) :
    ∃ (texts : List Text) (chapters : List Chapter),
      steps = texts.map .updated ++ chapters.flatMap Chapter.steps ∧
      steps.foldl afterStep windows =
        extendNewest windows texts ++ (chapters.map Chapter.window).toArray := by
  induction steps generalizing windows with
  | nil => exact ⟨[], [], rfl, by simp [extendNewest_nil]⟩
  | cons step steps ih =>
      obtain ⟨texts, chapters, hsteps, hwindows⟩ := ih (afterStep windows step)
      rw [List.foldl_cons, hwindows]
      cases step with
      | opened w =>
          refine ⟨[], ⟨w, texts⟩ :: chapters, by simp [hsteps, Chapter.steps], ?_⟩
          rw [extendNewest_push, extendNewest_nil]
          apply Array.ext'
          simp [Chapter.window]
      | updated text =>
          refine ⟨text :: texts, chapters, by simp [hsteps], ?_⟩
          rw [extendNewest_cons]

end Host

/-! ## Statements that update -/

namespace Event

/-- The event is an opening or an update if it is one for the host. -/
def TellsWindowStep (event : Event) : Prop :=
  event.windowStep? = event.notice?.bind Notice.windowStep?

theorem tellsWindowStep_of_isStructural {event : Event} (h : event.isStructural = true) :
    event.TellsWindowStep := by
  cases event with
  | told notice => cases notice <;> first | rfl | cases h
  | logged channel text => rfl
  | _ => cases h

theorem tellsWindowStep_performed (id : Nat) (frame : Frame) (line : Line) {action : Action}
    (h : ∀ text, action ≠ .update text) : (performed id frame line action).TellsWindowStep := by
  cases action with
  | update text => exact absurd rfl (h text)
  | _ => rfl

end Event

namespace Session

/-- From `s` to `t` the host was told of every update that was performed, at its place among the
openings, and of no other. -/
def UpdatesTold (s t : Session) : Prop :=
  ∃ events, Records s t events ∧ events.filterMap Event.windowStep? =
    (events.filterMap Event.notice?).filterMap Notice.windowStep?

namespace UpdatesTold

variable {s t u : Session}

theorem of_events {events : List Event} (h : Records s t events)
    (hevents : ∀ event ∈ events, event.TellsWindowStep) : UpdatesTold s t := by
  refine ⟨events, h, ?_⟩
  rw [List.filterMap_filterMap]
  exact List.filterMap_congr hevents

theorem refl (s : Session) : UpdatesTold s s :=
  of_events (.refl s) (by simp)

theorem trans (hst : UpdatesTold s t) (htu : UpdatesTold t u) : UpdatesTold s u := by
  obtain ⟨events, hevents, hsteps⟩ := hst
  obtain ⟨more, hmore, hsteps'⟩ := htu
  refine ⟨events ++ more, hevents.trans hmore, ?_⟩
  simp only [List.filterMap_append, hsteps, hsteps']

theorem of_eq (hhost : t.host.isSome = s.host.isSome) (htranscript : t.transcript = s.transcript) :
    UpdatesTold s t :=
  of_events (.of_eq hhost htranscript) (by simp)

theorem record (s : Session) (event : Event) (h : event.TellsWindowStep) :
    UpdatesTold s (s.record event) :=
  of_events (.record s event) (by simpa using h)

theorem tell (s : Session) {notice : Notice} (h : (Event.told notice).TellsWindowStep) :
    UpdatesTold s (s.tell notice) :=
  of_events (.tell s notice) (by simpa using h)

theorem noted (h : Noted s t) : UpdatesTold s t := by
  cases h with
  | same => exact refl s
  | logged channel text => exact record s (.logged channel text) rfl

theorem report (s : Session) (id : Nat) (d : Diagnostic) :
    UpdatesTold s (Exec.report id d s).2 := by
  have hadded : UpdatesTold s
    (s.modifyInterpreter id fun i => { i with report := i.report.add d }) :=
    of_eq rfl rfl
  exact (hadded.trans (record _ (.logged .execution (d.format false)) rfl)).trans (tell _ rfl)

theorem traced (s : Session) (id : Nat) (line : Line) : UpdatesTold s (s.traced id line) := by
  unfold Session.traced
  split
  · exact tell s rfl
  · exact refl s

theorem said (s : Session) (text : Text) : UpdatesTold s (s.tell (.output text)) :=
  tell s rfl

theorem announcing (s : Session) (path : Text) (resolved : Path) :
    UpdatesTold s (Exec.announcing s path resolved) :=
  (record s (.sought resolved) rfl).trans (said _ _)

theorem lacking (s : Session) (path : Text) (resolved : Path) (reason : Unreadable) :
    UpdatesTold s (Exec.lacking s path resolved reason) := by
  have hlogged := (record s (.sought resolved) rfl).trans
    (record _ (.logged .host ("External script " ++ resolved.text ++
      s!" unreadable: {reason.message}")) rfl)
  exact (hlogged.trans (said _ _)).trans (said _ _)

theorem prepare (id : Nat) (source : Text) (base : Path) (file : Option Text) :
    Within UpdatesTold (prepare id source base file) := by
  intro s
  obtain ⟨events, hevents, hstructural⟩ := structural_prepare id source base file s
  have hhost := (serves_prepare id source base file s).served.host
  exact of_events ⟨hhost, fun _ => hevents⟩ fun event hmem =>
    Event.tellsWindowStep_of_isStructural (hstructural event hmem)

end UpdatesTold

end Session

namespace Exec

variable {disk : Disk} {say : Text → Exec Unit} {id : Nat} {frame : Frame} {line : Line}
  {s : Session} {text : Text}

/-- A statement that updates tells the host of it, and does nothing else. -/
theorem step_update (haction : s.actionOf id frame line = .update text) :
    step disk say id frame line s =
      (.ok none, ((s.traced id line).act id frame line (.update text)).tell (.updated text)) := by
  rw [step_apply, haction]
  rfl

theorem updatesTold_carried {action : Action} {out : Except Fault (Option Opening) × Session}
    (h : Carried disk id frame line s action out) (hupdate : ∀ text, action ≠ .update text) :
    UpdatesTold s out.2 := by
  cases h with
  | skipped => exact .refl s
  | told hnotice =>
      refine .tell s ?_
      cases action with
      | update text => exact absurd rfl (hupdate text)
      | _ => cases hnotice <;> rfl
  | reported hd hnoted => exact (UpdatesTold.noted hnoted).trans (.report _ id _)
  | failed hlocal hnoted => exact .noted hnoted
  | called hnoted => exact .noted hnoted
  | unhosted hhost => exact .refl s
  | unaskable hhost hresolved hread => exact .record s (.sought _) rfl
  | unreadable hhost hresolved hread => exact (UpdatesTold.lacking s _ _ _).trans (.report _ id _)
  | @ran path source resolved _ _ hhost hresolved hread hprepared =>
      have hprepare :=
        UpdatesTold.prepare id source resolved.parent (some path) (announcing s path resolved)
      rw [hprepared] at hprepare
      exact (UpdatesTold.announcing s path resolved).trans hprepare

theorem updatesTold_step (hturn : s.Turn id) (frame : Frame) (line : Line) :
    UpdatesTold s (step disk (Exec.say disk 0) id frame line s).2 := by
  refine (UpdatesTold.traced s id line).trans ?_
  by_cases hupdate : ∃ text, s.actionOf id frame line = .update text
  · obtain ⟨text, haction⟩ := hupdate
    rw [step_update haction]
    exact ⟨_, (records_act _ id frame line (.update text)).trans (.tell _ _), rfl⟩
  · have hother : ∀ text, s.actionOf id frame line ≠ .update text :=
      fun text haction => hupdate ⟨text, haction⟩
    have hacted : UpdatesTold (s.traced id line)
        ((s.traced id line).act id frame line (s.actionOf id frame line)) := by
      refine .of_events (records_act _ id frame line _) fun event hmem => ?_
      rw [List.mem_singleton.1 hmem]
      exact Event.tellsWindowStep_performed id frame line hother
    exact hacted.trans (updatesTold_carried (step_carried fun _ _ => hturn) hother)

/-- Updates are told however deeply calls and external scripts are nested. -/
theorem updatesTold_executionRelation (disk : Disk) (id : Nat) : ExecutionRelation disk
    (Exec.say disk 0) id UpdatesTold where
  refl := .refl
  trans := .trans
  prepare := UpdatesTold.prepare id
  printed text s := .said s text
  step hturn frame line := updatesTold_step hturn frame line
  enter s frame := ⟨_, .enter s id frame, rfl⟩
  leave s depth := ⟨_, .leave s id depth, rfl⟩
  endRun _ := .of_eq rfl rfl

end Exec

namespace Session

variable {s t : Session}

theorem Records.windowSteps_eq {events : List Event} (h : Records s t events)
    (hhost : s.host.isSome) :
    t.windowSteps = s.windowSteps ++ events.filterMap Event.windowStep? := by
  rw [windowSteps, h.transcript hhost, List.filterMap_append]
  rfl

/-- The windows come from the openings and updates that were added. -/
theorem UpdatesTold.windows_eq (h : UpdatesTold s t) (htold : ∃ told, Told s t told)
    (hhost : s.host.isSome) :
    ∃ steps, t.windowSteps = s.windowSteps ++ steps ∧
      t.windows = steps.foldl Host.afterStep s.windows := by
  obtain ⟨events, hevents, hsteps⟩ := h
  have hnotices : t.notices = s.notices ++ events.filterMap Event.notice? := by
    rw [notices, hevents.transcript hhost, List.filterMap_append]
    rfl
  refine ⟨events.filterMap Event.windowStep?, hevents.windowSteps_eq hhost, ?_⟩
  rw [(Told.of_notices htold hnotices).windows_eq hhost, Host.foldl_windowsAfter, hsteps]

theorem updatesTold_operate (hplain : s.reactions = []) (disk : Disk) (operation : Operation) :
    UpdatesTold s (s.operate disk operation) := by
  have hexecute : ∀ id text base, UpdatesTold s (s.execute disk id text base).2 := by
    intro id text base
    rw [show s.execute disk id text base = _ from perform_plain disk _ hplain]
    exact (updatesTold_executionRelation disk id).execute (ScriptRun.runs_say disk) text base s
  cases operation with
  | add config => exact .of_eq rfl rfl
  | run id source base file =>
      change UpdatesTold s (s.run disk id source base file).2
      rw [run_plain disk id source base file hplain]
      exact (updatesTold_executionRelation disk id).run (ScriptRun.runs_say disk) source base file s
  | execute id text base => exact hexecute id text base
  | press index =>
      rw [operate_eq]
      rcases Engine.operate_press (Exec.engine disk _) s index with
        hsame | ⟨w, button, -, -, hpressed⟩
      · rw [hsame]
        exact .refl s
      · rw [hpressed]
        exact hexecute _ _ _

theorem told_operate (s : Session) (disk : Disk) (operation : Operation) :
    ∃ told, Told s (s.operate disk operation) told :=
  told_law.operate (fun _ _ => ⟨[], .of_display rfl⟩) s disk operation

theorem Hosted.windows_operate (hs : s.Hosted) (disk : Disk) (operation : Operation) :
    ∃ steps, (s.operate disk operation).windowSteps = s.windowSteps ++ steps ∧
      (s.operate disk operation).windows = steps.foldl Host.afterStep s.windows :=
  (updatesTold_operate hs.plain disk operation).windows_eq (told_operate s disk operation) hs.host

theorem Operated.windows_eq {surface : Surface} (h : Operated surface s) :
    s.windows = s.windowSteps.foldl Host.afterStep #[] := by
  induction h with
  | start => rfl
  | next hpast disk operation hsuits ih =>
      obtain ⟨steps, hsteps, hwindows⟩ := hpast.hosted.windows_operate disk operation
      rw [hwindows, hsteps, List.foldl_append, ih]

end Session

/-! ## Statements that update, as they are written -/

structure Statement.Updates (statement : Statement) (text : Text) : Prop where
  command : statement.command = .updateWindow
  window : statement.word? 1 = some ("WINDOW" : Text)
  text : Window.updateText? statement.text = some text

namespace Action

variable {config : Config} {frame : Frame} {store : Store} {statement : Statement} {text : Text}

theorem ofUpdate_eq_update (hcommand : statement.command = .updateWindow) :
    ofUpdate statement = .update text ↔ statement.Updates text := by
  unfold ofUpdate
  constructor
  · intro h
    split at h
    · rename_i hwindow
      split at h
      · rename_i found hfound
        cases h
        exact ⟨hcommand, hwindow, hfound⟩
      · cases h
    · cases h
  · rintro ⟨-, hwindow, htext⟩
    rw [if_pos hwindow, htext]

/-- An update directive that is not written as it has to be is refused. -/
theorem ofUpdate_refuses (hcommand : statement.command = .updateWindow)
    (h : ∀ text, ¬ statement.Updates text) : ofUpdate statement = .refuse .malformedUpdate := by
  simp only [← ofUpdate_eq_update hcommand] at h
  unfold ofUpdate at h ⊢
  split
  · split
    · simp_all
    · rfl
  · rfl

theorem of_updates {line : Line} (h : (Statement.ofLine line).Updates text) :
    of config frame store (.ofLine line) = .update text := by
  rw [of_command h.command, ofCommand]
  exact (ofUpdate_eq_update h.command).2 h

theorem updates_of_eq_update (h : of config frame store statement = .update text) :
    statement.Updates text := by
  unfold of at h
  split at h
  · cases h
  · cases hc : statement.command with rw [hc] at h
    | updateWindow => exact (ofUpdate_eq_update hc).1 h
    | _ =>
        -- no other command comes to an update
        simp only [ofCommand, ofPrint, ofDefining, ofDefinition, ofMaxMemory, ofFree, ofClear,
          ofExternal, ofCall, nested] at h
        repeat' split at h
        all_goals cases h

end Action

/-- If the event is that of an update, then of a statement that is written as one. -/
def Event.IsWritten (event : Event) : Prop :=
  ∀ id frame line text, event = .performed id frame line (.update text) →
    (Statement.ofLine line).Updates text

namespace Session

variable {s t : Session}

theorem isWritten_performed (s : Session) (id : Nat) (frame : Frame) (line : Line) :
    (Event.performed id frame line (s.actionOf id frame line)).IsWritten := by
  intro id' frame' line' text heq
  obtain ⟨-, -, rfl, haction⟩ := Event.performed.inj heq
  exact Action.updates_of_eq_update haction

/-- Only statements that are written as updates are performed as updates. -/
theorem written_law : Law (Adds Event.IsWritten) where
  refl := .refl
  trans := .trans
  change := by
    intro s t h
    cases h with
    | told notice => exact .tell s (fun _ _ _ _ heq => by cases heq)
    | logged channel text => exact .record s (fun _ _ _ _ heq => by cases heq)
    | sought path => exact .record s (fun _ _ _ _ heq => by cases heq)
    | acted id frame line =>
        exact (Adds.record s (isWritten_performed s id frame line)).trans (.of_transcript_eq rfl)
    | _ => exact .of_transcript_eq rfl
  execution {s t _ _} h :=
    (Adds.enter s (fun _ _ _ _ heq => by cases heq)).trans
      (h.trans (.leave t _ (fun _ _ _ _ heq => by cases heq)))
  run h := h

theorem Operated.written {surface : Surface} (h : Operated surface s) :
    ∀ event ∈ s.transcript, event.IsWritten := by
  induction h with
  | start => simp
  | @next s hpast disk operation hsuits ih =>
      obtain ⟨events, hevents, hwritten⟩ :=
        written_law.operate (fun _ _ => .of_transcript_eq rfl) s disk operation
      intro event hmem
      rw [← Array.mem_toList_iff, hevents, List.mem_append] at hmem
      rcases hmem with hmem | hmem
      · exact ih event (Array.mem_toList_iff.1 hmem)
      · exact hwritten event hmem

theorem windowSteps_traced (s : Session) (id : Nat) (line : Line) :
    (s.traced id line).windowSteps = s.windowSteps := by
  unfold traced
  split
  · rw [windowSteps, transcript_tell, List.filterMap_append]
    split <;> exact List.append_nil _
  · rfl

theorem windows_of_quiet (h : Quiet s t) : t.windows = s.windows :=
  congrArg (·.getD #[]) h.windows

end Session

namespace Exec

variable {disk : Disk} {say : Text → Exec Unit} {line : Line} {s t : Session} {text : Text}

/-- What a statement that updates leaves behind. The interpreters are as they were, so nothing is
reported, whether or not there is a window. -/
theorem step_updates (disk : Disk) (say : Text → Exec Unit) (id : Nat) (frame : Frame)
    (hhost : s.host.isSome) (h : (Statement.ofLine line).Updates text) :
    ∃ t, step disk say id frame line s = (.ok none, t) ∧ t.interpreters = s.interpreters ∧
      t.notices = s.notices ++ (s.traceNotices id line.text ++ [.updated text]) ∧
      t.windowSteps = s.windowSteps ++ [.updated text] ∧
      t.windows = s.windows.modify (s.windows.size - 1) (·.extend text) := by
  have haction : s.actionOf id frame line = .update text := Action.of_updates h
  have hquiet := Quiet.traced_act s id frame line (.update text)
  have hhost' : ((s.traced id line).act id frame line (.update text)).host.isSome := by
    have hsome := congrArg Option.isSome hquiet.windows
    simpa [hhost] using hsome
  refine ⟨_, step_update haction, ?_, ?_, ?_, ?_⟩
  · rw [interpreters_tell, interpreters_act fun _ => rfl, interpreters_traced]
  · rw [(Hears.tell _ (.updated text)).notices, if_pos hhost', notices_traced_act,
      List.append_assoc]
  · have htraced := windowSteps_traced s id line
    have hacted := records_act (s.traced id line) id frame line (.update text)
    have htold := hacted.trans (.tell _ (.updated text))
    rw [htold.windowSteps_eq (by rw [← hacted.host]; exact hhost'), htraced]
    rfl
  · rw [windows_tell, if_pos hhost', windows_of_quiet hquiet]
    rfl

section Buttons

variable {index : Int} {w : OpenWindow} {button : Button}
  (hw : windowAt? s.windows index = some w) (hbutton : w.window.button = some button)

include hw hbutton

theorem press_of_step
    (hstep : step disk (Exec.say disk s.reactions.length) w.owner { base := w.base }
      (.ofStatement button.statement) (s.enter w.owner { base := w.base }) = (.ok none, t)) :
    s.press disk index = (.ok true, t.leave w.owner (s.interpreter w.owner).depth) := by
  have hlines : s.execute disk w.owner button.statement w.base =
    s.executeLines disk w.owner { base := w.base } [.ofStatement button.statement] := rfl
  have hpressed : s.press disk index =
      ((s.execute disk w.owner button.statement w.base).1.map fun _ => true,
        (s.execute disk w.owner button.statement w.base).2) :=
    Engine.press_button _ hw hbutton
  rw [hpressed, hlines, executeLines_of_step hstep (by simp)]
  rfl

/-- The button of a window that updates, however old the window is: the newest window gets the
line, and nothing is reported. -/
theorem press_updates (disk : Disk) (hhost : s.host.isSome)
    (h : (Statement.ofLine (.ofStatement button.statement)).Updates text) :
    ∃ t, s.press disk index = (.ok true, t) ∧ t.holdings = s.holdings ∧
      t.windows = s.windows.modify (s.windows.size - 1) (·.extend text) := by
  have hentered := content_enter s w.owner { base := w.base }
  have hhost' : (s.enter w.owner { base := w.base }).host.isSome := by
    rw [(Records.enter s w.owner { base := w.base }).host]
    exact hhost
  obtain ⟨t, hstep, hinterpreters, -, -, hwindows⟩ := step_updates disk
    (Exec.say disk s.reactions.length) w.owner { base := w.base } hhost' h
  refine ⟨_, press_of_step hw hbutton hstep, ?_, ?_⟩
  · rw [holdings_leave, holdings, hinterpreters]
    exact holdings_eq_of_content hentered
  · rw [windows_eq_of_content (content_leave t _ _), hwindows, windows_eq_of_content hentered]

theorem press_refused (disk : Disk)
    (hcommand : (Statement.ofLine (.ofStatement button.statement)).command = .updateWindow)
    (h : ∀ text, ¬ (Statement.ofLine (.ofStatement button.statement)).Updates text) :
    ∃ t, s.press disk index = (.ok true, t) ∧ t.windows = s.windows := by
  have haction : (s.enter w.owner { base := w.base }).actionOf w.owner { base := w.base }
      (.ofStatement button.statement) = .refuse .malformedUpdate := by
    unfold actionOf
    rw [Action.of_command hcommand, Action.ofCommand, Action.ofUpdate_refuses hcommand h]
  obtain ⟨t, hstep, hrefused⟩ := step_refused disk (Exec.say disk s.reactions.length) haction
  refine ⟨_, press_of_step hw hbutton hstep, ?_⟩
  rw [windows_eq_of_content (content_leave t _ _), windows_of_quiet hrefused.toQuiet,
    windows_eq_of_content (content_enter s w.owner { base := w.base })]

end Buttons

end Exec

/-- Updates reach only the newest window, whatever an application does with a host: the statements
that are performed as updates are those that are written so, and the windows are those that were
opened, each with a line for every update that was performed from then on until the next one was
opened, in order. Updates before the first opening are lost. An operation changes nothing of a
window but the content of the newest, and that by the updates before the next opening. An update
reports nothing, whether or not there is a window, and the button of a window however old, if its
statement is an update, changes the newest window only. -/
theorem updates_reach_newest_window (surface : Surface) (s : Session) (hs : Operated surface s) :
    (∃ (lost : List Text) (chapters : List Chapter),
      s.windowSteps = lost.map .updated ++ chapters.flatMap Chapter.steps ∧
      s.windows.toList = chapters.map Chapter.window) ∧
    (∀ id frame line text, .performed id frame line (.update text) ∈ s.transcript →
      (Statement.ofLine line).Updates text) ∧
    (∀ disk operation, ∃ (texts : List Text) (chapters : List Chapter),
      let t := s.operate disk operation
      t.windowSteps =
        s.windowSteps ++ (texts.map .updated ++ chapters.flatMap Chapter.steps) ∧
      t.windows = Host.extendNewest s.windows texts ++ (chapters.map Chapter.window).toArray ∧
      ∀ k w, s.windows[k]? = some w →
        t.windows[k]? = some (if k + 1 = s.windows.size then w.extended texts else w)) ∧
    (∀ (u : Session) disk say id frame line text, u.host.isSome →
      (Statement.ofLine line).Updates text →
      ∃ t, step disk say id frame line u = (.ok none, t) ∧ t.interpreters = u.interpreters ∧
        t.notices = u.notices ++ (u.traceNotices id line.text ++ [.updated text]) ∧
        t.windowSteps = u.windowSteps ++ [.updated text] ∧
        t.windows = u.windows.modify (u.windows.size - 1) (·.extend text) ∧
        (u.windows = #[] → t.windows = #[])) ∧
    ∀ disk index w button, windowAt? s.windows index = some w → w.window.button = some button →
      let statement := Statement.ofLine (.ofStatement button.statement)
      statement.command = .updateWindow →
      ∃ t, s.press disk index = (.ok true, t) ∧
        (∀ text, statement.Updates text → t.holdings = s.holdings ∧
          t.windows = s.windows.modify (s.windows.size - 1) (·.extend text)) ∧
        ((∀ text, ¬ statement.Updates text) → t.windows = s.windows) := by
  have hhosted := hs.hosted
  refine ⟨?_, ?_, ?_, ?_, ?_⟩
  · obtain ⟨lost, chapters, hsteps, hwindows⟩ := Host.foldl_afterStep #[] s.windowSteps
    refine ⟨lost, chapters, hsteps, ?_⟩
    rw [hs.windows_eq, hwindows]
    simp [Host.extendNewest]
  · intro id frame line text hmem
    exact hs.written _ hmem id frame line text rfl
  · intro disk operation
    obtain ⟨steps, hsteps, hwindows⟩ := hhosted.windows_operate disk operation
    obtain ⟨texts, chapters, rfl, hfold⟩ := Host.foldl_afterStep s.windows steps
    rw [hfold] at hwindows
    refine ⟨texts, chapters, hsteps, hwindows, fun k w hw => ?_⟩
    have hk := (Array.getElem?_eq_some_iff.1 hw).1
    rw [hwindows, Array.getElem?_append_left (by simpa [Host.extendNewest] using hk)]
    exact Host.getElem?_extendNewest hw texts
  · intro u disk say id frame line text hhost hupdates
    obtain ⟨t, hstep, hinterpreters, hnotices, hsteps, hwindows⟩ :=
      step_updates disk say id frame hhost hupdates
    refine ⟨t, hstep, hinterpreters, hnotices, hsteps, hwindows, fun hnone => ?_⟩
    simp [hwindows, hnone]
  · intro disk index w button hw hbutton statement hcommand
    by_cases hupdates : ∃ text, statement.Updates text
    · obtain ⟨text, hupdates⟩ := hupdates
      obtain ⟨t, hpressed, hholdings, hwindows⟩ :=
        press_updates hw hbutton disk hhosted.host hupdates
      refine ⟨t, hpressed, fun other hother => ⟨hholdings, ?_⟩, fun hnot => ?_⟩
      · cases hupdates.text.symm.trans hother.text
        exact hwindows
      · exact absurd hupdates (hnot text)
    · obtain ⟨t, hpressed, hwindows⟩ := press_refused hw hbutton disk hcommand
        fun text h => hupdates ⟨text, h⟩
      exact ⟨t, hpressed, fun text h => absurd ⟨text, h⟩ hupdates, fun _ => hwindows⟩

/-- An update before any window is opened, then two windows and an update, and then the button of
the older window, which updates the newer one. -/
theorem updates_reach_newest_window_from_older_button :
    let disk : Disk := { Disk.blank with read := fun _ => .error .notFound }
    let fresh : Session := { host := some { surface := .buffer {} } }
    let added := fresh.operate disk (.add {})
    let early : Operation := .run 0 "@UPDATE WINDOW TEXT = \"lost\"" {} none
    let late : Operation := .run 0
      ("@UPDATE WINDOW TEXT = \"b\"\n@NEW WINDOW \x7b\n@Content = \x7b\n" ++
        "BUTTON = \"press\": \x7b @UPDATE WINDOW TEXT = \"c\" \x7d\n\x7d\n\x7d\n" ++
          "@NEW WINDOW \x7b\n@Title = \"newer\"\n\x7d") {} none
    let s := (added.operate disk early).operate disk late
    let statement := Statement.ofLine (.ofStatement "@UPDATE WINDOW TEXT = \"c\"")
    (s.Operated (.buffer {}) ∧ statement.Updates "c") ∧
    (s.interpreter 0).report.codes = [] ∧
    s.windowSteps.length = 4 ∧ s.windowSteps.head? = some (.updated "lost") ∧
    (∃ t, s.press disk 0 = (.ok true, t) ∧ t.holdings = s.holdings ∧
      t.windows = s.windows.modify (s.windows.size - 1) (·.extend "c")) ∧
    (s.press disk 0).2.windows.map (·.window.content) = (#["c", "\nb\nc"] : Array Text) := by
  intro disk fresh added early late s statement
  have hadded : added.Operated (.buffer {}) := .next .start disk (.add {}) trivial
  have hearly : (added.operate disk early).Operated (.buffer {}) :=
    .next hadded disk early (by decide : 0 < added.interpreters.size)
  have hs : s.Operated (.buffer {}) :=
    .next hearly disk late (by decide +kernel : 0 < (added.operate disk early).interpreters.size)
  have hstatement : statement.Updates "c" :=
    ⟨by decide +kernel, by decide +kernel, by decide +kernel⟩
  -- one evaluation of the history gives all that is to be seen of it
  have hseen : (windowAt? s.windows 0).bind (·.window.button) =
      some ⟨"press", "@UPDATE WINDOW TEXT = \"c\""⟩ ∧ (s.interpreter 0).report.codes = [] ∧
      s.windowSteps.length = 4 ∧ s.windowSteps.head? = some (.updated "lost") ∧
      (s.press disk 0).2.windows.map (·.window.content) = (#["c", "\nb\nc"] : Array Text) := by
    decide +kernel
  obtain ⟨hfound, hcodes, hlength, hlost, hcontents⟩ := hseen
  obtain ⟨w, hw, hbutton⟩ := Option.bind_eq_some_iff.1 hfound
  obtain ⟨-, -, -, -, hpress⟩ := updates_reach_newest_window (.buffer {}) s hs
  obtain ⟨t, hpressed, hupdated, -⟩ := hpress disk 0 w _ hw hbutton hstatement.command
  exact ⟨⟨hs, hstatement⟩, hcodes, hlength, hlost, ⟨t, hpressed, hupdated "c" hstatement⟩,
    hcontents⟩

end LineScript
