import LineScript.Proofs.Session.HostIndependence
import LineScript.Proofs.Session.Announcement
import LineScript.Proofs.Session.Origin
import LineScript.Proofs.Session.Reentrancy

/-! # Where diagnostics come from

Every diagnostic names the place and holds the text of one line: a line of a script that the
interpreter scanned, in this run or in one before, or the statement of a button. The invariant is
about the functions too, since they are scanned in one run and executed in others. The one exception
besides unreadable script files is the report of a guard, which names no line; it takes a stack that
is too small for the depth limit. A report is shared by all runs of an interpreter; the diagnostics
of a run are the part that was added from its start to its end, and the host was told exactly these
in the meantime.
-/

namespace LineScript

open Exec Session

/-! ## Buttons -/

/-- The statement of the button, if there is one, has no blanks around it. -/
def OpenWindow.Trimmed (w : OpenWindow) : Prop :=
  ∀ button ∈ w.window.button, Text.trimmed button.statement = button.statement

theorem Window.trimmed_ofBody (body : List Text) (title : Text) {button : Button}
    (h : (ofBody body title).button = some button) :
    Text.trimmed button.statement = button.statement := by
  unfold ofBody at h
  dsimp only at h
  split at h
  · cases h
  · split at h
    · obtain ⟨found, -, rfl⟩ := Option.map_eq_some_iff.1 h
      simp [Text.trimmed, Text.trim_trim]
    · cases h

theorem Host.trimmed_windowsAfter {windows : Array OpenWindow} {notice : Notice}
    (hnotice : ∀ w, notice = .opened w → w.Trimmed) (h : ∀ w ∈ windows, w.Trimmed) :
    ∀ w ∈ windowsAfter windows notice, w.Trimmed := by
  intro w hw
  cases notice with
  | opened new =>
      rcases Array.mem_push.1 hw with hw | rfl
      · exact h w hw
      · exact hnotice w rfl
  | updated text =>
      obtain ⟨k, hk⟩ := Array.mem_iff_getElem?.1 hw
      simp only [windowsAfter, Array.getElem?_modify] at hk
      split at hk
      · obtain ⟨old, hold, rfl⟩ := Option.map_eq_some_iff.1 hk
        exact h old (Array.mem_of_getElem? hold)
      · exact h w (Array.mem_of_getElem? hk)
  | _ => exact h w hw

namespace Session

theorem trimmed_tell {s : Session} {notice : Notice}
    (hnotice : ∀ w, notice = .opened w → w.Trimmed) (hs : ∀ w ∈ s.windows, w.Trimmed) :
    ∀ w ∈ (s.tell notice).windows, w.Trimmed := by
  cases hhost : s.host with
  | none =>
      rw [tell, hhost]
      exact hs
  | some host =>
      have hwindows : s.windows = host.windows := by simp [windows, hhost]
      have htold : (s.tell notice).windows = Host.windowsAfter host.windows notice := by
        simp [tell, hhost, windows, Host.receive]
      rw [htold]
      rw [hwindows] at hs
      exact Host.trimmed_windowsAfter hnotice hs

theorem windows_enter (s : Session) (id : Nat) (frame : Frame) :
    (s.enter id frame).windows = s.windows := by
  unfold windows enter pushExecuting
  cases hhost : s.host <;> simp [record, modifyInterpreter, hhost]

theorem windows_leave (s : Session) (id : Nat) (depth : Int) :
    (s.leave id depth).windows = s.windows := by
  unfold windows leave popExecuting
  cases hhost : s.host with
  | none => simp [record, modifyInterpreter, hhost]
  | some host =>
      simp only [record, modifyInterpreter, hhost, Option.map_some, Option.getD_some]
      split
      · split
        · rfl
        · rfl
      · rfl

theorem WriteFor.trimmed {id : Nat} {s t : Session} (h : WriteFor id s t)
    (hs : ∀ w ∈ s.windows, w.Trimmed) : ∀ w ∈ t.windows, w.Trimmed := by
  cases h with
  | told hclosed _ => exact trimmed_tell (fun w hw => absurd hw (hclosed w)) hs
  | opened _ hwindow =>
      refine trimmed_tell (fun w hw => ?_) hs
      cases hw
      intro button hbutton
      rw [hwindow] at hbutton
      exact Window.trimmed_ofBody _ _ hbutton
  | reported d => exact trimmed_tell (fun _ hw => by cases hw) hs
  | entered frame =>
      rw [windows_enter]
      exact hs
  | left depth =>
      rw [windows_leave]
      exact hs
  | _ => exact hs

/-- The buttons of windows that come up have no blanks around their statements. -/
theorem WritesFor.trimmed {id : Nat} {s t : Session} (h : WritesFor id s t)
    (hs : ∀ w ∈ s.windows, w.Trimmed) : ∀ w ∈ t.windows, w.Trimmed := by
  induction h with
  | refl => exact hs
  | tail _ hwrite ih => exact hwrite.trimmed ih

/-! ## Counts -/

def Counted (s : Session) : Prop :=
  ∀ id, (s.interpreter id).report.Counted

theorem Counted.modifyInterpreter {s : Session} {id : Nat} {change : Interpreter → Interpreter}
    (hchange : ∀ i : Interpreter, i.report.Counted → (change i).report.Counted) (h : s.Counted) :
    (s.modifyInterpreter id change).Counted := by
  intro other
  rw [interpreter_modifyInterpreter]
  split
  · exact hchange _ (h _)
  · exact h other

theorem Change.counted {s t : Session} (hc : Change s t) (h : s.Counted) : t.Counted := by
  cases hc with
  | told notice =>
      intro id
      rw [interpreter_tell]
      exact h id
  | reported id d => exact h.modifyInterpreter fun i hi => hi.add d
  | acted id frame line => exact Counted.modifyInterpreter (fun _ hi => hi) h
  | functionAdded id routine => exact h.modifyInterpreter fun _ hi => hi
  | wiped id => exact h.modifyInterpreter fun _ _ => Report.counted_empty
  | _ => exact h

theorem counted_stable : Stable Counted where
  change := Change.counted
  enter _ _ h := Counted.modifyInterpreter (fun _ hi => hi) h
  leave _ _ h := Counted.modifyInterpreter (fun _ hi => hi) h
  beginRun _ h := h.modifyInterpreter fun _ hi => hi
  endRun _ h := h.modifyInterpreter fun _ hi => hi

end Session

/-! ## Histories -/

/-- An operation that an application carried out, with the session, the stack and the disk that it
found. -/
structure Episode where
  session : Session
  stack : Nat
  disk : Disk
  operation : Operation

namespace Episode

def ended (e : Episode) : Session :=
  e.session.operateOn e.stack e.disk e.operation

/-- Interpreter `id` scans a source: that of a script that the application runs, or that of an
external script that a statement asks for. -/
inductive Scans (e : Episode) (id : Nat) (source : Text) : Option Text → Prop
  | script {base : Path} {file : Option Text} (h : e.operation = .run id source base file) :
      Scans e id source file
  | external {frame : Frame} {line : Line} {path : Text}
      (hperformed : .performed id frame line (.external path) ∈ e.session.added e.ended)
      (hread : e.disk.readScript (e.session.interpreter id).config.codec
        (frame.base.join (.ofText path)) = .ok (.ok source)) : Scans e id source (some path)

/-- Interpreter `id` is given a statement that is in no script: by the application, or by a button
that is pressed. -/
inductive States (e : Episode) (id : Nat) : Text → Prop
  | statement {text : Text} {base : Path} (h : e.operation = .execute id text base) :
      States e id (Text.trimmed text)
  | button {index : Int} {w : OpenWindow} {button : Button} (h : e.operation = .press index)
      (hw : windowAt? e.session.windows index = some w) (howner : w.owner = id)
      (hbutton : w.window.button = some button) : States e id button.statement

/-- The diagnostic of a guard of interpreter `id`, which was at work on a stack that has no room for
all activations that can be inside one another. -/
structure Exhausts (e : Episode) (id : Nat) (d : Diagnostic) : Prop where
  interpreter : e.operation.interpreter? e.session = some id
  stack : e.stack < levelsFrom (e.session.interpreter id) 0
  diagnostic : d =
    (Problem.depthExceeded (e.session.interpreter id).config.depthLimit).diagnostic

/-- A line of a source that interpreter `id` scanned. -/
def Known (past : List Episode) (id : Nat) (line : Line) : Prop :=
  ∃ e ∈ past, ∃ source file, e.Scans id source file ∧ line ∈ Line.scan source file

/-- A line that interpreter `id` scanned, or a statement that it was given. -/
def Cited (past : List Episode) (id : Nat) (line : Line) : Prop :=
  Known past id line ∨ ∃ e ∈ past, ∃ text, e.States id text ∧ line = { text }

end Episode

def Diagnostic.Exhausted (past : List Episode) (id : Nat) (d : Diagnostic) : Prop :=
  ∃ e ∈ past, e.Exhausts id d

/-- The sessions that come about when an application uses a host, with what it did so far, the
newest first. -/
inductive Session.History (surface : Surface) : List Episode → Session → Prop
  | start : History surface [] { host := some { surface } }
  | next {past : List Episode} {s : Session} (h : History surface past s) (stack : Nat)
      (disk : Disk) (operation : Operation) (hsuits : operation.Suits s) :
      History surface (⟨s, stack, disk, operation⟩ :: past) (s.operateOn stack disk operation)

namespace Episode

variable {past : List Episode} {e : Episode} {id : Nat} {line : Line}

theorem Known.cons (h : Known past id line) : Known (e :: past) id line := by
  obtain ⟨e', he', h⟩ := h
  exact ⟨e', List.mem_cons_of_mem _ he', h⟩

theorem Cited.cons (h : Cited past id line) : Cited (e :: past) id line := by
  rcases h with h | ⟨e', he', h⟩
  · exact .inl h.cons
  · exact .inr ⟨e', List.mem_cons_of_mem _ he', h⟩

theorem Known.trimmed (h : Known past id line) : Text.trimmed line.text = line.text := by
  obtain ⟨e, -, source, file, -, hline⟩ := h
  exact Line.trimmed_of_scan hline

theorem exhausted_cons {d : Diagnostic} (h : d.Exhausted past id) : d.Exhausted (e :: past) id := by
  obtain ⟨e', he', h⟩ := h
  exact ⟨e', List.mem_cons_of_mem _ he', h⟩

/-- What an operation reads of external scripts, it scans. -/
theorem readsKnown (e : Episode) (past : List Episode) (id : Nat) :
    ReadsKnown e.disk (e.session.interpreter id).config id (Known (e :: past) id) e.session
      e.ended :=
  fun _ _ path source hperformed hread _ hline =>
    ⟨e, List.mem_cons_self, source, some path, .external hperformed hread, hline⟩

end Episode

namespace Session

open Episode

/-- What the interpreters hold goes back to what was done, and so do the windows. -/
structure Documented (past : List Episode) (s : Session) : Prop where
  sourced : ∀ id, (s.interpreter id).Sourced (Known past id) (Cited past id)
    (Diagnostic.Exhausted past id) 0
  statements : ∀ id line, Cited past id line → Text.trimmed line.text = line.text
  buttons : ∀ w ∈ s.windows, w.Trimmed

variable {past : List Episode} {s t : Session} {stack : Nat} {disk : Disk} {id : Nat}

theorem sourced_new {known cited : Line → Prop} {exhausted : Diagnostic → Prop} {first : Nat}
    (config : Config) : ({ config } : Interpreter).Sourced known cited exhausted first := by
  refine ⟨fun name line hline => ?_, fun d hd => ?_⟩
  · cases hline
  · simp at hd

theorem Documented.sourced_cons (h : Documented past s) (e : Episode) (id : Nat) :
    (s.interpreter id).Sourced (Known (e :: past) id) (Cited (e :: past) id)
      (Diagnostic.Exhausted (e :: past) id) 0 :=
  (h.sourced id).mono (fun _ => Known.cons) (fun _ => Cited.cons) fun _ => exhausted_cons

/-- What an operation on one interpreter leaves goes back to what was done, if it does for this
interpreter. -/
theorem Documented.writes {e : Episode} (h : Documented past s) (hwrites : WritesFor id s t)
    (hsourced : (t.interpreter id).Sourced (Known (e :: past) id) (Cited (e :: past) id)
      (Diagnostic.Exhausted (e :: past) id) 0)
    (hstatements : ∀ id line, Cited (e :: past) id line → Text.trimmed line.text = line.text) :
    Documented (e :: past) t where
  sourced other := by
    by_cases hother : other = id
    · rw [hother]
      exact hsourced
    · rw [hwrites.served.others other hother]
      exact h.sourced_cons e other
  statements := hstatements
  buttons := hwrites.trimmed h.buttons

/-- What interpreters are given as statements has no blanks around it. -/
theorem Documented.trimmed_cons (h : Documented past s) (stack : Nat) (disk : Disk)
    (operation : Operation) (id : Nat) (line : Line)
    (hline : Cited (⟨s, stack, disk, operation⟩ :: past) id line) :
    Text.trimmed line.text = line.text := by
  rcases hline with hknown | ⟨e, he, text, hstates, rfl⟩
  · exact hknown.trimmed
  · rcases List.mem_cons.1 he with rfl | he
    · cases hstates with
      | statement hoperation => exact Line.trimmed_ofStatement _
      | button hoperation hw howner hbutton =>
          exact h.buttons _ (mem_of_windowAt? hw) _ hbutton
    · exact h.statements id { text } (.inr ⟨e, he, text, hstates, rfl⟩)

theorem Documented.same {e : Episode} (h : Documented past s)
    (hstatements : ∀ id line, Cited (e :: past) id line → Text.trimmed line.text = line.text) :
    Documented (e :: past) s :=
  ⟨h.sourced_cons e, hstatements, h.buttons⟩

theorem Documented.add (h : Documented past s) (stack : Nat) (disk : Disk) (config : Config) :
    Documented (⟨s, stack, disk, .add config⟩ :: past) (s.addInterpreter config) := by
  have hsame := h.same (h.trimmed_cons stack disk (.add config))
  refine ⟨fun id => ?_, hsame.statements, h.buttons⟩
  rw [interpreter_addInterpreter]
  split
  · exact sourced_new config
  · exact hsame.sourced id

theorem writesFor_operateOn {operation : Operation} (hplain : s.reactions = [])
    (hid : operation.interpreter? s = some id) :
    WritesFor id s (s.operateOn stack disk operation) := by
  rw [operateOn_plain stack disk operation hplain]
  exact (Engine.serves_engineOn stack disk id).operate hid

variable {source : Text} {base : Path} {file : Option Text}

/-- A run leaves functions and diagnostics of lines that its interpreter scanned. The diagnostics
that were there before need not be counted. -/
theorem Documented.sourced_run (h : Documented past s) {first : Nat} {cited : Line → Prop}
    {exhausted : Diagnostic → Prop} (hid : id < s.interpreters.size) (hplain : s.reactions = [])
    (hidle : (s.interpreter id).activeRuns = 0)
    (hcited : ∀ line, Known (⟨s, stack, disk, .run id source base file⟩ :: past) id line →
      cited line)
    (htrimmed : ∀ line, cited line → Text.trimmed line.text = line.text)
    (hexhausted : stack ≤ max (s.interpreter id).config.depthLimit 0 →
      exhausted (Problem.depthExceeded (s.interpreter id).config.depthLimit).diagnostic)
    (hdiagnostics : ∀ d ∈ (s.interpreter id).report.diagnostics.toList.drop first,
      d.IsAbout cited exhausted) :
    ((s.runOn stack disk id source base file).2.interpreter id).Sourced
      (Known (⟨s, stack, disk, .run id source base file⟩ :: past) id) cited exhausted first := by
  refine sourced_runOn hid hplain hcited htrimmed ⟨fun name line hline => ?_, hdiagnostics⟩ hidle
    hexhausted (fun line hline => ?_)
      (readsKnown ⟨s, stack, disk, .run id source base file⟩ past id)
  · exact ((h.sourced id).functions name line hline).cons
  · exact ⟨_, List.mem_cons_self, _, _, .script rfl, hline⟩

theorem Documented.run (h : Documented past s) (stack : Nat) (disk : Disk)
    (hid : id < s.interpreters.size) (hplain : s.reactions = [])
    (hidle : (s.interpreter id).activeRuns = 0) :
    Documented (⟨s, stack, disk, .run id source base file⟩ :: past)
      (s.runOn stack disk id source base file).2 := by
  have hstatements := h.trimmed_cons stack disk (.run id source base file)
  have hwrites : WritesFor id s (s.operateOn stack disk (.run id source base file)) :=
    writesFor_operateOn hplain rfl
  refine h.writes hwrites ?_ hstatements
  refine h.sourced_run hid hplain hidle (fun _ => .inl) (hstatements id) (fun hstack => ?_)
    (h.sourced_cons _ id).diagnostics
  refine ⟨_, List.mem_cons_self, rfl, ?_, rfl⟩
  change stack < levelsFrom (s.interpreter id) 0
  unfold levelsFrom
  omega

/-- Executing a statement that is cited leaves what goes back to what was done. -/
theorem Documented.execute {e : Episode} {text : Text} (h : Documented past e.session)
    (hid : e.operation.interpreter? e.session = some id)
    (hpresent : id < e.session.interpreters.size)
    (hplain : e.session.reactions = [])
    (hstatements : ∀ id line, Cited (e :: past) id line → Text.trimmed line.text = line.text)
    (htext : Cited (e :: past) id (.ofStatement text))
    (hended : e.ended = (e.session.executeOn e.stack e.disk id text base).2) :
    Documented (e :: past) e.ended := by
  refine h.writes (writesFor_operateOn hplain hid) ?_ hstatements
  have hread := e.readsKnown past id
  rw [hended] at hread ⊢
  exact sourced_executeOn hpresent hplain (fun _ => .inl) (hstatements id) (h.sourced_cons e id)
    (fun hstack => ⟨e, List.mem_cons_self, hid, hstack, rfl⟩) htext hread

/-- What holds after an operation of a documented session, which nothing is executing in. -/
theorem Documented.operateOn {operation : Operation} (h : Documented past s) (hs : s.Hosted)
    (hidle : s.Idle) (hsuits : operation.Suits s) (stack : Nat) (disk : Disk) :
    Documented (⟨s, stack, disk, operation⟩ :: past) (s.operateOn stack disk operation) := by
  have hstatements := h.trimmed_cons stack disk operation
  cases operation with
  | add config => exact h.add stack disk config
  | run id source base file => exact h.run stack disk hsuits hs.plain (hidle.activeRuns id)
  | execute id text base =>
      refine Documented.execute (e := ⟨s, stack, disk, .execute id text base⟩) h rfl hsuits hs.plain
        hstatements ?_ rfl
      exact .inr ⟨_, List.mem_cons_self, _, .statement rfl, rfl⟩
  | press index =>
      rcases Engine.operate_press (engineOn disk (sayOn disk s.reactions.length) stack) s index with
        heq | ⟨w, button, hw, hbutton, heq⟩
      · rw [Session.operateOn, heq]
        exact h.same hstatements
      · have hmem := mem_of_windowAt? hw
        have hinterpreter : (Operation.press index).interpreter? s = some w.owner := by
          simp [Operation.interpreter?, hw]
        refine Documented.execute (e := ⟨s, stack, disk, .press index⟩) h hinterpreter
          (hs.owners w hmem) hs.plain hstatements ?_ heq
        have htrimmed : Text.trimmed button.statement = button.statement :=
          h.buttons w hmem button hbutton
        refine .inr ⟨_, List.mem_cons_self, _, .button rfl hw rfl hbutton, ?_⟩
        rw [Line.ofStatement, htrimmed]

/-- A property that operations keep is kept by every engine for which they do. -/
theorem Idle.operateOn (h : s.Idle) (stack : Nat) (disk : Disk) (operation : Operation) :
    (s.operateOn stack disk operation).Idle := by
  have hrespects := respects_engineOn disk books_law
    (within_sayOn disk books_law s.reactions.length) stack
  cases operation with
  | add config => exact h.addInterpreter config
  | run id source base file =>
    exact .of_restored (.of_books (hrespects.run id source base file s)) h
  | execute id text base => exact .of_restored (.of_books (hrespects.execute id text base s)) h
  | press index => exact .of_restored (.of_books (hrespects.press books_law index s)) h

theorem Counted.operateOn (h : s.Counted) (stack : Nat) (disk : Disk) (operation : Operation) :
    (s.operateOn stack disk operation).Counted := by
  have law := counted_stable.law
  have hrespects := respects_engineOn disk law (within_sayOn disk law s.reactions.length) stack
  cases operation with
  | add config =>
      intro id
      change ((s.addInterpreter config).interpreter id).report.Counted
      rw [interpreter_addInterpreter]
      split
      · exact Report.counted_empty
      · exact h id
  | run id source base file => exact hrespects.run id source base file s h
  | execute id text base => exact hrespects.execute id text base s h
  | press index => exact hrespects.press law index s h

variable {surface : Surface}

theorem History.hosted (h : History surface past s) : s.Hosted := by
  induction h with
  | start => exact ⟨rfl, rfl, by simp [windows]⟩
  | next _ stack disk operation hsuits ih =>
      rw [operateOn_plain stack disk operation ih.plain]
      exact ih.engine_operate (Engine.serves_engineOn stack disk) hsuits

theorem History.idle (h : History surface past s) : s.Idle := by
  induction h with
  | start =>
      refine ⟨fun _ => rfl, fun _ => rfl, fun stack hstack => ?_⟩
      exact (Option.some.inj hstack).symm
  | next _ stack disk operation _ ih => exact ih.operateOn stack disk operation

theorem History.counted (h : History surface past s) : s.Counted := by
  induction h with
  | start => exact fun _ => Report.counted_empty
  | next _ stack disk operation _ ih => exact ih.operateOn stack disk operation

/-- Whatever an application did, everything goes back to it. -/
theorem History.documented (h : History surface past s) : Documented past s := by
  induction h with
  | start =>
      refine ⟨fun id => sourced_new {}, fun id line hline => ?_, by simp [windows]⟩
      rcases hline with ⟨e, he, -⟩ | ⟨e, he, -⟩
      · cases he
      · cases he
  | next hpast stack disk operation hsuits ih =>
      exact ih.operateOn hpast.hosted hpast.idle hsuits stack disk

end Session

/-! ## The diagnostics of runs -/

/-- The diagnostic tells of a line that interpreter `id` scanned: it has the name of the script, the
number of the line and its text. -/
def Diagnostic.Scanned (past : List Episode) (id : Nat) (d : Diagnostic) : Prop :=
  ∃ e ∈ past, ∃ source file k line, e.Scans id source file ∧
    (Line.scan source file)[k]? = some line ∧
    d.location = { line := some (Int.ofNat (k + 1)), file } ∧ d.source = some line.text

/-- The diagnostic tells of a statement that interpreter `id` was given: it has no location, and the
text of the statement. -/
def Diagnostic.Stated (past : List Episode) (id : Nat) (d : Diagnostic) : Prop :=
  ∃ e ∈ past, ∃ text, e.States id text ∧ d.location = {} ∧ d.source = some text

namespace Diagnostic

variable {past : List Episode} {id : Nat} {d : Diagnostic}

theorem scanned_of_known {line : Line} (h : Episode.Known past id line) (hd : d.Cites line) :
    d.Scanned past id := by
  obtain ⟨e, he, source, file, hscans, hline⟩ := h
  obtain ⟨k, hk⟩ := List.mem_iff_getElem?.1 hline
  exact ⟨e, he, source, file, k, line, hscans, hk, hd.location.trans (Line.location_of_scan hk),
    hd.source⟩

theorem IsAbout.scanned_or_exhausted {exhausted : Diagnostic → Prop}
    (h : d.IsAbout (Episode.Known past id) exhausted) (hcode : d.code ≠ "E501") :
    d.Scanned past id ∨ exhausted d := by
  rcases h.line.resolve_left hcode with hexhausted | ⟨line, hline, hd⟩
  · exact .inr hexhausted
  · exact .inl (scanned_of_known hline hd)

theorem IsAbout.traceable {exhausted : Diagnostic → Prop}
    (h : d.IsAbout (Episode.Cited past id) exhausted) (hcode : d.code ≠ "E501") :
    d.Scanned past id ∨ d.Stated past id ∨ exhausted d := by
  rcases h.line.resolve_left hcode with hexhausted |
    ⟨line, hline | ⟨e, he, text, hstates, rfl⟩, hd⟩
  · exact .inr (.inr hexhausted)
  · exact .inl (scanned_of_known hline hd)
  · exact .inr (.inl ⟨e, he, text, hstates, hd.location, hd.source⟩)

end Diagnostic

theorem RunResult.success_iff {result : RunResult}
    (h : ∀ d ∈ result.diagnostics, d.severity = .error) :
    result.success = true ↔ result.diagnostics = [] := by
  unfold success
  constructor
  · intro hall
    rw [List.eq_nil_iff_forall_not_mem]
    intro d hd
    have hd' := List.all_eq_true.1 hall d hd
    simp [h d hd] at hd'
  · intro hnil
    rw [hnil]
    rfl

theorem Session.ReportGrew.append {s t : Session} {id : Nat} (h : ReportGrew id s t) :
    (t.interpreter id).report.diagnostics.toList =
      (s.interpreter id).report.diagnostics.toList ++ s.reported t id := by
  obtain ⟨more, hmore⟩ := h
  rw [reported, ← hmore, ← Array.length_toList, List.drop_left]

/-- What was reported in between is one piece of what was reported in the longer time. -/
theorem Session.ReportGrew.reported_within {s s' t t' : Session} {id : Nat}
    (hs : ReportGrew id s s') (hmiddle : ReportGrew id s' t) (ht : ReportGrew id t t') :
    s'.reported t id <:+: s.reported t' id := by
  have hall := ((hs.trans hmiddle).trans ht).append
  rw [ht.append, hmiddle.append, hs.append, List.append_assoc, List.append_assoc,
    List.append_cancel_left_eq] at hall
  exact ⟨s.reported s' id, t.reported t' id, by rw [← hall, List.append_assoc]⟩

theorem Event.diagnostic?_eq_bind (event : Event) :
    event.notice?.bind Notice.diagnostic? = event.diagnostic? := by
  cases event with
  | told notice =>
      cases notice with
      | debug line => cases line <;> rfl
      | _ => rfl
  | _ => rfl

theorem Notice.debugLines_of_diagnostics (told : List Notice) :
    (told.filter (·.diagnostic?.isSome)).flatMap debugLines =
      (told.filterMap diagnostic?).map (·.format false) := by
  induction told with
  | nil => rfl
  | cons notice told ih =>
      cases hd : notice.diagnostic? with
      | none => simp [hd, ih]
      | some d =>
          have hline : notice.debugLines = [d.format false] := by
            unfold diagnostic? at hd
            split at hd
            · cases hd
              rfl
            · cases hd
          simp [hd, hline, ih]

/-- The host is told what an interpreter reports, once and in order. -/
theorem Session.WritesFor.told_diagnostics {s t : Session} {id : Nat} (h : WritesFor id s t)
    (hhost : s.host.isSome) (hid : id < s.interpreters.size) :
    ∃ told, t.notices = s.notices ++ told ∧
      told.filterMap Notice.diagnostic? = s.reported t id ∧
      (told.filter (·.diagnostic?.isSome)).flatMap Notice.debugLines =
        (s.reported t id).map (·.format false) := by
  obtain ⟨events, htranscript, -, hreport⟩ := h.served.events
  have htold : (events.filterMap Event.notice?).filterMap Notice.diagnostic? = s.reported t id := by
    have happend := (h.reportGrew id).append
    rw [hreport hhost hid] at happend
    rw [← List.append_cancel_left happend, List.filterMap_filterMap]
    exact congrArg (List.filterMap · events) (funext Event.diagnostic?_eq_bind)
  refine ⟨events.filterMap Event.notice?, ?_, htold, ?_⟩
  · rw [notices, notices, htranscript, List.filterMap_append]
  · rw [Notice.debugLines_of_diagnostics, htold]

/-- The result of a run has what was reported from its start to its end. -/
theorem Exec.runWith_diagnostics {runner : Runner} {id : Nat} {source : Text} {base : Path}
    {file : Option Text} {s t : Session} {result : RunResult}
    (h : runWith runner id source base file s = (.ok result, t)) :
    result.diagnostics = s.reported t id := by
  obtain ⟨script, u, hp, -, -⟩ := prepare_apply id source base file s
  rw [runWith_congr hp rfl, runWith_outcome hp] at h
  cases hrun : (runner id script.frame script.statements (u.beginRun id)).1 with
  | error fault =>
      rw [hrun] at h
      cases h
  | ok _ =>
      rw [hrun] at h
      obtain ⟨hresult, rfl⟩ := Prod.mk.inj h
      cases hresult
      rw [reported, ← prepare_first hp]
      rfl

namespace ScriptRun

variable {disk : Disk}

theorem writes (r : ScriptRun disk) : WritesFor r.interpreter r.start r.ended :=
  r.writesFor_begun.trans (r.writesFor_last.trans r.writesFor_ended)

theorem diagnostics_of_outcome {r : ScriptRun disk} {result : RunResult} {t : Session}
    (h : r.outcome = (.ok result, t)) :
    result.diagnostics = r.start.reported r.ended r.interpreter := by
  unfold outcome at h
  cases hresult : r.result with
  | error fault =>
      rw [hresult] at h
      cases h
  | ok _ =>
      rw [hresult] at h
      cases h
      rw [reported, ← prepare_first r.prepared]
      rfl

/-- The diagnostics of a run inside a run are one piece of those of the outer one. -/
theorem Includes.reported_within {run r : ScriptRun disk} (h : run.Includes r) :
    r.start.reported r.ended run.interpreter <:+: run.start.reported run.ended run.interpreter := by
  obtain ⟨hi, hbefore, hafter⟩ := h.within
  have hlast : (r.ended.interpreter run.interpreter).report =
      (r.last.interpreter run.interpreter).report := by
    have hcontent := interpreter_content_congr ((content_endRun _ r.interpreter).trans
      (content_leave r.last r.interpreter (r.begun.interpreter r.interpreter).depth))
      run.interpreter
    exact congrArg (·.2.2) hcontent
  have hlater : WritesFor run.interpreter r.last run.ended := hafter.trans run.writesFor_ended
  have hgrew := hlater.reportGrew run.interpreter
  refine (hbefore.reportGrew _).reported_within (r.writes.reportGrew _) ?_
  unfold ReportGrew at hgrew ⊢
  rw [hlast]
  exact hgrew

/-- An included run adds to the report, returns and tells the host of the same diagnostics. -/
theorem Includes.accounted {run r : ScriptRun disk} (h : run.Includes r)
    (hhost : run.start.host.isSome) :
    let reported := r.start.reported r.ended run.interpreter
    (r.ended.interpreter run.interpreter).report.diagnostics.toList =
      (r.start.interpreter run.interpreter).report.diagnostics.toList ++ reported ∧
    (∀ result t, r.outcome = (.ok result, t) → result.diagnostics = reported) ∧
    ∃ told, r.ended.notices = r.start.notices ++ told ∧
      told.filterMap Notice.diagnostic? = reported ∧
      (told.filter (·.diagnostic?.isSome)).flatMap Notice.debugLines =
        reported.map (·.format false) := by
  obtain ⟨hi, hbefore, -⟩ := h.within
  have hstart : r.start.host.isSome := by
    rw [hbefore.served.host]
    exact hhost
  rw [← hi]
  exact ⟨(r.writes.reportGrew r.interpreter).append,
    fun result t hresult => ScriptRun.diagnostics_of_outcome hresult,
    r.writes.told_diagnostics hstart r.present⟩

theorem Reaches.counted {r : ScriptRun disk} {p : Place} (h : r.Reaches p)
    (hs : r.start.Counted) : p.session.Counted := by
  obtain ⟨script, t, hp, hc, -⟩ := prepare_apply r.interpreter r.source r.base r.file r.start
  obtain ⟨-, hbegun⟩ := Prod.mk.inj (hp.symm.trans r.prepared)
  have hprepared : r.begun.Counted :=
    hbegun ▸ counted_stable.beginRun _ (counted_stable.law.changes hc hs)
  exact Exec.Reaches.stable counted_stable (within_say disk counted_stable.law 0) h
    (counted_stable.enter _ _ hprepared)

/-- What is in the report at a place stays there until the run ends. -/
theorem Reaches.reportGrew {r : ScriptRun disk} {p : Place} (h : r.Reaches p) :
    ReportGrew r.interpreter p.session r.ended := by
  obtain ⟨-, hafter⟩ := Exec.Reaches.writes (runs_say disk) (serves_say disk) h
    (turn_enter _ _ _) r.executed
  have hstepped : WritesFor p.interpreter p.session (stepAt disk (Exec.say disk 0) p).2 :=
    writesFor_step (serves_say disk) h.turn p.frame p.line
  exact ((hstepped.reportGrew _).trans (hafter.reportGrew _)).trans (r.writesFor_ended.reportGrew _)

end ScriptRun

/-- Diagnostics of a run are accounted for, and where they come from is known, whatever was done
before and on whatever stack. The result of a run has what was added to the report from its start to
its end, and is a success exactly if that is nothing. Unless a guard reported that the stack was
exhausted, the host was told each of them once, as text and in the same order. The number of errors
is the number of diagnostics. Apart from those about script files, the diagnostics of the run tell
of one line of a source that this interpreter scanned, now or in an earlier run. In the whole report
there are also those about a statement that it was given outside any script, such as that of a
button, and those of a guard, which have no place and no text; it takes a stack without room for all
activations that can be inside one another.

On a stack with room for more activations than the depth limit a run does not exhaust it. The runs
of external scripts inside it are then accounted for in the same way, and their diagnostics are one
piece of those of the outer run; the number of errors is right at every statement. -/
theorem diagnostics_accounted_and_traceable (surface : Surface) (past : List Episode) (s : Session)
    (hs : History surface past s) (stack : Nat) (disk : Disk) (id : Nat) (source : Text)
    (base : Path) (file : Option Text) (hid : id < s.interpreters.size) :
    let now : List Episode := ⟨s, stack, disk, .run id source base file⟩ :: past
    let out := s.runOn stack disk id source base file
    let reported := s.reported out.2 id
    let limit := (s.interpreter id).config.depthLimit
    let overflow := (Problem.depthExceeded limit).diagnostic
    (out.2.interpreter id).report.diagnostics.toList =
      (s.interpreter id).report.diagnostics.toList ++ reported ∧
    (∀ result t, out = (.ok result, t) →
      result.diagnostics = reported ∧ (result.success = true ↔ reported = [])) ∧
    (overflow ∉ reported → ∃ told, out.2.notices = s.notices ++ told ∧
      told.filterMap Notice.diagnostic? = reported ∧
      (told.filter (·.diagnostic?.isSome)).flatMap Notice.debugLines =
        reported.map (·.format false)) ∧
    (∀ d ∈ reported, d.code ≠ "E501" →
      d.Scanned now id ∨ stack ≤ max limit 0 ∧ d = overflow) ∧
    (∀ other, let report := (out.2.interpreter other).report
      report.errorCount = report.diagnostics.size ∧
        ∀ d ∈ report.diagnostics, d.code ≠ "E501" →
          d.Scanned now other ∨ d.Stated now other ∨ d.Exhausted now other) ∧
    (max limit 0 < stack → out = s.run disk id source base file ∧
      ∃ run : ScriptRun disk, run.IsRoot s id source base file ∧ run.outcome = out ∧
        (∀ p path text, run.Reaches p → p.Scans disk path text →
          ∃ r : ScriptRun disk, r.StartedAt p path ∧ r.source = text) ∧
        (∀ r, run.Includes r →
          let reported := r.start.reported r.ended id
          (r.ended.interpreter id).report.diagnostics.toList =
            (r.start.interpreter id).report.diagnostics.toList ++ reported ∧
          (∀ result t, r.outcome = (.ok result, t) →
            result.diagnostics = reported ∧ (result.success = true ↔ reported = [])) ∧
          reported <:+: s.reported out.2 id ∧
          ∃ told, r.ended.notices = r.start.notices ++ told ∧
            told.filterMap Notice.diagnostic? = reported ∧
            (told.filter (·.diagnostic?.isSome)).flatMap Notice.debugLines =
              reported.map (·.format false)) ∧
        ∀ p, run.Reaches p → (p.session.interpreter id).report.errorCount =
          (p.session.interpreter id).report.diagnostics.size) := by
  intro now out reported limit overflow
  have hhosted := hs.hosted
  have hidle := hs.idle.activeRuns id
  have hwrites : WritesFor id s (s.operateOn stack disk (.run id source base file)) :=
    writesFor_operateOn hhosted.plain rfl
  have hended : Documented now out.2 := hs.documented.run stack disk hid hhosted.plain hidle
  have hcounted : out.2.Counted := hs.counted.operateOn stack disk (.run id source base file)
  have herror : ∀ other, ∀ d ∈ (out.2.interpreter other).report.diagnostics.toList,
      d.severity = .error := fun other d hd => ((hended.sourced other).diagnostics d hd).error
  have hown : (out.2.interpreter id).Sourced (Episode.Known now id) (Episode.Known now id)
      (fun d => stack ≤ max limit 0 ∧ d = overflow) (s.interpreter id).report.diagnostics.size := by
    refine hs.documented.sourced_run hid hhosted.plain hidle (fun _ h => h)
      (fun _ => Episode.Known.trimmed) (fun hstack => ⟨hstack, rfl⟩) fun d hd => ?_
    rw [← Array.length_toList, List.drop_length] at hd
    cases hd
  have hsuccess : ∀ result : RunResult, (∀ d ∈ result.diagnostics, d ∈ reported) →
      (result.success = true ↔ result.diagnostics = []) :=
    fun result hresult => RunResult.success_iff fun d hd =>
      (hown.diagnostics d (hresult d hd)).error
  refine ⟨(hwrites.reportGrew id).append, fun result t hresult => ?_,
    fun _ => hwrites.told_diagnostics hhosted.host hid,
    fun d hd => (hown.diagnostics d hd).scanned_or_exhausted,
    fun other => ⟨(hcounted other).eq_size (herror other), fun d hd => ?_⟩, fun hstack => ?_⟩
  · have hdiagnostics : result.diagnostics = s.reported t id := runWith_diagnostics hresult
    have hreported : result.diagnostics = reported := by
      rw [hdiagnostics]
      exact congrArg (s.reported · id) (congrArg (·.2) hresult).symm
    refine ⟨hreported, ?_⟩
    rw [← hreported]
    exact hsuccess result fun d hd => hreported ▸ hd
  · exact ((hended.sourced other).diagnostics d (Array.mem_toList_iff.2 hd)).traceable
  · have hrun : out = s.run disk id source base file :=
      runOn_eq_run disk source base file hhosted.plain hid hidle hstack
    obtain ⟨run, hroot, houtcome⟩ :=
      ScriptRun.exists_isRoot disk source base file hid hhosted.plain (.inl hidle)
    rw [← hrun] at houtcome
    have hlast : run.ended = out.2 := congrArg (·.2) houtcome
    have hstart := hroot.start
    have hinterpreter := hroot.interpreter
    refine ⟨hrun, run, hroot, houtcome, fun p path text hp hscans => ?_, fun r hr => ?_,
      fun p hp => ?_⟩
    · obtain ⟨r, hr, hsource, -⟩ := ScriptRun.exists_startedAt run.standing.toActing hp run.executed
        hscans.action hscans.host hscans.read
      exact ⟨r, hr, hsource⟩
    · have hpiece := hr.reported_within
      obtain ⟨hgrew, hresults, htold⟩ := hr.accounted (by rw [hstart]; exact hhosted.host)
      rw [hinterpreter] at hpiece hgrew hresults htold
      rw [hstart, hlast] at hpiece
      refine ⟨hgrew, fun result t hresult => ?_, hpiece, htold⟩
      have hdiagnostics := hresults result t hresult
      refine ⟨hdiagnostics, ?_⟩
      rw [← hdiagnostics]
      exact hsuccess result fun d hd => hpiece.subset (hdiagnostics ▸ hd)
    · have hgrew := hp.reportGrew
      rw [hinterpreter, hlast] at hgrew
      refine (hp.counted ?_ id).eq_size fun d hd => herror id d (hgrew.subset hd)
      rw [hstart]
      exact hs.counted

/-- One run defines a function whose line cannot be executed. The next one calls it, and runs an
external script with an unknown command: its diagnostics tell of the second line of the first script
and of the first line of the external one. -/
theorem diagnostics_traceable_to_earlier_run :
    let disk : Disk := { Disk.blank with read := fun _ => .ok "bad".toUTF8.toList }
    let fresh : Session := { host := some { surface := .buffer {} } }
    let added := fresh.operateOn 119 disk (.add {})
    let library := Operation.run 0 "function f \x7b\nprint @x\n\x7d" {} (some "lib")
    let s := added.operateOn 119 disk library
    let past : List Episode := [⟨added, 119, disk, library⟩, ⟨fresh, 119, disk, .add {}⟩]
    let source := "call f\n@EXTERNAL RUN a"
    let out := s.runOn 119 disk 0 source {} (some "main")
    (History (.buffer {}) past s ∧ 0 < s.interpreters.size) ∧
    (∀ d ∈ s.reported out.2 0,
      d.Scanned (⟨s, 119, disk, .run 0 source {} (some "main")⟩ :: past) 0) ∧
    (s.reported out.2 0).map (fun d => (d.code, d.location, d.source)) =
      [("E301", { line := some 2, file := some "lib" }, some ("print @x" : Text)),
        ("E201", { line := some 1, file := some "a" }, some ("bad" : Text))] := by
  intro disk fresh added library s past source
  have hadded : History (.buffer {}) [⟨fresh, 119, disk, .add {}⟩] added :=
    .next .start 119 disk (.add {}) trivial
  have hs : History (.buffer {}) past s :=
    .next hadded 119 disk library (by decide : 0 < added.interpreters.size)
  have hid : 0 < s.interpreters.size := by decide +kernel
  obtain ⟨-, -, -, hscanned, -, -⟩ := diagnostics_accounted_and_traceable (.buffer {}) past s hs 119
    disk 0 source {} (some "main") hid
  have hcodes : ∀ d ∈ s.reported (s.runOn 119 disk 0 source {} (some "main")).2 0,
      d.code ≠ "E501" := by
    decide +kernel
  have hstack : ¬ (119 : Int) ≤ max (s.interpreter 0).config.depthLimit 0 := by decide +kernel
  refine ⟨⟨hs, hid⟩, fun d hd => ?_, by decide +kernel⟩
  exact (hscanned d hd (hcodes d hd)).resolve_right fun h => hstack h.1

/-- The button of a window calls a function that runs a script, and the script starts again from the
top. On a stack that has room for four activations the second call inside it finds none left. The
guard of the script reports this, and its diagnostic has neither the place nor the text of a
line. -/
theorem exhausted_stack_reported_without_line :
    let disk : Disk := { Disk.blank with read := fun _ => .ok "call g".toUTF8.toList }
    let fresh : Session := { host := some { surface := .buffer {} } }
    let add := Operation.add { maxCallDepth := 2 }
    let added := fresh.operateOn 4 disk add
    let library := Operation.run 0
      ("function f \x7b\n@EXTERNAL RUN a\n\x7d\nfunction g \x7b\ncall h\n\x7d\n" ++
        "function h \x7b\n\x7d\n@NEW WINDOW \x7b\n@Content = \x7b\n" ++
        "BUTTON = \"b\": \x7b call f \x7d\n\x7d\n\x7d") {} none
    let opened := added.operateOn 4 disk library
    let s := opened.operateOn 4 disk (.press 0)
    let past : List Episode :=
      [⟨opened, 4, disk, .press 0⟩, ⟨added, 4, disk, library⟩, ⟨fresh, 4, disk, add⟩]
    let d := (Problem.depthExceeded 2).diagnostic
    History (.buffer {}) past s ∧ (s.interpreter 0).report.diagnostics.toList = [d] ∧
      d.code ≠ "E501" ∧ ¬ d.Scanned past 0 ∧ ¬ d.Stated past 0 := by
  intro disk fresh add added library opened s past d
  have hadded : History (.buffer {}) [⟨fresh, 4, disk, add⟩] added :=
    .next .start 4 disk add trivial
  have hopened := hadded.next 4 disk library (by decide : 0 < added.interpreters.size)
  refine ⟨hopened.next 4 disk (.press 0) trivial, by decide +kernel, by decide, ?_, ?_⟩
  · rintro ⟨e, -, source, file, k, line, -, -, -, hsource⟩
    cases hsource
  · rintro ⟨e, -, text, -, -, hsource⟩
    cases hsource

end LineScript
