import LineScript.Proofs.Session.Nesting

/-! # Sessions of the same progress

Two sessions have made the same progress if, since they were started, the same was done to both:
their interpreters hold the same, and they have given the same signals. Settings that have no part
in what statements do may differ. Where trace lines show on one side only, the signals of that side
are those of the other with the trace lines put in. Such sessions are coupled, so executions keep
their progress the same.
-/

namespace LineScript

/-- What an interpreter holds, apart from its settings. -/
def Interpreter.holdings (i : Interpreter) : Store × Report :=
  (i.store, i.report)

namespace Session

def holdings (s : Session) : Array (Store × Report) :=
  s.interpreters.map Interpreter.holdings

variable {s t : Session}

/-! ## Reading what interpreters hold -/

theorem interpreter_holdings_congr (h : t.holdings = s.holdings) (id : Nat) :
    (t.interpreter id).holdings = (s.interpreter id).holdings :=
  view_interpreter_congr Interpreter.holdings h id

theorem store_holdings_congr (h : t.holdings = s.holdings) (id : Nat) :
    (t.interpreter id).store = (s.interpreter id).store :=
  congrArg (·.1) (interpreter_holdings_congr h id)

theorem report_holdings_congr (h : t.holdings = s.holdings) (id : Nat) :
    (t.interpreter id).report = (s.interpreter id).report :=
  congrArg (·.2) (interpreter_holdings_congr h id)

theorem holdings_eq_of_content (h : t.content = s.content) : t.holdings = s.holdings := by
  have hread : ∀ u : Session, u.holdings = u.content.interpreters.map (·.2) := by
    intro u
    simp only [holdings, content, Array.map_map]
    rfl
  rw [hread, hread, h]

theorem holdings_tell (s : Session) (notice : Notice) : (s.tell notice).holdings = s.holdings := by
  unfold holdings
  rw [interpreters_tell]

theorem holdings_traced (s : Session) (id : Nat) (line : Line) :
    (s.traced id line).holdings = s.holdings := by
  unfold traced
  split
  · exact holdings_tell s _
  · rfl

theorem holdings_modifyInterpreter {change : Interpreter → Interpreter}
    (change' : Store × Report → Store × Report) (id : Nat)
    (hchange : ∀ i, (change i).holdings = change' i.holdings) (h : t.holdings = s.holdings) :
    (t.modifyInterpreter id change).holdings = (s.modifyInterpreter id change).holdings := by
  have hread : ∀ u : Session, (u.modifyInterpreter id change).holdings =
      u.holdings.modify id change' := fun u =>
    map_modify u.interpreters id Interpreter.holdings change change' hchange
  rw [hread, hread, h]

theorem holdings_report (id : Nat) (d : Diagnostic) (h : t.holdings = s.holdings) :
    (Exec.report id d t).2.holdings = (Exec.report id d s).2.holdings := by
  have hread : ∀ u : Session, (Exec.report id d u).2.holdings =
      (u.modifyInterpreter id fun i => { i with report := i.report.add d }).holdings :=
    fun u => holdings_tell _ _
  rw [hread, hread]
  exact holdings_modifyInterpreter (fun held => (held.1, held.2.add d)) id (fun _ => rfl) h

theorem holdings_traced_act (id : Nat) (f g : Frame) (line : Line) (action : Action)
    (h : t.holdings = s.holdings) :
    ((t.traced id line).act id g line action).holdings =
      ((s.traced id line).act id f line action).holdings := by
  have hread : ∀ (u : Session) (frame : Frame),
      ((u.traced id line).act id frame line action).holdings =
        ((u.traced id line).modifyInterpreter id fun i =>
          { i with store := i.store.after action }).holdings := fun _ _ => rfl
  rw [hread, hread]
  refine holdings_modifyInterpreter (fun held => (held.1.after action, held.2)) id (fun _ => rfl) ?_
  rw [holdings_traced, holdings_traced, h]

theorem settings_tell (s : Session) (notice : Notice) : (s.tell notice).settings = s.settings :=
  settings_eq_of_books (books_tell s notice)

theorem settings_traced_act (s : Session) (id : Nat) (frame : Frame) (line : Line)
    (action : Action) : ((s.traced id line).act id frame line action).settings = s.settings := by
  apply settings_eq_of_books
  rw [books_act, books_traced]

theorem settings_report (s : Session) (id : Nat) (d : Diagnostic) :
    (Exec.report id d s).2.settings = s.settings := by
  have hadded : (s.modifyInterpreter id fun i => { i with report := i.report.add d }).settings =
      s.settings := settings_modifyInterpreter s id fun _ => rfl
  exact (settings_tell _ _).trans hadded

theorem traceSignals_congr (h : t.settings = s.settings) (id : Nat) (text : Text) :
    t.traceSignals id text = s.traceSignals id text := by
  have hhost : t.host.isSome = s.host.isSome := congrArg (·.2) h
  unfold traceSignals
  rw [hhost, config_eq_of_settings h id]

/-! ## Other settings -/

def configure (s : Session) (id : Nat) (change : Config → Config) : Session :=
  s.modifyInterpreter id fun i => { i with config := change i.config }

theorem holdings_configure (s : Session) (id : Nat) (change : Config → Config) :
    (s.configure id change).holdings = s.holdings :=
  map_modifyInterpreter s id fun _ => rfl

/-- Settings that come out the same after two changes agree for every interpreter. -/
theorem configure_congr {α : Type} (view : Config → α) (s : Session) (id : Nat)
    {change change' : Config → Config} (h : ∀ config, view (change' config) = view (change config))
    (other : Nat) :
    view ((s.configure id change').interpreter other).config =
      view ((s.configure id change).interpreter other).config := by
  unfold configure
  rw [interpreter_modifyInterpreter, interpreter_modifyInterpreter]
  split
  · exact h _
  · rfl

/-! ## The same progress -/

/-- Sessions whose progress can be compared: statements do the same thing under the settings of
both, apart from the depth limit. The mark of a signal of the second is what the first shows for it,
which is the signal itself, apart from the trace lines of statements. -/
structure Comparable (mark : Signal → List Signal) (s₀ t₀ : Session) : Prop where
  host : t₀.host.isSome = s₀.host.isSome
  overhead : ∀ id,
    (t₀.interpreter id).config.valueOverhead = (s₀.interpreter id).config.valueOverhead
  codec : ∀ id, (t₀.interpreter id).config.codec = (s₀.interpreter id).config.codec
  title : ∀ id,
    (t₀.interpreter id).config.defaultWindowTitle = (s₀.interpreter id).config.defaultWindowTitle
  shown : ∀ signal : Signal, signal.isStatement = false → mark signal = [signal]
  executed : ∀ id text, (t₀.traceSignals id text ++ [Signal.executed id text]).flatMap mark =
    s₀.traceSignals id text ++ [.executed id text]

/-- The trace lines among signals belong to statements of interpreters that show them. -/
def Traces (t₀ : Session) (signals : List Signal) : Prop :=
  ∀ text, Signal.told (.debug (.trace text)) ∈ signals →
    ∃ id, (t₀.interpreter id).config.trace ∧ Signal.executed id text ∈ signals

/-- From `s₀` to `s` the same was done as from `t₀` to `t`. -/
structure SameProgress (mark : Signal → List Signal) (s₀ t₀ s t : Session) : Prop where
  first : s.settings = s₀.settings
  second : t.settings = t₀.settings
  holdings : t.holdings = s.holdings
  signals : ∃ more, s.signals = s₀.signals ++ more.flatMap mark ∧ t.signals = t₀.signals ++ more ∧
    t₀.Traces more

variable {mark : Signal → List Signal} {s₀ t₀ s' t' : Session}

theorem Traces.append {signals more : List Signal} (h : t₀.Traces signals)
    (hmore : t₀.Traces more) : t₀.Traces (signals ++ more) := by
  intro text htext
  rcases List.mem_append.1 htext with hin | hin
  · obtain ⟨id, htrace, hmem⟩ := h text hin
    exact ⟨id, htrace, List.mem_append_left _ hmem⟩
  · obtain ⟨id, htrace, hmem⟩ := hmore text hin
    exact ⟨id, htrace, List.mem_append_right _ hmem⟩

theorem traces_traceSignals (t₀ : Session) (id : Nat) (text : Text) :
    t₀.Traces (t₀.traceSignals id text ++ [.executed id text]) := by
  intro other hother
  unfold traceSignals at hother ⊢
  split at hother
  · rename_i hshown
    have htext : other = text := by simpa using hother
    refine ⟨id, ?_, by simp [htext]⟩
    simp only [Bool.and_eq_true] at hshown
    exact hshown.2
  · simp at hother

theorem SameProgress.refl (hholdings : t₀.holdings = s₀.holdings) : SameProgress mark s₀ t₀ s₀ t₀ :=
  ⟨rfl, rfl, hholdings, [], by simp [Traces]⟩

/-- The progress stays the same if both give signals that go together. -/
theorem SameProgress.extend (h : SameProgress mark s₀ t₀ s t) {shown signals : List Signal}
    (hfirst : s'.settings = s.settings) (hsecond : t'.settings = t.settings)
    (hholdings : t'.holdings = s'.holdings) (hs : s'.signals = s.signals ++ shown)
    (ht : t'.signals = t.signals ++ signals) (hmark : signals.flatMap mark = shown)
    (htraces : t₀.Traces signals) : SameProgress mark s₀ t₀ s' t' := by
  obtain ⟨more, hmore, hmore', htraces'⟩ := h.signals
  refine ⟨hfirst.trans h.first, hsecond.trans h.second, hholdings, more ++ signals, ?_, ?_,
    htraces'.append htraces⟩
  · rw [hs, hmore, List.flatMap_append, hmark, List.append_assoc]
  · rw [ht, hmore', List.append_assoc]

/-- Sessions whose settings differ at most in the depth limit show the same signals. -/
theorem Comparable.of_configs (hhost : t₀.host.isSome = s₀.host.isSome)
    (hoverhead : ∀ id,
      (t₀.interpreter id).config.valueOverhead = (s₀.interpreter id).config.valueOverhead)
    (hcodec : ∀ id, (t₀.interpreter id).config.codec = (s₀.interpreter id).config.codec)
    (htitle : ∀ id, (t₀.interpreter id).config.defaultWindowTitle =
      (s₀.interpreter id).config.defaultWindowTitle)
    (htrace : ∀ id, (t₀.interpreter id).config.trace = (s₀.interpreter id).config.trace) :
    Comparable (fun signal => [signal]) s₀ t₀ where
  host := hhost
  overhead := hoverhead
  codec := hcodec
  title := htitle
  shown _ _ := rfl
  executed id text := by
    rw [List.flatMap_singleton']
    unfold traceSignals
    rw [hhost, htrace]

theorem Comparable.of_settings (h : t₀.settings = s₀.settings) :
    Comparable (fun signal => [signal]) s₀ t₀ := by
  have hconfig := config_eq_of_settings h
  refine .of_configs (congrArg (·.2) h) ?_ ?_ ?_ ?_
  · exact fun id => congrArg (·.valueOverhead) (hconfig id)
  · exact fun id => congrArg (·.codec) (hconfig id)
  · exact fun id => congrArg (·.defaultWindowTitle) (hconfig id)
  · exact fun id => congrArg (·.trace) (hconfig id)

theorem SameProgress.signals_eq (h : SameProgress (fun signal => [signal]) s₀ t₀ s t)
    (hstart : t₀.signals = s₀.signals) : t.signals = s.signals := by
  obtain ⟨more, hs, ht, -⟩ := h.signals
  rw [hs, ht, hstart, List.flatMap_singleton']

theorem SameProgress.notices (h : SameProgress (fun signal => [signal]) s₀ t₀ s t) :
    ∃ told, s.notices = s₀.notices ++ told ∧ t.notices = t₀.notices ++ told := by
  obtain ⟨more, hs, ht, -⟩ := h.signals
  rw [List.flatMap_singleton'] at hs
  simp only [notices_eq_filterMap, hs, ht, List.filterMap_append]
  exact ⟨_, rfl, rfl⟩

theorem isStatement_of_mem_told {notice : Notice} (hnotice : notice.isTrace = false)
    {shown : Bool} :
    ∀ signal ∈ if shown then [Signal.told notice] else [], signal.isStatement = false := by
  intro signal hsignal
  split at hsignal
  · rw [List.mem_singleton.1 hsignal]
    exact hnotice
  · cases hsignal

section Comparable

variable (comparable : Comparable mark s₀ t₀)

include comparable

theorem SameProgress.config (h : SameProgress mark s₀ t₀ s t) (id : Nat) :
    (t.interpreter id).config.valueOverhead = (s.interpreter id).config.valueOverhead ∧
    (t.interpreter id).config.codec = (s.interpreter id).config.codec ∧
    (t.interpreter id).config.defaultWindowTitle =
      (s.interpreter id).config.defaultWindowTitle := by
  rw [config_eq_of_settings h.first, config_eq_of_settings h.second]
  exact ⟨comparable.overhead id, comparable.codec id, comparable.title id⟩

theorem SameProgress.host (h : SameProgress mark s₀ t₀ s t) : t.host.isSome = s.host.isSome := by
  have hfirst : s.host.isSome = s₀.host.isSome := congrArg (·.2) h.first
  have hsecond : t.host.isSome = t₀.host.isSome := congrArg (·.2) h.second
  rw [hfirst, hsecond, comparable.host]

/-- The progress stays the same if both give the same signals, none of which comes from a statement.
-/
theorem SameProgress.extend_same (h : SameProgress mark s₀ t₀ s t) {signals : List Signal}
    (hfirst : s'.settings = s.settings) (hsecond : t'.settings = t.settings)
    (hholdings : t'.holdings = s'.holdings) (hs : s'.signals = s.signals ++ signals)
    (ht : t'.signals = t.signals ++ signals)
    (hshown : ∀ signal ∈ signals, signal.isStatement = false) : SameProgress mark s₀ t₀ s' t' := by
  refine h.extend hfirst hsecond hholdings hs ht ?_ ?_
  · calc signals.flatMap mark = signals.flatMap fun signal => [signal] :=
          List.flatMap_congr fun signal hsignal => comparable.shown signal (hshown signal hsignal)
      _ = signals := List.flatMap_singleton' signals
  · intro text htext
    cases hshown _ htext

/-- The progress stays the same when executions and runs begin and end. -/
theorem SameProgress.of_content (h : SameProgress mark s₀ t₀ s t) {signals : List Signal}
    (hs : s'.content = s.content) (ht : t'.content = t.content)
    (hfirst : s'.settings = s.settings) (hsecond : t'.settings = t.settings)
    (hs' : s'.signals = s.signals ++ signals) (ht' : t'.signals = t.signals ++ signals)
    (hshown : ∀ signal ∈ signals, signal.isStatement = false) : SameProgress mark s₀ t₀ s' t' := by
  refine h.extend_same comparable hfirst hsecond ?_ hs' ht' hshown
  rw [holdings_eq_of_content hs, holdings_eq_of_content ht, h.holdings]

theorem SameProgress.record (h : SameProgress mark s₀ t₀ s t) {event event' : Event}
    (he : event.notice? = none) (he' : event'.notice? = none)
    (hsignal : event'.signal? = event.signal?)
    (hshown : ∀ signal ∈ event.signal?, signal.isStatement = false) :
    SameProgress mark s₀ t₀ (s.record event) (t.record event') := by
  have ht := signals_record t event'
  rw [hsignal] at ht
  refine h.of_content comparable (content_record s he) (content_record t he') rfl rfl
    (signals_record s event) ht ?_
  intro signal hmem
  exact hshown signal (Option.mem_toList.1 hmem)

theorem SameProgress.tell (h : SameProgress mark s₀ t₀ s t) {notice : Notice}
    (hnotice : notice.isTrace = false) :
    SameProgress mark s₀ t₀ (s.tell notice) (t.tell notice) := by
  have ht := signals_tell t notice
  rw [h.host comparable] at ht
  refine h.extend_same comparable (settings_tell s _) (settings_tell t _) ?_ (signals_tell s notice)
    ht (isStatement_of_mem_told hnotice)
  rw [holdings_tell, holdings_tell, h.holdings]

theorem SameProgress.report (h : SameProgress mark s₀ t₀ s t) (id : Nat) (d : Diagnostic) :
    SameProgress mark s₀ t₀ (Exec.report id d s).2 (Exec.report id d t).2 := by
  have ht := signals_report t id d
  rw [h.host comparable] at ht
  exact h.extend_same comparable (settings_report s id d) (settings_report t id d)
    (holdings_report id d h.holdings) (signals_report s id d) ht (isStatement_of_mem_told rfl)

theorem SameProgress.performed (h : SameProgress mark s₀ t₀ s t) (id : Nat) (f g : Frame)
    (line : Line)
    (action : Action) :
    SameProgress mark s₀ t₀ ((s.traced id line).act id f line action)
      ((t.traced id line).act id g line action) := by
  have hs := signals_traced_act s id f line action
  have ht := signals_traced_act t id g line action
  rw [traceSignals_congr h.first] at hs
  rw [traceSignals_congr h.second] at ht
  exact h.extend (settings_traced_act s id f line action) (settings_traced_act t id g line action)
    (holdings_traced_act id f g line action h.holdings) hs ht (comparable.executed id line.text)
    (traces_traceSignals t₀ id line.text)

theorem sameProgress_coupling :
    Coupling (SameProgress mark s₀ t₀) fun line line' => line' = line where
  kin_refl _ := rfl
  kin_cited h := h ▸ rfl
  host h := h.host comparable
  known h id name := by rw [store_holdings_congr h.holdings]
  body h id name := by
    rw [store_holdings_congr h.holdings]
    exact List.forall₂_same.2 fun _ _ => rfl
  action h hline id frame hlimit := by
    obtain ⟨hoverhead, hcodec, -⟩ := h.config comparable id
    unfold actionOf
    rw [hline, store_holdings_congr h.holdings]
    refine Action.of_congr hoverhead hcodec rfl ?_
    intro _ action
    unfold Action.nested
    rw [hlimit]
  codec h id := (h.config comparable id).2.1
  title h id := (h.config comparable id).2.2
  told notice hnotice h := h.tell comparable hnotice
  logged _ _ _ _ h := h.record comparable rfl rfl rfl (by simp [Event.signal?])
  sought path h := h.record comparable rfl rfl rfl (by simp [Event.signal?, Signal.isStatement])
  performed id f g action hline h := by
    subst hline
    exact h.performed comparable id f g _ action
  added id routine h := by
    refine h.extend_same comparable (settings_modifyInterpreter _ id fun _ => rfl)
      (settings_modifyInterpreter _ id fun _ => rfl) ?_ (List.append_nil _).symm
      (List.append_nil _).symm (by simp)
    exact holdings_modifyInterpreter (fun held => (held.1.addFunction routine, held.2)) id
      (fun _ => rfl) h.holdings
  reported id d h := h.report comparable id d
  refused id problem hline h := by
    subst hline
    exact h.report comparable id _
  entered id frame frame' h :=
    h.of_content comparable (content_enter _ id frame) (content_enter _ id frame')
      (settings_enter _ id frame) (settings_enter _ id frame') (signals_enter _ id frame)
      (signals_enter _ id frame') (by simp [Signal.isStatement])
  left id depth depth' h :=
    h.of_content comparable (content_leave _ id depth) (content_leave _ id depth')
      (settings_leave _ id depth) (settings_leave _ id depth') (signals_leave _ id depth)
      (signals_leave _ id depth') (by simp [Signal.isStatement])
  begun id h := h.of_content comparable (content_beginRun _ id) (content_beginRun _ id)
    (settings_beginRun _ id) (settings_beginRun _ id) (List.append_nil _).symm
    (List.append_nil _).symm (by simp)
  ended id h := h.of_content comparable (content_endRun _ id) (content_endRun _ id)
    (settings_endRun _ id) (settings_endRun _ id) (List.append_nil _).symm
    (List.append_nil _).symm (by simp)

end Comparable

end Session

/-! ## Runs of the same progress -/

namespace Exec

open Session

variable {mark : Signal → List Signal} {s₀ t₀ s t : Session} {disk : Disk}
  {say : Text → Exec Unit} {id : Nat} {source : Text} {base : Path} {file : Option Text}

theorem prepare_first {script : Prepared} (h : prepare id source base file s = (.ok script, t)) :
    script.first = (s.interpreter id).report.diagnostics.size := by
  obtain ⟨windows, u, htaken, -⟩ :=
    calm_takeSegments id base (Segment.ofLines (Line.scan source file)) s
  unfold prepare at h
  simp only [bind_apply, interpreter, htaken] at h
  obtain ⟨hscript, -⟩ := Prod.mk.inj h
  cases hscript
  rfl

/-- Sessions of the same progress prepare a script in the same way, and its run is going to give the
same result in both if the reports agree then. -/
theorem prepare_sameProgress (comparable : Comparable mark s₀ t₀) (h : SameProgress mark s₀ t₀ s t)
    (id : Nat)
    (source : Text) (base : Path) (file : Option Text) :
    ∃ script script' u v, prepare id source base file s = (.ok script, u) ∧
      prepare id source base file t = (.ok script', v) ∧ SameProgress mark s₀ t₀ u v ∧
      script'.statements = script.statements ∧
      ∀ s' t', SameProgress mark s₀ t₀ s' t' →
        script.result (s'.interpreter id) = script'.result (t'.interpreter id) := by
  obtain ⟨script, u, hp, -⟩ := prepare_apply id source base file s
  have hmatch := matches_prepare (sameProgress_coupling comparable) id source base file s t h
  rw [hp] at hmatch
  obtain ⟨script', v, hp', ⟨-, hstatements, hfunctions, hwindows⟩, hR⟩ := hmatch.of_ok
  refine ⟨script, script', _, v, hp, hp', hR, hstatements, ?_⟩
  intro s' t' h'
  unfold Prepared.result
  rw [hstatements, hfunctions, hwindows, prepare_first hp, prepare_first hp',
    report_holdings_congr h.holdings, report_holdings_congr h'.holdings]

/-- Runs in sessions of the same progress and nesting give the same result. -/
theorem match_run_sameProgress (comparable : Comparable mark s₀ t₀)
    (hsay : ∀ text, Matches (SameProgress mark s₀ t₀) Eq (say text) (say text))
    (hbalanced : ∀ text, Balanced (say text)) (h : SameProgress mark s₀ t₀ s t)
    (hnesting : t.nesting = s.nesting) (id : Nat) (source : Text) (base : Path)
    (file : Option Text) :
    Match (SameProgress mark s₀ t₀) Eq (run disk say id source base file s)
      (run disk say id source base file t) := by
  have coupling := sameProgress_coupling comparable
  obtain ⟨script, script', u, v, hp, hp', hR, hstatements, hresult⟩ :=
    prepare_sameProgress comparable h id source base file
  obtain ⟨hframe, hnesting'⟩ := prepare_nesting_congr hnesting hp hp'
  have hlimit : (t.interpreter id).config.depthLimit = (s.interpreter id).config.depthLimit :=
    congrArg (·.1) (interpreter_nesting_congr hnesting id)
  refine match_run coupling hp hp' hresult ?_
  rw [hlimit, hframe, hstatements]
  exact match_each_lines coupling hsay hbalanced _ (List.forall₂_same.2 fun _ _ => rfl)
    (coupling.entered id _ _ hR) (nesting_enter_congr hnesting' id _)

/-- A statement that is executed in sessions of the same progress and nesting ends in the same way.
-/
theorem match_execute_sameProgress (comparable : Comparable mark s₀ t₀)
    (hsay : ∀ text, Matches (SameProgress mark s₀ t₀) Eq (say text) (say text))
    (hbalanced : ∀ text, Balanced (say text)) (h : SameProgress mark s₀ t₀ s t)
    (hnesting : t.nesting = s.nesting) (id : Nat) (text : Text) (base : Path) :
    Match (SameProgress mark s₀ t₀) Eq (execute disk say id text base s)
      (execute disk say id text base t) := by
  have hlimit : (t.interpreter id).config.depthLimit = (s.interpreter id).config.depthLimit :=
    congrArg (·.1) (interpreter_nesting_congr hnesting id)
  have hlevels : levelsFrom (t.interpreter id) 0 = levelsFrom (s.interpreter id) 0 := by
    unfold levelsFrom
    rw [hlimit]
  have hread : ∀ u : Session, execute disk say id text base u =
      lines disk say (levelsFrom (u.interpreter id) 0) id { base } [.ofStatement text] u :=
    fun _ => rfl
  rw [hread, hread, hlevels]
  exact runsCoupled_lines (sameProgress_coupling comparable) hsay hbalanced _ _ _ _ _ _ _
    (.cons rfl .nil) h hnesting

end Exec

end LineScript
