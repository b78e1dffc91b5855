import LineScript.Proofs.Session.Content
import LineScript.Proofs.Session.Evaluation

/-! # Signals

The signals of a session are its events as a host sees them, in order: what it is told, which
interpreter begins or ends to execute, and which script files are looked for. The statements that
are executed stand between them. The main result is that a host shows what it makes of the notices
among the signals, whatever operations they come from.
-/

namespace LineScript

def Notice.isTrace : Notice → Bool
  | .debug (.trace _) => true
  | _ => false

/-- An event without the depth that it happens at. -/
inductive Signal where
  | told (notice : Notice)
  | entered (interpreter : Nat)
  | left (interpreter : Nat)
  | sought (path : Path)
  | executed (interpreter : Nat) (text : Text)
  deriving DecidableEq, Repr

/-- The signal of an event. Lines for developers are none. -/
def Event.signal? : Event → Option Signal
  | .told notice => some (.told notice)
  | .logged _ _ => none
  | .entered id _ => some (.entered id)
  | .performed id _ line _ => some (.executed id line.text)
  | .left id => some (.left id)
  | .sought path => some (.sought path)

def Signal.notice? : Signal → Option Notice
  | .told notice => some notice
  | _ => none

/-- The signal comes from a statement itself: it is executed, or its trace line is shown. -/
def Signal.isStatement : Signal → Bool
  | .told notice => notice.isTrace
  | .executed _ _ => true
  | _ => false

theorem Event.notice?_eq_bind (event : Event) :
    event.notice? = event.signal?.bind Signal.notice? := by
  cases event <;> rfl

namespace Session

def signals (s : Session) : List Signal :=
  s.transcript.toList.filterMap Event.signal?

theorem notices_eq_filterMap (s : Session) : s.notices = s.signals.filterMap Signal.notice? := by
  unfold notices signals
  rw [List.filterMap_filterMap]
  exact congrArg (List.filterMap · s.transcript.toList) (funext Event.notice?_eq_bind)

/-- The trace line of a statement of interpreter `id`, if it is shown. -/
def traceSignals (s : Session) (id : Nat) (text : Text) : List Signal :=
  if s.host.isSome && (s.interpreter id).config.trace then [.told (.debug (.trace text))] else []

variable (s : Session) (id : Nat)

theorem signals_record (event : Event) :
    (s.record event).signals = s.signals ++ event.signal?.toList := by
  simp only [signals, record, Array.toList_push, List.filterMap_append, List.filterMap_cons,
    List.filterMap_nil]
  cases event.signal? <;> rfl

theorem signals_tell (notice : Notice) :
    (s.tell notice).signals = s.signals ++ if s.host.isSome then [.told notice] else [] := by
  unfold tell
  cases hhost : s.host with
  | none => simp
  | some host => exact signals_record s (.told notice)

theorem signals_traced (line : Line) :
    (s.traced id line).signals = s.signals ++ s.traceSignals id line.text := by
  unfold traced traceSignals
  by_cases htrace : (s.interpreter id).config.trace = true
  · rw [if_pos htrace, signals_tell, htrace, Bool.and_true]
  · simp [htrace]

/-- A statement is executed right after its trace line. -/
theorem signals_traced_act (frame : Frame) (line : Line) (action : Action) :
    ((s.traced id line).act id frame line action).signals =
      s.signals ++ (s.traceSignals id line.text ++ [.executed id line.text]) := by
  rw [← List.append_assoc, ← signals_traced]
  exact signals_record (s.traced id line) (.performed id frame line action)

theorem signals_enter (frame : Frame) : (s.enter id frame).signals = s.signals ++ [.entered id] :=
  signals_record _ (.entered id frame)

theorem signals_leave (depth : Int) : (s.leave id depth).signals = s.signals ++ [.left id] :=
  signals_record _ (.left id)

theorem signals_report (d : Diagnostic) :
    (Exec.report id d s).2.signals =
      s.signals ++ if s.host.isSome then [.told (.debug (.diagnostic d))] else [] := by
  have hlogged : ((s.modifyInterpreter id fun i => { i with report := i.report.add d }).record
      (.logged .execution (d.format false))).signals = s.signals := by
    rw [signals_record]
    exact List.append_nil _
  have htold := signals_tell ((s.modifyInterpreter id fun i =>
    { i with report := i.report.add d }).record (.logged .execution (d.format false)))
    (.debug (.diagnostic d))
  rw [hlogged] at htold
  exact htold

end Session

/-! ## What a host shows -/

namespace Host

def receiveAll (host : Host) (notices : List Notice) : Host :=
  notices.foldl receive host

theorem receiveAll_append (host : Host) (notices more : List Notice) :
    host.receiveAll (notices ++ more) = (host.receiveAll notices).receiveAll more :=
  List.foldl_append

/-- What a host makes of a notice rests on what it shows. -/
theorem content_receive_congr {host host' : Host} (h : host'.content = host.content)
    (notice : Notice) : (host'.receive notice).content = (host.receive notice).content := by
  obtain ⟨hsurface, hwindows⟩ := Prod.mk.inj h
  simp only [content, receive, hsurface, hwindows]

theorem content_receiveAll_congr {host host' : Host} (h : host'.content = host.content)
    (notices : List Notice) :
    (host'.receiveAll notices).content = (host.receiveAll notices).content := by
  induction notices generalizing host host' with
  | nil => exact h
  | cons notice notices ih => exact ih (content_receive_congr h notice)

end Host

namespace Session

/-- What the host was told, and what it shows. -/
def display (s : Session) : List Notice × Option (Surface × Array OpenWindow) :=
  (s.notices, s.host.map Host.content)

/-- From `s` to `t` the host was told the notices, and shows what it made of them. -/
structure Told (s t : Session) (told : List Notice) : Prop where
  notices : t.notices = s.notices ++ told
  host : t.host.map Host.content = s.host.map fun host => (host.receiveAll told).content

variable {s t u : Session} {told more : List Notice}

theorem Told.of_display (h : t.display = s.display) : Told s t [] where
  notices := by
    rw [List.append_nil]
    exact congrArg (·.1) h
  host := congrArg (·.2) h

theorem Told.trans (hst : Told s t told) (htu : Told t u more) : Told s u (told ++ more) where
  notices := by rw [htu.notices, hst.notices, List.append_assoc]
  host := by
    rw [htu.host]
    have hhost := hst.host
    cases hs : s.host with
    | none =>
        have ht : t.host = none := by simpa [hs] using hhost
        simp [ht]
    | some host =>
        cases ht : t.host with
        | none => simp [hs, ht] at hhost
        | some host' =>
            simp only [hs, ht, Option.map_some, Option.some.injEq] at hhost ⊢
            rw [Host.receiveAll_append]
            exact Host.content_receiveAll_congr hhost more

theorem Told.of_notices (h : ∃ told, Told s t told) (hnotices : t.notices = s.notices ++ told) :
    Told s t told := by
  obtain ⟨told', htold⟩ := h
  rw [htold.notices] at hnotices
  rw [← List.append_cancel_left hnotices]
  exact htold

theorem Told.of_signals {signals : List Signal} (h : ∃ told, Told s t told)
    (hsignals : t.signals = s.signals ++ signals) :
    Told s t (signals.filterMap Signal.notice?) := by
  apply of_notices h
  rw [notices_eq_filterMap, hsignals, List.filterMap_append, ← notices_eq_filterMap]

/-- Hosts that show the same and are told the same go on to show the same. -/
theorem Told.host_eq {s' t' : Session} (h : Told s t told) (h' : Told s' t' more)
    (hhost : s'.host = s.host) (hstart : s'.notices = s.notices) (hend : t'.notices = t.notices) :
    t'.host.map Host.content = t.host.map Host.content := by
  rw [h.notices, h'.notices, hstart] at hend
  rw [h.host, h'.host, hhost, List.append_cancel_left hend]

theorem notices_congr (h : t.signals = s.signals) : t.notices = s.notices := by
  rw [notices_eq_filterMap, notices_eq_filterMap, h]

theorem told_tell (s : Session) (notice : Notice) : ∃ told, Told s (s.tell notice) told := by
  unfold tell
  cases hhost : s.host with
  | none => exact ⟨[], .of_display rfl⟩
  | some host =>
      exact ⟨[notice], notices_record s (.told notice), by simp [hhost, Host.receiveAll]⟩

theorem display_eq_of_content (h : t.content = s.content) : t.display = s.display :=
  Prod.ext (congrArg (·.notices) h) (congrArg (·.host) h)

theorem Change.told_notices (h : Change s t) : ∃ told, Told s t told := by
  cases h with
  | told notice => exact told_tell s notice
  | logged channel text =>
      exact ⟨[], .of_display (display_eq_of_content (content_record s rfl))⟩
  | sought path => exact ⟨[], .of_display (display_eq_of_content (content_record s rfl))⟩
  | reported id d => exact ⟨[], .of_display rfl⟩
  | acted id frame line =>
      have hrecorded : (s.record (.performed id frame line (s.actionOf id frame line))).display =
          s.display := display_eq_of_content (content_record s rfl)
      exact ⟨[], .of_display hrecorded⟩
  | functionAdded id routine => exact ⟨[], .of_display rfl⟩
  | wiped id => exact ⟨[], .of_display rfl⟩
  | reactionTaken rest => exact ⟨[], .of_display rfl⟩

/-- Whatever happens, the host shows what it made of the notices. -/
theorem told_law : Law fun s t => ∃ told, Told s t told where
  refl s := ⟨[], .of_display rfl⟩
  trans := by
    rintro s t u ⟨told, hst⟩ ⟨more, htu⟩
    exact ⟨told ++ more, hst.trans htu⟩
  change := Change.told_notices
  execution := by
    rintro s t id frame ⟨told, h⟩
    have hentered : Told s (s.enter id frame) [] :=
      .of_display (display_eq_of_content (content_enter s id frame))
    have hleft : Told t (t.leave id (s.interpreter id).depth) [] :=
      .of_display (display_eq_of_content (content_leave t id _))
    exact ⟨_, (hentered.trans h).trans hleft⟩
  run := by
    rintro s t id ⟨told, h⟩
    have hbegun : Told s (s.beginRun id) [] :=
      .of_display (display_eq_of_content (content_beginRun s id))
    have hended : Told t (t.endRun id) [] :=
      .of_display (display_eq_of_content (content_endRun t id))
    exact ⟨_, (hbegun.trans h).trans hended⟩

theorem told_run (s : Session) (disk : Disk) (id : Nat) (source : Text) (base : Path)
    (file : Option Text) : ∃ told, Told s (s.run disk id source base file).2 told :=
  Exec.within_run disk told_law (Exec.within_say disk told_law _) id source base file s

end Session

end LineScript
