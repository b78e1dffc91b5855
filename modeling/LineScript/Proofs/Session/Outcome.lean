import LineScript.Proofs.Session.Coupling

/-! # What operations come to

The outcome of operations is what is left of the content of a session when the debug channel and the
places that diagnostics name are disregarded: settings, stores and diagnostics of the interpreters,
what the host shows apart from the debug channel, and the notices that it was told in order.
Sessions with the same outcome are coupled, whatever lines the statements come from.
-/

namespace LineScript

def Diagnostic.unplaced (d : Diagnostic) : Diagnostic :=
  { d with location := {} }

def Interpreter.outcome (i : Interpreter) : Config × Store × List Diagnostic :=
  (i.config, i.store, i.report.diagnostics.toList.map Diagnostic.unplaced)

/-- What a host shows apart from the debug channel. -/
def Surface.front : Surface → Surface
  | .buffer shown => .buffer { shown with debug := #[] }
  | .console shown => .console { shown with debug := none }

def Host.front (host : Host) : Surface × Array OpenWindow :=
  (host.surface.front, host.windows)

def Notice.isDebug : Notice → Bool
  | .debug _ => true
  | _ => false

theorem Problem.unplaced_on (problem : Problem) {line line' : Line} (h : line'.text = line.text) :
    (problem.on line').unplaced = (problem.on line).unplaced := by
  simp [on, Diagnostic.unplaced, h]

theorem Statement.text_citedLine {line line' : Line} (h : line'.text = line.text) :
    (citedLine line').text = (citedLine line).text := by
  have hcommand : (ofLine line').command = (ofLine line).command := by
    simp only [ofLine, h]
  unfold citedLine
  rw [hcommand]
  split
  · exact h
  · exact congrArg Text.trimmed h

namespace Host

/-- A notice changes what a host shows in a way that does not depend on the debug channel. -/
theorem front_receive_congr {host host' : Host} (h : host'.front = host.front) (notice : Notice) :
    (host'.receive notice).front = (host.receive notice).front := by
  obtain ⟨surface, windows, executing⟩ := host
  obtain ⟨surface', windows', executing'⟩ := host'
  obtain ⟨hsurface, rfl⟩ := Prod.mk.inj h
  cases surface with
  | buffer buffer =>
      cases surface' with
      | buffer buffer' =>
          simp only [Surface.front, Surface.buffer.injEq, Buffer.mk.injEq] at hsurface
          cases notice <;> simp_all [front, receive, Buffer.receive, Surface.front]
      | console console => simp [Surface.front] at hsurface
  | console console =>
      cases surface' with
      | buffer buffer => simp [Surface.front] at hsurface
      | console console' =>
          simp only [Surface.front, Surface.console.injEq, Console.mk.injEq] at hsurface
          simp_all [front, receive, Console.receive, Surface.front]

theorem front_receive_debug (host : Host) (line : DebugLine) :
    (host.receive (.debug line)).front = host.front := by
  obtain ⟨surface, windows, executing⟩ := host
  cases surface with
  | buffer buffer => rfl
  | console console =>
      simp [front, receive, Console.receive, Surface.front, Notice.consoleOutput, writtenLines,
        windowsAfter]

/-- What a host shows apart from the debug channel, it makes of the notices that are not for it. -/
theorem front_receiveAll {host host' : Host} (h : host'.front = host.front)
    (notices : List Notice) :
    (host'.receiveAll notices).front =
      (host.receiveAll (notices.filter (!·.isDebug))).front := by
  induction notices generalizing host host' with
  | nil => exact h
  | cons notice notices ih =>
      cases notice with
      | debug line => exact ih ((front_receive_debug host' line).trans h)
      | _ => exact ih (front_receive_congr h _)

end Host

/-- Hosts that show the same and are told the same apart from the debug channel go on to show the
same apart from it. -/
theorem Session.Told.front_eq {s s' t t' : Session} {told told' : List Notice} (h : Told s t told)
    (h' : Told s' t' told') (hhost : s'.host = s.host)
    (htold : told'.filter (!·.isDebug) = told.filter (!·.isDebug)) :
    t'.host.map Host.front = t.host.map Host.front := by
  have hread : ∀ u : Session, u.host.map Host.front =
      (u.host.map Host.content).map fun found => (found.1.front, found.2) := by
    intro u
    cases u.host <;> rfl
  rw [hread, hread, h.host, h'.host, hhost]
  cases s.host with
  | none => rfl
  | some host =>
      have hfront : (host.receiveAll told').front = (host.receiveAll told).front := by
        rw [Host.front_receiveAll rfl, htold, ← Host.front_receiveAll rfl]
      exact congrArg some hfront

namespace Session

@[ext]
structure Outcome where
  interpreters : Array (Config × Store × List Diagnostic)
  shown : Option (Surface × Array OpenWindow)
  notices : List Notice

def outcome (s : Session) : Outcome :=
  { interpreters := s.interpreters.map Interpreter.outcome
    shown := s.host.map Host.front
    notices := s.notices.filter (!·.isDebug) }

variable {s t : Session}

/-! ## Reading the outcome -/

theorem interpreter_outcome_congr (h : t.outcome = s.outcome) (id : Nat) :
    (t.interpreter id).outcome = (s.interpreter id).outcome :=
  view_interpreter_congr Interpreter.outcome (congrArg (·.interpreters) h) id

theorem config_outcome_congr (h : t.outcome = s.outcome) (id : Nat) :
    (t.interpreter id).config = (s.interpreter id).config :=
  congrArg (·.1) (interpreter_outcome_congr h id)

theorem store_outcome_congr (h : t.outcome = s.outcome) (id : Nat) :
    (t.interpreter id).store = (s.interpreter id).store :=
  congrArg (·.2.1) (interpreter_outcome_congr h id)

theorem codes_outcome_congr (h : t.outcome = s.outcome) (id : Nat) :
    (t.interpreter id).report.codes = (s.interpreter id).report.codes := by
  have hread : ∀ i : Interpreter, i.report.codes = i.outcome.2.2.map (·.code) := by
    intro i
    simp [Report.codes, Interpreter.outcome, Function.comp_def, Diagnostic.unplaced]
  rw [hread, hread, interpreter_outcome_congr h]

theorem host_outcome_congr (h : t.outcome = s.outcome) : t.host.isSome = s.host.isSome := by
  have hshown := congrArg (·.shown.isSome) h
  simpa [outcome] using hshown

/-! ## Changes that the outcome does not see -/

theorem outcome_eq_of_content (h : t.content = s.content) : t.outcome = s.outcome := by
  have hread : ∀ u : Session, u.outcome =
      { interpreters := u.content.interpreters.map fun found =>
          (found.1, found.2.1, found.2.2.diagnostics.toList.map Diagnostic.unplaced)
        shown := u.content.host.map fun found => (found.1.front, found.2)
        notices := u.content.notices.filter (!·.isDebug) } := by
    intro u
    simp only [outcome, content, Array.map_map, Option.map_map]
    rfl
  rw [hread, hread, h]

theorem outcome_record {event event' : Event} (he : event.notice? = none)
    (he' : event'.notice? = none) (h : t.outcome = s.outcome) :
    (t.record event').outcome = (s.record event).outcome := by
  rw [outcome_eq_of_content (content_record s he), outcome_eq_of_content (content_record t he'), h]

theorem outcome_debug (s : Session) (line : DebugLine) :
    (s.tell (.debug line)).outcome = s.outcome := by
  unfold tell
  cases hhost : s.host with
  | none => rfl
  | some host =>
      have hnotices : ((s.record (.told (.debug line))).notices).filter (!·.isDebug) =
          s.notices.filter (!·.isDebug) := by
        simp [notices_record, Event.notice?, Notice.isDebug]
      simp only [outcome, Option.map_some, Host.front_receive_debug, hhost]
      exact congrArg (Outcome.mk _ _) hnotices

/-! ## Changes on both sides -/

theorem outcome_tell (notice : Notice) (h : t.outcome = s.outcome) :
    (t.tell notice).outcome = (s.tell notice).outcome := by
  have hshown : t.host.map Host.front = s.host.map Host.front := congrArg (·.shown) h
  have hnotices : (t.record (.told notice)).notices.filter (!·.isDebug) =
      (s.record (.told notice)).notices.filter (!·.isDebug) := by
    rw [notices_record, notices_record, List.filter_append, List.filter_append]
    exact congrArg (· ++ _) (congrArg (·.notices) h)
  unfold tell
  cases hs : s.host with
  | none =>
      cases ht : t.host with
      | none => exact h
      | some host' => simp [hs, ht] at hshown
  | some host =>
      cases ht : t.host with
      | none => simp [hs, ht] at hshown
      | some host' =>
          have hfront : host'.front = host.front := by simpa [hs, ht] using hshown
          refine Outcome.ext (congrArg (·.interpreters) h) ?_ hnotices
          exact congrArg some (Host.front_receive_congr hfront notice)

theorem outcome_modifyInterpreter {change change' : Interpreter → Interpreter} (id : Nat)
    (hchange : ∀ i j : Interpreter, j.outcome = i.outcome →
      (change' j).outcome = (change i).outcome)
    (h : t.outcome = s.outcome) :
    (t.modifyInterpreter id change').outcome = (s.modifyInterpreter id change).outcome := by
  refine Outcome.ext ?_ (congrArg (·.shown) h) (congrArg (·.notices) h)
  apply Array.ext_getElem?
  intro k
  have hk := congrArg (·.interpreters[k]?) h
  simp only [outcome, modifyInterpreter, Array.getElem?_map, Array.getElem?_modify] at hk ⊢
  by_cases hid : id = k
  · cases hs : s.interpreters[k]? with
    | none => simp_all
    | some i =>
        cases ht : t.interpreters[k]? with
        | none => simp_all
        | some j =>
            simp only [hs, ht, Option.map_some, Option.some.injEq, if_pos hid] at hk ⊢
            exact hchange i j hk
  · simpa [hid] using hk

theorem outcome_store (id : Nat) (change : Store → Store) (h : t.outcome = s.outcome) :
    (t.modifyInterpreter id fun i => { i with store := change i.store }).outcome =
      (s.modifyInterpreter id fun i => { i with store := change i.store }).outcome := by
  refine outcome_modifyInterpreter id ?_ h
  intro i j hij
  simp only [Interpreter.outcome, Prod.mk.injEq] at hij ⊢
  exact ⟨hij.1, congrArg change hij.2.1, hij.2.2⟩

/-- Apart from the debug channel, a diagnostic is added to a report and nothing else happens. -/
theorem outcome_reported (id : Nat) (d : Diagnostic) (s : Session) :
    (Exec.report id d s).2.outcome =
      (s.modifyInterpreter id fun i => { i with report := i.report.add d }).outcome :=
  (outcome_debug _ _).trans (outcome_eq_of_content (content_record _ rfl))

/-- A diagnostic adds the same to both outcomes, wherever it is placed. -/
theorem outcome_report {d d' : Diagnostic} (id : Nat) (hd : d'.unplaced = d.unplaced)
    (h : t.outcome = s.outcome) :
    (Exec.report id d' t).2.outcome = (Exec.report id d s).2.outcome := by
  rw [outcome_reported, outcome_reported]
  refine outcome_modifyInterpreter id ?_ h
  intro i j hij
  simp only [Interpreter.outcome, Prod.mk.injEq] at hij ⊢
  refine ⟨hij.1, hij.2.1, ?_⟩
  simp [Report.add, hij.2.2, hd]

theorem outcome_traced (s : Session) (id : Nat) (line : Line) :
    (s.traced id line).outcome = s.outcome := by
  unfold traced
  split
  · exact outcome_debug s _
  · rfl

/-- Sessions with the same outcome are coupled, whatever places their lines name. -/
theorem outcome_coupling :
    Coupling (fun s t => t.outcome = s.outcome) fun line line' => line'.text = line.text where
  kin_refl _ := rfl
  kin_cited h := Statement.text_citedLine h
  host := host_outcome_congr
  known h id name := by rw [store_outcome_congr h]
  body h id name := by
    rw [store_outcome_congr h]
    exact List.forall₂_same.2 fun _ _ => rfl
  action h hline id frame _ := by
    unfold actionOf
    rw [config_outcome_congr h, store_outcome_congr h, Action.of_ofLine_congr hline]
  codec h id := congrArg (·.codec) (config_outcome_congr h id)
  title h id := congrArg (·.defaultWindowTitle) (config_outcome_congr h id)
  told notice _ h := outcome_tell notice h
  logged _ _ _ _ h := outcome_record rfl rfl h
  sought _ h := outcome_record rfl rfl h
  performed id f g action _ h := by
    apply outcome_store id (·.after action)
    apply outcome_record rfl rfl
    rw [outcome_traced, outcome_traced, h]
  added id routine h := outcome_store id (·.addFunction routine) h
  reported id d h := outcome_report id rfl h
  refused id problem hline h := outcome_report id (problem.unplaced_on hline) h
  entered id frame frame' h := by
    rw [outcome_eq_of_content (content_enter _ id frame),
      outcome_eq_of_content (content_enter _ id frame')]
    exact h
  left id depth depth' h := by
    rw [outcome_eq_of_content (content_leave _ id depth),
      outcome_eq_of_content (content_leave _ id depth')]
    exact h
  begun id h := by
    rw [outcome_eq_of_content (content_beginRun _ id),
      outcome_eq_of_content (content_beginRun _ id)]
    exact h
  ended id h := by
    rw [outcome_eq_of_content (content_endRun _ id), outcome_eq_of_content (content_endRun _ id)]
    exact h

end Session

end LineScript
