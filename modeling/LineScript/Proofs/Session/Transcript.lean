import LineScript.Proofs.Session.Change

/-! # Transcripts

The transcript of a session only grows: no operation takes an event back, whether it returns or
breaks off. Between the beginning and the end of an execution, single changes add events of their
own, but none that begins or ends an execution.
-/

namespace LineScript

/-- An event that begins or ends an execution. -/
def Event.isBound : Event → Bool
  | .entered _ _ => true
  | .left _ => true
  | _ => false

namespace Session

/-- From `s` to `t` events that meet `P` were added to the transcript, and nothing else. -/
def Adds (P : Event → Prop) (s t : Session) : Prop :=
  ∃ events, t.transcript.toList = s.transcript.toList ++ events ∧ ∀ event ∈ events, P event

namespace Adds

variable {P Q : Event → Prop} {s t u : Session}

theorem refl (s : Session) : Adds P s s :=
  ⟨[], by simp, by simp⟩

theorem trans (hst : Adds P s t) (htu : Adds P t u) : Adds P s u := by
  obtain ⟨first, hfirst, hP⟩ := hst
  obtain ⟨second, hsecond, hP'⟩ := htu
  refine ⟨first ++ second, by rw [hsecond, hfirst, List.append_assoc], ?_⟩
  intro event hmem
  rcases List.mem_append.1 hmem with hmem | hmem
  · exact hP event hmem
  · exact hP' event hmem

theorem mono (himp : ∀ event, P event → Q event) (h : Adds P s t) : Adds Q s t := by
  obtain ⟨events, hevents, hP⟩ := h
  exact ⟨events, hevents, fun event hmem => himp event (hP event hmem)⟩

theorem record (s : Session) {event : Event} (h : P event) : Adds P s (s.record event) :=
  ⟨[event], by simp [Session.record], by simpa using h⟩

theorem tell (s : Session) {notice : Notice} (h : P (.told notice)) :
    Adds P s (s.tell notice) := by
  unfold Session.tell
  cases s.host with
  | none => exact refl s
  | some host => exact record s h

theorem of_transcript_eq (h : t.transcript = s.transcript) : Adds P s t :=
  ⟨[], by simp [h], by simp⟩

theorem mem (h : Adds P s t) {event : Event} (hmem : event ∈ s.transcript) :
    event ∈ t.transcript := by
  obtain ⟨events, hevents, -⟩ := h
  rw [← Array.mem_toList_iff, hevents]
  exact List.mem_append_left _ (Array.mem_toList_iff.2 hmem)

end Adds

theorem Change.adds {s t : Session} (h : Change s t) :
    Adds (fun event => event.isBound = false) s t := by
  cases h with
  | told notice => exact .tell s rfl
  | logged channel text => exact .record s rfl
  | sought path => exact .record s rfl
  | reported id d => exact .of_transcript_eq rfl
  | acted id frame line =>
      refine Adds.trans (t := s.record (.performed id frame line (s.actionOf id frame line))) ?_ ?_
      · exact .record s rfl
      · exact .of_transcript_eq rfl
  | functionAdded id routine => exact .of_transcript_eq rfl
  | wiped id => exact .of_transcript_eq rfl
  | reactionTaken rest => exact .of_transcript_eq rfl

theorem Changes.adds {s t : Session} (h : Changes s t) :
    Adds (fun event => event.isBound = false) s t := by
  induction h with
  | refl => exact .refl s
  | tail _ hc ih => exact ih.trans hc.adds

/-- Entering a frame adds an event, and so does leaving it. -/
theorem adds_enter (s : Session) (id : Nat) (frame : Frame) :
    (s.enter id frame).transcript.toList = s.transcript.toList ++ [.entered id frame] :=
  Array.toList_push

theorem adds_leave (s : Session) (id : Nat) (depth : Int) :
    (s.leave id depth).transcript.toList = s.transcript.toList ++ [.left id] :=
  Array.toList_push

theorem Adds.enter {P : Event → Prop} (s : Session) {id : Nat} {frame : Frame}
    (h : P (.entered id frame)) : Adds P s (s.enter id frame) :=
  ⟨_, adds_enter s id frame, by simpa using h⟩

theorem Adds.leave {P : Event → Prop} (s : Session) {id : Nat} (depth : Int) (h : P (.left id)) :
    Adds P s (s.leave id depth) :=
  ⟨_, adds_leave s id depth, by simpa using h⟩

/-- Every operation only adds to the transcript. -/
theorem adds_law : Law (Adds fun _ => True) where
  refl := .refl
  trans := .trans
  change h := h.adds.mono fun _ _ => trivial
  execution {s t _ _} h := (Adds.enter s trivial).trans (h.trans (Adds.leave t _ trivial))
  run h := h

end Session

/-! ## Structural passes -/

/-- An event of a structural pass: the host is told of a window or of a line on the debug channel,
or a line is logged. -/
def Event.isStructural : Event → Bool
  | .told (.opened _) => true
  | .told (.debug _) => true
  | .logged _ _ => true
  | _ => false

namespace Exec

open Session

variable {α β : Type}

/-- Adds no events but those of structural passes. -/
def Structural (x : Exec α) : Prop :=
  Within (Adds fun event => event.isStructural = true) x

theorem structural_pure (a : α) : Structural (pure a : Exec α) :=
  fun s => .refl s

theorem Structural.bind {x : Exec α} {f : α → Exec β} (hx : Structural x)
    (hf : ∀ a, Structural (f a)) : Structural (x >>= f) :=
  fun s => across_bind Adds.trans (hx s) fun a t _ => hf a t

theorem structural_interpreter (id : Nat) : Structural (interpreter id) :=
  fun s => .refl s

theorem structural_log (channel : Channel) (text : Text) : Structural (log channel text) :=
  fun s => .record s rfl

theorem structural_debug (line : DebugLine) : Structural (debug line) :=
  fun s => .tell s rfl

theorem structural_modifyInterpreter (id : Nat) (change : Interpreter → Interpreter) :
    Structural (modifyInterpreter id change) :=
  fun _ => .of_transcript_eq rfl

theorem structural_report (id : Nat) (d : Diagnostic) : Structural (report id d) :=
  (structural_modifyInterpreter id _).bind fun _ =>
    (structural_log _ _).bind fun _ => structural_debug _

theorem structural_addFunction (id : Nat) (routine : Routine) :
    Structural (addFunction id routine) := by
  refine (structural_interpreter id).bind fun i => ?_
  dsimp only
  split
  · exact (structural_log _ _).bind fun _ => structural_modifyInterpreter id _
  · exact structural_modifyInterpreter id _

theorem structural_openWindow (id : Nat) (base : Path) (body : List Text) :
    Structural (openWindow id base body) := by
  have htell : ∀ w, Structural (tell (.opened w)) := fun w s => .tell s rfl
  exact (structural_interpreter id).bind fun _ => (structural_log _ _).bind fun _ =>
    (htell _).bind fun _ => structural_pure _

theorem structural_takeSegment (id : Nat) (base : Path) (segment : Segment) :
    Structural (takeSegment id base segment) := by
  cases segment with
  | statement line => exact structural_pure none
  | function header name body closing =>
      exact (structural_addFunction id _).bind fun _ => structural_pure none
  | window header body closing =>
      exact (structural_openWindow id base _).bind fun w => structural_pure (some w)
  | inlineWindow header body =>
      exact (structural_openWindow id base body).bind fun w => structural_pure (some w)
  | rejected header problem =>
      exact (structural_report id _).bind fun _ => structural_pure none

theorem structural_takeSegments (id : Nat) (base : Path) (segments : List Segment) :
    Structural (takeSegments id base segments) := by
  induction segments with
  | nil => exact structural_pure []
  | cons segment rest ih =>
      exact (structural_takeSegment id base segment).bind fun _ => ih.bind fun _ =>
        structural_pure _

theorem structural_prepare (id : Nat) (source : Text) (base : Path) (file : Option Text) :
    Structural (prepare id source base file) := by
  have hbegin : Structural (modify (·.beginRun id)) := fun _ => .of_transcript_eq rfl
  exact (structural_interpreter id).bind fun _ => (structural_takeSegments id base _).bind fun _ =>
    (structural_log _ _).bind fun _ => (structural_debug _).bind fun _ =>
      hbegin.bind fun _ => structural_pure _

end Exec

end LineScript
