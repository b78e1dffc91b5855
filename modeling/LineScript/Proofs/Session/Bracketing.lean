import LineScript.Proofs.Session.WritesFor
import LineScript.Proofs.Session.Transcript

/-! # External scripts in brackets

What an external script prints stands between a line that says that it is running and a line that
says that it has ended. `Bracketed` is the grammar of the events of an operation that returns: it
accounts for every printed line, and so for every one of these brackets. The induction is over
nested executions and over reactions inside one another.

On a stack that is exhausted the brackets inside a guarded run stay open, but then the guard tells
of it. So the induction is for any predicate that the rules of the grammar hold for: one is being
bracketed, another being bracketed unless a guard told of an exhausted stack.
-/

namespace LineScript

def openingBracket (path : Text) : Text :=
  ("--- Running external script: " ++ path ++ " ---")

def closingBracket (path : Text) : Text :=
  ("--- End of " ++ path ++ " ---")

/-- An event that has no part in the brackets: nothing is printed, no execution begins or ends, and
no external script is asked for. -/
def Event.isPlain : Event → Bool
  | .told (.output _) => false
  | .told _ => true
  | .logged _ _ => true
  | .entered _ _ => false
  | .performed _ _ _ (.print _) => false
  | .performed _ _ _ (.external _) => false
  | .performed _ _ _ _ => true
  | .left _ => false
  | .sought _ => false

/-- The events between which every external script that is run stands in its brackets. Every line
that is printed is that of a print statement, one of the two lines about a script that cannot be
read, or a bracket. -/
inductive Bracketed : List Event → Prop
  | nil : Bracketed []
  | append {events more : List Event} (h : Bracketed events) (hmore : Bracketed more) :
      Bracketed (events ++ more)
  | plain {event : Event} (h : event.isPlain = true) : Bracketed [event]
  | printed (id : Nat) (frame : Frame) (line : Line) (text : Text) :
      Bracketed [.performed id frame line (.print text), .told (.output text)]
  | execution (id : Nat) (frame : Frame) {inside : List Event} (h : Bracketed inside) :
      Bracketed (.entered id frame :: inside ++ [.left id])
  | lacking (id : Nat) (frame : Frame) (line : Line) (path : Text) {resolved : Path}
      (reason : Unreadable) {between : List Event}
      (hresolved : resolved = frame.base.join (.ofText path)) (h : Bracketed between) :
      Bracketed ([.performed id frame line (.external path), .sought resolved,
        .logged .host ("External script " ++ resolved.text ++ s!" unreadable: {reason.message}"),
        .told (.output ("Error: could not read file " ++ path ++ "."))] ++ between ++
          [.told (.output ("Check that the file exists at: " ++ resolved.text))])
  | script (id : Nat) (frame : Frame) (line : Line) (path : Text) {resolved : Path}
      {inside : List Event} (hresolved : resolved = frame.base.join (.ofText path))
      (h : Bracketed inside) :
      Bracketed ([.performed id frame line (.external path), .sought resolved,
        .told (.output (openingBracket path))] ++ inside ++
          [.told (.output (closingBracket path))])

/-- The rules of the grammar hold for a predicate. -/
class BracketRules (B : List Event → Prop) : Prop where
  nil : B []
  append {events more : List Event} : B events → B more → B (events ++ more)
  plain {event : Event} : event.isPlain = true → B [event]
  printed (id : Nat) (frame : Frame) (line : Line) (text : Text) :
    B [.performed id frame line (.print text), .told (.output text)]
  execution (id : Nat) (frame : Frame) {inside : List Event} :
    B inside → B (.entered id frame :: inside ++ [.left id])
  lacking (id : Nat) (frame : Frame) (line : Line) (path : Text) {resolved : Path}
    (reason : Unreadable) {between : List Event} :
    resolved = frame.base.join (.ofText path) → B between →
    B ([.performed id frame line (.external path), .sought resolved,
      .logged .host ("External script " ++ resolved.text ++ s!" unreadable: {reason.message}"),
      .told (.output ("Error: could not read file " ++ path ++ "."))] ++ between ++
        [.told (.output ("Check that the file exists at: " ++ resolved.text))])
  script (id : Nat) (frame : Frame) (line : Line) (path : Text) {resolved : Path}
    {inside : List Event} : resolved = frame.base.join (.ofText path) → B inside →
    B ([.performed id frame line (.external path), .sought resolved,
      .told (.output (openingBracket path))] ++ inside ++
        [.told (.output (closingBracket path))])

instance : BracketRules Bracketed where
  nil := .nil
  append := .append
  plain := .plain
  printed := .printed
  execution id frame _ := .execution id frame
  lacking id frame line path _ reason _ := .lacking id frame line path reason
  script id frame line path _ _ := .script id frame line path

/-- The host is told by a guard that the stack was exhausted. Where a statement is refused for its
depth, the diagnostic has the text of its line. -/
def Event.isOverflow : Event → Bool
  | .told (.debug (.diagnostic d)) => d.code == "E303" && d.source.isNone
  | _ => false

/-- The events are bracketed, unless a guard told of an exhausted stack. -/
def BracketedUnlessExhausted (events : List Event) : Prop :=
  (∀ event ∈ events, event.isOverflow = false) → Bracketed events

instance : BracketRules BracketedUnlessExhausted where
  nil _ := .nil
  append h h' hnone :=
    .append (h fun event hmem => hnone event (List.mem_append_left _ hmem))
      (h' fun event hmem => hnone event (List.mem_append_right _ hmem))
  plain h _ := .plain h
  printed id frame line text _ := .printed id frame line text
  execution id frame _ h hnone :=
    .execution id frame (h fun event hmem => hnone event (by simp [hmem]))
  lacking id frame line path _ reason _ hresolved h hnone :=
    .lacking id frame line path reason hresolved
      (h fun event hmem => hnone event (by simp [hmem]))
  script id frame line path _ _ hresolved h hnone :=
    .script id frame line path hresolved (h fun event hmem => hnone event (by simp [hmem]))

variable {B : List Event → Prop}

theorem Event.isPlain_of_isStructural {event : Event} (h : event.isStructural = true) :
    event.isPlain = true := by
  cases event with
  | told notice => cases notice <;> first | rfl | cases h
  | logged channel text => rfl
  | _ => cases h

theorem BracketRules.of_plain [BracketRules B] {events : List Event}
    (h : ∀ event ∈ events, event.isPlain = true) : B events := by
  induction events with
  | nil => exact BracketRules.nil
  | cons event events ih =>
      exact BracketRules.append (BracketRules.plain (h event List.mem_cons_self))
        (ih fun later hlater => h later (List.mem_cons_of_mem event hlater))

namespace Session

/-- From `s` to `t` these events were added to the transcript, if there is a host. -/
structure Records (s t : Session) (events : List Event) : Prop where
  host : t.host.isSome = s.host.isSome
  transcript : s.host.isSome → t.transcript.toList = s.transcript.toList ++ events

namespace Records

variable {s t u : Session} {events more : List Event}

theorem trans (hst : Records s t events) (htu : Records t u more) :
    Records s u (events ++ more) where
  host := htu.host.trans hst.host
  transcript hhost := by
    rw [htu.transcript (by rw [hst.host]; exact hhost), hst.transcript hhost, List.append_assoc]

theorem of_eq (hhost : t.host.isSome = s.host.isSome) (htranscript : t.transcript = s.transcript) :
    Records s t [] where
  host := hhost
  transcript _ := by rw [htranscript, List.append_nil]

theorem refl (s : Session) : Records s s [] :=
  of_eq rfl rfl

theorem record (s : Session) (event : Event) : Records s (s.record event) [event] where
  host := rfl
  transcript _ := Array.toList_push

theorem tell (s : Session) (notice : Notice) : Records s (s.tell notice) [.told notice] where
  host := isSome_host_tell s notice
  transcript hhost := by
    obtain ⟨host, hhost⟩ := Option.isSome_iff_exists.1 hhost
    rw [Session.tell, hhost]
    exact Array.toList_push

theorem enter (s : Session) (id : Nat) (frame : Frame) :
    Records s (s.enter id frame) [.entered id frame] where
  host := congrArg (·.2) (settings_enter s id frame)
  transcript _ := adds_enter s id frame

theorem leave (s : Session) (id : Nat) (depth : Int) :
    Records s (s.leave id depth) [.left id] where
  host := congrArg (·.2) (settings_leave s id depth)
  transcript _ := adds_leave s id depth

end Records

theorem Records.of_adds {P : Event → Prop} {s t : Session} (hadds : Adds P s t)
    (hbooks : t.books = s.books) : ∃ events, Records s t events := by
  obtain ⟨events, hevents, -⟩ := hadds
  exact ⟨events, congrArg (·.2) (settings_eq_of_books hbooks), fun _ => hevents⟩

/-- From `s` to `t` the events that were added are bracketed, in the sense of `B`. -/
def Brackets (B : List Event → Prop) (s t : Session) : Prop :=
  ∃ events, Records s t events ∧ B events

namespace Brackets

variable [BracketRules B] {s t u : Session}

theorem refl (s : Session) : Brackets B s s :=
  ⟨[], .refl s, BracketRules.nil⟩

theorem trans (hst : Brackets B s t) (htu : Brackets B t u) : Brackets B s u := by
  obtain ⟨events, hevents, hbracketed⟩ := hst
  obtain ⟨more, hmore, hbracketed'⟩ := htu
  exact ⟨events ++ more, hevents.trans hmore, BracketRules.append hbracketed hbracketed'⟩

theorem record (s : Session) {event : Event} (h : event.isPlain = true) :
    Brackets B s (s.record event) :=
  ⟨[event], .record s event, BracketRules.plain h⟩

theorem tell (s : Session) {notice : Notice} (h : (Event.told notice).isPlain = true) :
    Brackets B s (s.tell notice) :=
  ⟨[.told notice], .tell s notice, BracketRules.plain h⟩

theorem modifyInterpreter (s : Session) (id : Nat) (change : Interpreter → Interpreter) :
    Brackets B s (s.modifyInterpreter id change) :=
  ⟨[], .of_eq rfl rfl, BracketRules.nil⟩

theorem traced (s : Session) (id : Nat) (line : Line) : Brackets B s (s.traced id line) := by
  unfold Session.traced
  split
  · exact tell s rfl
  · exact refl s

end Brackets

end Session

namespace Exec

open Session

variable {α β : Type}

/-- If the operation returns, then the events that it adds are bracketed. -/
def Orderly (B : List Event → Prop) (x : Exec α) : Prop :=
  ∀ s a t, x s = (.ok a, t) → Brackets B s t

/-- If printing a line returns, then the line is told first, and what it leads to is bracketed. -/
def OrderlyPrinting (B : List Event → Prop) (say : Text → Exec Unit) : Prop :=
  ∀ text s t, say text s = (.ok (), t) →
    ∃ more, Records s t (.told (.output text) :: more) ∧ B more

variable [BracketRules B]

/-! ## Operations that neither print nor execute -/

theorem orderly_pure (a : α) : Orderly B (pure a : Exec α) := by
  intro s b t h
  cases h
  exact .refl s

theorem Orderly.bind {x : Exec α} {f : α → Exec β} (hx : Orderly B x) (hf : ∀ a, Orderly B (f a)) :
    Orderly B (x >>= f) := by
  intro s b u h
  obtain ⟨a, t, hxs, hft⟩ := bind_ok h
  exact (hx s a t hxs).trans (hf a t b u hft)

omit [BracketRules B] in
theorem orderly_fail (fault : Fault) : Orderly B (fail fault : Exec α) := by
  intro s a t h
  cases h

omit [BracketRules B] in
theorem orderly_modify {change : Session → Session} (h : ∀ s, Brackets B s (change s)) :
    Orderly B (modify change) := by
  intro s a t hs
  cases hs
  exact h s

theorem orderly_interpreter (id : Nat) : Orderly B (interpreter id) := by
  intro s i t h
  cases h
  exact .refl s

theorem Orderly.ensuring {x : Exec α} {change : Session → Session} (hx : Orderly B x)
    (h : ∀ s, Brackets B s (change s)) : Orderly B (ensuring x change) := by
  intro s a u hs
  obtain ⟨hresult, rfl⟩ := Prod.mk.inj hs
  exact (hx s a (x s).2 (Prod.ext hresult rfl)).trans (h _)

theorem orderly_log (channel : Channel) (text : Text) : Orderly B (log channel text) :=
  orderly_modify fun s => .record s rfl

theorem orderly_debug (line : DebugLine) : Orderly B (debug line) :=
  orderly_modify fun s => .tell s rfl

theorem orderly_report (id : Nat) (d : Diagnostic) : Orderly B (report id d) :=
  (orderly_modify fun s => .modifyInterpreter s id _).bind fun _ =>
    (orderly_log _ _).bind fun _ => orderly_debug _

theorem orderly_prepare (id : Nat) (source : Text) (base : Path) (file : Option Text) :
    Orderly B (prepare id source base file) := by
  intro s script t h
  obtain ⟨events, hevents, hstructural⟩ := structural_prepare id source base file s
  have hhost := (serves_prepare id source base file s).served.host
  rw [h] at hevents hhost
  refine ⟨events, ⟨hhost, fun _ => hevents⟩, BracketRules.of_plain fun event hmem => ?_⟩
  exact Event.isPlain_of_isStructural (hstructural event hmem)

theorem orderly_openCall (id : Nat) (name : Text) (arguments : List Text) (frame : Frame) :
    Orderly B (openCall id name arguments frame) := by
  refine (orderly_interpreter id).bind fun i => ?_
  dsimp only
  split
  · exact (orderly_pure ()).bind fun _ => orderly_pure _
  · exact (orderly_log _ _).bind fun _ => orderly_pure _

omit [BracketRules B] in
theorem orderly_writing {operation : Exec Unit} (n : Int) (h : Orderly B operation) :
    Orderly B (writing n operation) := by
  unfold writing
  split
  · exact h
  · exact orderly_fail _

/-! ## Statements -/

variable {disk : Disk} {say : Text → Exec Unit} {runner : Runner}

/-- Only print statements print when they are carried out, external scripts apart. -/
theorem orderly_announce (say : Text → Exec Unit) (id : Nat) (line : Line) {action : Action}
    (hprint : ∀ text, action ≠ .print text) : Orderly B (announce say id line action) := by
  cases action with
  | print text => exact absurd rfl (hprint text)
  | clearOutput => exact orderly_modify fun s => .tell s rfl
  | clearDebug => exact orderly_modify fun s => .tell s rfl
  | update text => exact orderly_modify fun s => .tell s rfl
  | define definition name value size => exact orderly_debug _
  | setBudget ceiling => exact orderly_debug _
  | free name size => exact orderly_writing size (orderly_debug _)
  | refuse problem => exact orderly_report id _
  | overBudget name size budget =>
      exact (orderly_log _ _).bind fun _ => orderly_writing size (orderly_report id _)
  | fail fault => exact orderly_fail fault
  | skip => exact orderly_pure ()
  | call name arguments => exact orderly_pure ()
  | external path => exact orderly_pure ()

theorem records_act (s : Session) (id : Nat) (frame : Frame) (line : Line) (action : Action) :
    Records s (s.act id frame line action) [.performed id frame line action] where
  host := rfl
  transcript _ := Array.toList_push

/-- Carries the activation out that a statement opens, if it opens one. -/
def finish (say : Text → Exec Unit) (runner : Runner) : Option Opening → Exec Unit
  | none => pure ()
  | some opening => complete say runner opening

theorem executeLine_apply (disk : Disk) (say : Text → Exec Unit) (runner : Runner) (id : Nat)
    (frame : Frame) (line : Line) (s : Session) :
    executeLine disk say runner id frame line s =
      (perform disk say id frame (Statement.citedLine line) (s.actionOf id frame line) >>=
        finish say runner) ((s.traced id line).act id frame line (s.actionOf id frame line)) := by
  have hfinish : executeLine disk say runner id frame line =
      step disk say id frame line >>= finish say runner := rfl
  rw [hfinish, bind_apply, bind_apply, step_apply]

variable {path : Text} {base : Path} {s t u : Session}

/-- The events from which on an external script that can be read is run, or those that tell that it
cannot be read. -/
theorem openScript_records (hsay : OrderlyPrinting B say) {opened : Option Opening}
    (hhost : s.host.isSome) (h : openScript disk say path base s = (.ok opened, t)) :
    let resolved := base.join (.ofText path)
    (∃ (reason : Unreadable) (between rest : List Event), opened = none ∧
      B between ∧ B rest ∧
      Records s t ([.sought resolved,
        .logged .host ("External script " ++ resolved.text ++ s!" unreadable: {reason.message}"),
        .told (.output ("Error: could not read file " ++ path ++ "."))] ++ between ++
          [.told (.output ("Check that the file exists at: " ++ resolved.text))] ++ rest)) ∨
    ∃ opening inside, opened = some opening ∧ opening.script = some path ∧ B inside ∧
      Records s t ([.sought resolved, .told (.output (openingBracket path))] ++ inside) := by
  intro resolved
  unfold openScript at h
  simp only [bind_apply, get] at h
  rw [if_pos hhost] at h
  obtain ⟨_, t₁, hsought, h⟩ := bind_ok (x := record _) h
  cases hsought
  obtain ⟨text, t₂, hread, h⟩ := bind_ok h
  cases ofExcept_ok hread
  have hsought := Records.record s (.sought resolved)
  cases text with
  | error reason =>
      obtain ⟨_, t₃, hlogged, h⟩ := bind_ok (x := log _ _) h
      cases hlogged
      obtain ⟨_, t₄, hfirst, h⟩ := bind_ok h
      obtain ⟨_, t₅, hsecond, h⟩ := bind_ok h
      obtain ⟨between, hfirst, hbetween⟩ := hsay _ _ _ hfirst
      obtain ⟨after, hsecond, hafter⟩ := hsay _ _ _ hsecond
      obtain ⟨_, t₆, hreported, h⟩ := bind_ok h
      obtain ⟨more, hreported, hmore⟩ := orderly_report (B := B) _ _ _ _ _ hreported
      cases h
      have hlogged := hsought.trans (.record _ (.logged .host
        ("External script " ++ resolved.text ++ s!" unreadable: {reason.message}")))
      have hevents := ((hlogged.trans hfirst).trans hsecond).trans hreported
      refine .inl ⟨reason, between, after ++ more, rfl, hbetween, BracketRules.append hafter hmore,
        ?_⟩
      simp only [List.append_assoc, List.cons_append, List.nil_append] at hevents ⊢
      exact hevents
  | ok source =>
      obtain ⟨_, t₃, hopening, h⟩ := bind_ok h
      obtain ⟨head, hopening, hhead⟩ := hsay _ _ _ hopening
      obtain ⟨script, t₄, hprepared, h⟩ := bind_ok h
      obtain ⟨more, hprepared, hmore⟩ := orderly_prepare (B := B) _ _ _ _ _ _ _ hprepared
      cases h
      refine .inr ⟨_, head ++ more, rfl, rfl, BracketRules.append hhead hmore, ?_⟩
      have hevents := (hsought.trans hopening).trans hprepared
      simp only [List.cons_append, List.nil_append] at hevents ⊢
      exact hevents

/-- The run of an external script ends with the closing bracket. -/
theorem complete_records (hsay : OrderlyPrinting B say)
    (hrunner : ∀ id frame ls, Orderly B (runner id frame ls)) {opening : Opening}
    (hscript : opening.script = some path) (h : complete say runner opening s = (.ok (), t)) :
    ∃ inside rest, B inside ∧ B rest ∧
      Records s t (inside ++ [.told (.output (closingBracket path))] ++ rest) := by
  simp only [complete, hscript] at h
  obtain ⟨_, u, hbody, h⟩ := bind_ok h
  have hended : Orderly B (ensuring (runner opening.interpreter opening.frame opening.lines)
      (·.endRun opening.interpreter)) :=
    (hrunner _ _ _).ensuring fun s => .modifyInterpreter s _ _
  obtain ⟨inside, hinside, hbracketed⟩ := hended _ _ _ hbody
  obtain ⟨rest, hclosing, hrest⟩ := hsay _ _ _ h
  refine ⟨inside, rest, hbracketed, hrest, ?_⟩
  have hevents := hinside.trans hclosing
  rw [← List.singleton_append, ← List.append_assoc] at hevents
  exact hevents

/-- An external script is reported or run in its brackets. The statement that asks for it is on
record already. -/
theorem brackets_external (hsay : OrderlyPrinting B say)
    (hrunner : ∀ id frame ls, Orderly B (runner id frame ls)) {id : Nat} {frame : Frame}
    {line : Line}
    (hacted : Records s t [.performed id frame line (.external path)])
    (h : (openScript disk say path frame.base >>= finish say runner) t = (.ok (), u)) :
    Brackets B s u := by
  obtain ⟨opened, v, hopened, hfinish⟩ := bind_ok h
  cases hhost : t.host.isSome with
  | false =>
      have hnone : openScript disk say path frame.base t = (.ok none, t) := by
        simp [openScript, bind_apply, get, hhost]
      cases hnone.symm.trans hopened
      cases hfinish
      -- without a host nothing is on record
      refine ⟨[], ⟨hacted.host, fun hsome => ?_⟩, BracketRules.nil⟩
      rw [← hacted.host, hhost] at hsome
      cases hsome
  | true =>
      rcases openScript_records hsay hhost hopened with
        ⟨reason, between, rest, rfl, hbetween, hrest, hevents⟩ |
        ⟨opening, head, rfl, hscript, hhead, hevents⟩
      · cases hfinish
        refine ⟨_, hacted.trans hevents, ?_⟩
        have hlacking := BracketRules.lacking id frame line path reason rfl hbetween
        simpa using BracketRules.append hlacking hrest
      · obtain ⟨inside, rest, hinside, hrest, hmore⟩ :=
          complete_records hsay hrunner hscript hfinish
        refine ⟨_, (hacted.trans hevents).trans hmore, ?_⟩
        have hrun := BracketRules.script id frame line path rfl (BracketRules.append hhead hinside)
        simpa using BracketRules.append hrun hrest

theorem perform_eq_announce {id : Nat} {frame : Frame} {line : Line} {action : Action}
    (hcall : ∀ name arguments, action ≠ .call name arguments)
    (hexternal : ∀ path, action ≠ .external path) :
    perform disk say id frame line action =
      (announce say id line action >>= fun _ => pure none) := by
  cases action with
  | call name arguments => exact absurd rfl (hcall name arguments)
  | external path => exact absurd rfl (hexternal path)
  | _ => rfl

theorem brackets_announced {id : Nat} {line : Line} {action : Action}
    (hprint : ∀ text, action ≠ .print text)
    (h : ((announce say id line action >>= fun _ => pure none) >>= finish say runner) s =
      (.ok (), t)) : Brackets B s t := by
  obtain ⟨opened, u, hopened, hfinish⟩ := bind_ok h
  obtain ⟨_, v, hannounced, hnone⟩ := bind_ok hopened
  cases hnone
  cases hfinish
  exact orderly_announce say id line hprint _ _ _ hannounced

omit [BracketRules B] in
theorem orderly_complete_call (hrunner : ∀ id frame ls, Orderly B (runner id frame ls))
    {opening : Opening} (hscript : opening.script = none) :
    Orderly B (complete say runner opening) := by
  simp only [complete, hscript]
  exact hrunner _ _ _

theorem orderly_executeLine (disk : Disk) (hsay : OrderlyPrinting B say)
    (hrunner : ∀ id frame ls, Orderly B (runner id frame ls)) (id : Nat) (frame : Frame)
    (line : Line) : Orderly B (executeLine disk say runner id frame line) := by
  intro s a u h
  rw [executeLine_apply] at h
  refine (Brackets.traced s id line).trans ?_
  have hacted := records_act (s.traced id line) id frame line (s.actionOf id frame line)
  generalize s.actionOf id frame line = action at h hacted
  generalize (s.traced id line).act id frame line action = t at h hacted
  cases action with
  | print text =>
      obtain ⟨opened, v, hprinted, hfinish⟩ := bind_ok h
      obtain ⟨_, w, hsaid, hnone⟩ := bind_ok hprinted
      cases hnone
      cases hfinish
      obtain ⟨more, hmore, hbracketed⟩ := hsay _ _ _ hsaid
      have hprinted : B ([.performed id frame line (.print text), .told (.output text)] ++ more) :=
        BracketRules.append (BracketRules.printed id frame line text) hbracketed
      exact ⟨_, hacted.trans hmore, hprinted⟩
  | external path => exact brackets_external hsay hrunner hacted h
  | call name arguments =>
      refine Brackets.trans ⟨_, hacted, BracketRules.plain rfl⟩ ?_
      obtain ⟨opened, v, hopened, hfinish⟩ := bind_ok h
      obtain ⟨opening, w, hcall, hsome⟩ := bind_ok hopened
      cases hsome
      have hscript : opening.script = none := by
        obtain ⟨w, hcall', -⟩ := openCall_apply id name arguments frame t
        cases hcall'.symm.trans hcall
        rfl
      exact (orderly_openCall _ _ _ _ _ _ _ hcall).trans
        (orderly_complete_call hrunner hscript _ _ _ hfinish)
  | _ =>
      refine Brackets.trans ⟨_, hacted, BracketRules.plain rfl⟩ ?_
      rw [perform_eq_announce (by simp) (by simp)] at h
      exact brackets_announced (by simp) h

/-! ## Nested executions -/

theorem orderly_each {f : β → Exec Unit} (hf : ∀ b, Orderly B (f b)) (bs : List β) :
    Orderly B (each f bs) := by
  induction bs with
  | nil => exact orderly_pure ()
  | cons b rest ih => exact (hf b).bind fun _ => ih

theorem orderly_activation (disk : Disk) (hsay : OrderlyPrinting B say)
    (hrunner : ∀ id frame ls, Orderly B (runner id frame ls)) (id : Nat) (frame : Frame)
    (ls : List Line) : Orderly B (activation disk say runner id frame ls) := by
  intro s a u h
  rw [activation_apply] at h
  obtain ⟨hresult, rfl⟩ := Prod.mk.inj h
  obtain ⟨inside, hinside, hbracketed⟩ :=
    orderly_each (orderly_executeLine disk hsay hrunner id frame) ls _ _ _ (Prod.ext hresult rfl)
  have hevents :=
    ((Records.enter s id frame).trans hinside).trans (.leave _ id (s.interpreter id).depth)
  exact ⟨_, hevents, BracketRules.execution id frame hbracketed⟩

/-- The induction over nested executions. -/
theorem orderly_lines (disk : Disk) (hsay : OrderlyPrinting B say) (levels : Nat) :
    ∀ id frame ls, Orderly B (lines disk say levels id frame ls) := by
  induction levels with
  | zero => exact fun _ _ _ => orderly_pure ()
  | succ levels ih => exact orderly_activation disk hsay ih

theorem orderly_runWith (hrunner : ∀ id frame ls, Orderly B (runner id frame ls)) (id : Nat)
    (source : Text) (base : Path) (file : Option Text) :
    Orderly B (runWith runner id source base file) :=
  (orderly_prepare id source base file).bind fun _ =>
    ((hrunner _ _ _).ensuring fun s => .modifyInterpreter s _ _).bind fun _ =>
      (orderly_interpreter id).bind fun _ => orderly_pure _

end Exec

/-- If an operation of the engine returns, then its events are bracketed. -/
structure Engine.Orderly (B : List Event → Prop) (engine : Engine) : Prop where
  execute : ∀ id text base, Exec.Orderly B (engine.execute id text base)
  run : ∀ id source base file, Exec.Orderly B (engine.run id source base file)

namespace Engine.Orderly

open Exec Session

variable [BracketRules B] {engine : Engine} (h : engine.Orderly B)

include h

theorem pressWindow (w : OpenWindow) : Exec.Orderly B (engine.pressWindow w) := by
  unfold Engine.pressWindow
  split
  · exact orderly_pure false
  · exact (h.execute _ _ _).bind fun _ => orderly_pure true

theorem press (index : Int) : Exec.Orderly B (engine.press index) := by
  intro s a t hs
  unfold Engine.press at hs
  simp only [bind_apply, Exec.get] at hs
  cases hw : windowAt? ((s.host.map (·.windows)).getD #[]) index with
  | none =>
      rw [hw] at hs
      cases hs
  | some w =>
      rw [hw] at hs
      exact h.pressWindow w s a t hs

theorem react (reaction : Reaction) : Exec.Orderly B (engine.react reaction) := by
  intro s a t hs
  cases reaction with
  | execute text => exact h.execute _ text _ _ _ _ hs
  | run source file => exact ((h.run _ source _ file).bind fun _ => orderly_pure ()) s a t hs
  | press window => exact ((h.press window).bind fun _ => orderly_pure ()) s a t hs
  | reset =>
      cases hs
      exact .modifyInterpreter s _ _

/-- What an application does when a line is printed is bracketed in its turn. -/
theorem say : OrderlyPrinting B engine.say := by
  intro text s t hs
  obtain ⟨_, u, htold, hs⟩ := bind_ok hs
  cases htold
  have htold := Records.tell s (.output text)
  simp only [bind_apply, Exec.get] at hs
  cases hfound : (if (s.tell (.output text)).host.isSome then
      takeReaction? text (s.tell (.output text)).reactions else none) with
  | none =>
      rw [hfound] at hs
      cases hs
      exact ⟨[], htold, BracketRules.nil⟩
  | some found =>
      rw [hfound] at hs
      obtain ⟨more, hmore, hbracketed⟩ := h.react _ _ _ _ hs
      have htaken : Records (s.tell (.output text))
        { s.tell (.output text) with reactions := found.2 } [] := .of_eq rfl rfl
      exact ⟨more, htold.trans (htaken.trans hmore), hbracketed⟩

end Engine.Orderly

namespace Exec

open Session

theorem orderlyPrinting_tell [BracketRules B] :
    OrderlyPrinting B fun text => tell (.output text) := by
  intro text s t h
  cases h
  exact ⟨[], .tell s _, BracketRules.nil⟩

theorem orderly_run (disk : Disk) {say : Text → Exec Unit} (hsay : OrderlyPrinting Bracketed say)
    (id : Nat) (source : Text) (base : Path) (file : Option Text) :
    Orderly Bracketed (run disk say id source base file) :=
  (orderly_interpreter id).bind fun _ =>
    orderly_runWith (orderly_lines disk hsay _) id source base file

/-! ## Guards -/

/-- What a guard adds ends with an event that tells of the exhausted stack. -/
theorem records_reportExhausted (id : Nat) (s : Session) :
    ∃ events d, Records s (reportExhausted id s).2 (events ++ [.told (.debug (.diagnostic d))]) ∧
      (Event.told (.debug (.diagnostic d))).isOverflow = true := by
  let d := (Problem.depthExceeded (s.interpreter id).config.depthLimit).diagnostic
  let noted : Event := .logged .execution
    s!"Python stack exhausted below depth {(s.interpreter id).depth}"
  let logged : Event := .logged .execution (d.format false)
  let added := (s.record noted).modifyInterpreter id fun i => { i with report := i.report.add d }
  have hadded : Records (s.record noted) added [] := .of_eq rfl rfl
  have hlogged := ((Records.record s noted).trans hadded).trans (.record added logged)
  exact ⟨[noted, logged], d, hlogged.trans (.tell _ (.debug (.diagnostic d))), rfl⟩

/-- An operation that breaks off leaves its brackets open. The guard tells of it if the reason is
the stack, and lets other faults pass. -/
theorem orderly_guarded {id : Nat} {x : Exec Unit} (hadds : Within (Adds fun _ => True) x)
    (hbalanced : Balanced x) (hx : Orderly BracketedUnlessExhausted x) :
    Orderly BracketedUnlessExhausted (guarded id x) := by
  intro s a t h
  unfold guarded at h
  split at h
  · rename_i u hs
    have hadded := hadds s
    have hbooks := hbalanced s
    rw [hs] at hadded hbooks
    obtain ⟨events, hevents⟩ := Records.of_adds hadded hbooks
    obtain ⟨more, d, hmore, hoverflow⟩ := records_reportExhausted id u
    rw [h] at hmore
    refine ⟨_, hevents.trans hmore, fun hnone => ?_⟩
    have hfalse := hnone (.told (.debug (.diagnostic d))) (by simp)
    rw [hoverflow] at hfalse
    cases hfalse
  · exact hx s a t h

theorem orderly_guardedRuns {runner : Runner}
    (hadds : ∀ id frame ls, Within (Adds fun _ => True) (runner id frame ls))
    (hbalanced : ∀ id frame ls, Balanced (runner id frame ls))
    (hrunner : ∀ id frame ls, Orderly BracketedUnlessExhausted (runner id frame ls)) (id : Nat)
    (frame : Frame) (ls : List Line) :
    Orderly BracketedUnlessExhausted (guardedRuns runner id frame ls) := by
  refine (orderly_interpreter id).bind fun i => ?_
  split
  · exact orderly_guarded (hadds id frame ls) (hbalanced id frame ls) (hrunner id frame ls)
  · exact hrunner id frame ls

section Stack

variable (disk : Disk) {say : Nat → Text → Exec Unit}
  (hadds : ∀ room text, Within (Adds fun _ => True) (say room text))
  (hbalanced : ∀ room text, Balanced (say room text))
  (hsay : ∀ room, OrderlyPrinting BracketedUnlessExhausted (say room))

include hadds hbalanced hsay

/-- The induction over nested executions on a stack. -/
theorem orderly_linesOn (room : Nat) :
    ∀ id frame ls, Orderly BracketedUnlessExhausted (linesOn disk say room id frame ls) := by
  induction room with
  | zero => exact fun _ _ _ => orderly_fail _
  | succ room ih =>
      exact orderly_activation disk (hsay room) (orderly_guardedRuns
        (within_linesOn disk adds_law hadds room) (within_linesOn disk books_law hbalanced room) ih)

theorem orderly_runOn (room id : Nat) (source : Text) (base : Path) (file : Option Text) :
    Orderly BracketedUnlessExhausted (runOn disk say room id source base file) :=
  orderly_runWith (orderly_guardedRuns (within_linesOn disk adds_law hadds room)
    (within_linesOn disk books_law hbalanced room)
    (orderly_linesOn disk hadds hbalanced hsay room)) id source base file

theorem orderly_executeOn (room id : Nat) (text : Text) (base : Path) :
    Orderly BracketedUnlessExhausted (executeOn disk say room id text base) := by
  have hlines := orderly_linesOn disk hadds hbalanced hsay room id { base } [.ofStatement text]
  refine (orderly_interpreter id).bind fun i => ?_
  dsimp only
  split
  · exact orderly_guarded (within_linesOn disk adds_law hadds room _ _ _)
      (within_linesOn disk books_law hbalanced room _ _ _) hlines
  · exact hlines

end Stack

/-- The induction over reactions inside one another. -/
theorem orderlyPrinting_sayOn (disk : Disk) (count room : Nat) :
    OrderlyPrinting BracketedUnlessExhausted (sayOn disk count room) := by
  induction count generalizing room with
  | zero => exact orderlyPrinting_tell
  | succ count ih =>
      have hadds := within_sayOn disk adds_law count
      have hbalanced := within_sayOn disk books_law count
      have hengine : (engineOn disk (sayOn disk count) room).Orderly BracketedUnlessExhausted :=
        ⟨orderly_executeOn disk hadds hbalanced ih room, orderly_runOn disk hadds hbalanced ih room⟩
      exact hengine.say

theorem orderly_guardedRuns_linesOn (disk : Disk) (count room : Nat) :
    ∀ id frame ls, Orderly BracketedUnlessExhausted
      (guardedRuns (linesOn disk (sayOn disk count) room) id frame ls) :=
  orderly_guardedRuns (within_linesOn disk adds_law (within_sayOn disk adds_law count) room)
    (within_linesOn disk books_law (within_sayOn disk books_law count) room)
    (orderly_linesOn disk (within_sayOn disk adds_law count) (within_sayOn disk books_law count)
      (orderlyPrinting_sayOn disk count) room)

end Exec

end LineScript
