import LineScript.Proofs.Session.HostIndependence
import LineScript.Proofs.Session.Announcement
import LineScript.Proofs.Session.Bracketing
import LineScript.Proofs.Session.Stack

/-! # Statements that ask for external scripts

An external script that cannot be read is reported, and nothing else changes. One that can be read
is run in its brackets. What becomes of the request rests on what reading the file gives.
-/

namespace LineScript

/-- A script file can be asked for: its path and the name of the encoding are accepted, the name is
known unless there is no file, and the bytes tell their order if the encoding leaves it open. -/
def Disk.Answers (disk : Disk) (codec : Except EncodingNameError Codec) (path : Path) : Prop :=
  path.fault? = none ∧
    match codec with
    | .ok found => ∀ bytes, disk.read path = .ok bytes →
        ∀ family, found.decode bytes ≠ .error (.unmarked family)
    | .error (.unknown _) => ∃ error, disk.read path = .error error
    | .error _ => False

/-- These are the files that are read or reported, and all others break the request off. -/
theorem Disk.answers_iff (disk : Disk) (codec : Except EncodingNameError Codec) (path : Path) :
    disk.Answers codec path ↔ ∃ text, disk.readScript codec path = .ok text := by
  unfold Answers readScript
  cases path.fault? with
  | some fault =>
      cases codec with
      | ok found => simp
      | error error => cases error <;> simp
  | none =>
      cases codec with
      | error error =>
          cases error with
          | null => simp
          | unencodable error => simp
          | unknown name => cases disk.read path <;> simp
      | ok found =>
          cases hread : disk.read path with
          | error error => simp
          | ok bytes =>
              simp only [scriptText]
              cases hdecoded : found.decode bytes with
              | ok cs => simp [hdecoded]
              | error failure => cases failure <;> simp [hdecoded]

namespace Session

/-- From `s` to `t` the host was told these notices, and nothing else has changed but the
transcript. -/
structure OnlyHears (s t : Session) (told : List Notice) : Prop where
  interpreters : t.interpreters = s.interpreters
  reactions : t.reactions = s.reactions
  host : t.host = s.host.map (·.receiveAll told)
  notices : t.notices = s.notices ++ told

namespace OnlyHears

variable {s t u : Session} {told more : List Notice}

theorem trans (hst : OnlyHears s t told) (htu : OnlyHears t u more) :
    OnlyHears s u (told ++ more) where
  interpreters := htu.interpreters.trans hst.interpreters
  reactions := htu.reactions.trans hst.reactions
  host := by
    rw [htu.host, hst.host, Option.map_map]
    exact congrArg (s.host.map ·) (funext fun host => (host.receiveAll_append told more).symm)
  notices := by rw [htu.notices, hst.notices, List.append_assoc]

theorem record (s : Session) {event : Event} (h : event.notice? = none) :
    OnlyHears s (s.record event) [] where
  interpreters := rfl
  reactions := rfl
  host := Option.map_id_apply.symm
  notices := by rw [notices_record, h]; rfl

theorem tell (hhost : s.host.isSome) (notice : Notice) : OnlyHears s (s.tell notice) [notice] where
  interpreters := interpreters_tell s notice
  reactions := by
    unfold Session.tell
    cases s.host <;> rfl
  host := by
    unfold Session.tell
    cases hs : s.host with
    | none => simp [hs]
    | some host => rfl
  notices := (told_tell_of_host hhost notice).notices

theorem isSome (h : OnlyHears s t told) : t.host.isSome = s.host.isSome := by
  rw [h.host, Option.isSome_map]

/-- A statement whose action leaves the store alone has shown its trace line at most when its action
is still to be carried out. -/
theorem traced_act {action : Action} (hhost : s.host.isSome)
    (hstore : ∀ store : Store, store.after action = store) (id : Nat) (frame : Frame)
    (line : Line) :
    OnlyHears s ((s.traced id line).act id frame line action) (s.traceNotices id line.text) := by
  have htraced : OnlyHears s (s.traced id line) (s.traceNotices id line.text) := by
    unfold traced traceNotices traceSignals
    rw [hhost, Bool.true_and]
    split
    · exact tell hhost _
    · exact ⟨rfl, rfl, Option.map_id_apply.symm, (List.append_nil _).symm⟩
  have hacted : OnlyHears (s.traced id line) ((s.traced id line).act id frame line action) [] := by
    refine ⟨interpreters_act hstore _ _ _ _, rfl, Option.map_id_apply.symm, ?_⟩
    have hrecorded := notices_record (s.traced id line) (.performed id frame line action)
    exact hrecorded
  have hboth := htraced.trans hacted
  rwa [List.append_nil] at hboth

end OnlyHears

/-- From `s` to `t` interpreter `id` reported one diagnostic, the host was told these notices, and
nothing else has changed but the transcript. -/
structure OnlyReports (s t : Session) (id : Nat) (d : Diagnostic) (told : List Notice) : Prop where
  interpreters : t.interpreters =
    s.interpreters.modify id fun i => { i with report := i.report.add d }
  reactions : t.reactions = s.reactions
  host : t.host = s.host.map (·.receiveAll told)
  notices : t.notices = s.notices ++ told

/-- Notices that are not about windows leave the windows alone. -/
theorem OnlyReports.windows_eq {s t : Session} {id : Nat} {d : Diagnostic} {told : List Notice}
    (h : OnlyReports s t id d told)
    (htold : ∀ windows : Array OpenWindow, told.foldl Host.windowsAfter windows = windows) :
    t.windows = s.windows := by
  rw [Session.windows, Session.windows, h.host, Option.map_map]
  refine congrArg (Option.getD · #[]) (congrArg (s.host.map ·) (funext fun host => ?_))
  rw [Function.comp_apply, Host.windows_receiveAll]
  exact htold host.windows

theorem OnlyHears.report {s t : Session} {told : List Notice} (h : OnlyHears s t told)
    (hhost : s.host.isSome) (id : Nat) (d : Diagnostic) :
    OnlyReports s (Exec.report id d t).2 id d (told ++ [.debug (.diagnostic d)]) := by
  let u := (t.modifyInterpreter id fun i => { i with report := i.report.add d }).record
    (.logged .execution (d.format false))
  have hu : u.host.isSome = true := h.isSome.trans hhost
  have htold := OnlyHears.tell hu (.debug (.diagnostic d))
  have hnotices : u.notices = t.notices := by
    have hrecorded := notices_record
      (t.modifyInterpreter id fun i => { i with report := i.report.add d })
      (.logged .execution (d.format false))
    exact hrecorded.trans (List.append_nil _)
  constructor
  · rw [← h.interpreters]
    exact htold.interpreters
  · exact htold.reactions.trans h.reactions
  · have hhosts := htold.host
    change _ = t.host.map _ at hhosts
    rw [h.host, Option.map_map] at hhosts
    exact hhosts.trans
      (congrArg (s.host.map ·) (funext fun host => (host.receiveAll_append told _).symm))
  · rw [← List.append_assoc, ← h.notices, ← hnotices]
    exact htold.notices

end Session

namespace Exec

open Session

variable {disk : Disk} {id : Nat} {frame : Frame} {line : Line} {path : Text} {s : Session}

/-- What becomes of the request for an external script rests on what reading it gives. -/
theorem Carried.of_external {out : Except Fault (Option Opening) × Session} (hhost : s.host.isSome)
    (h : Carried disk id frame line s (.external path) out) :
    let resolved := frame.base.join (.ofText path)
    match disk.readScript (s.interpreter id).config.codec resolved with
    | .error fault => out = (.error fault, s.record (.sought resolved))
    | .ok (.error reason) =>
        out = (.ok none, (report id (Problem.unreadableScript path resolved.text).diagnostic
          (lacking s path resolved reason)).2)
    | .ok (.ok source) => ∃ script t,
        prepare id source resolved.parent (some path) (announcing s path resolved) =
          (.ok script, t) ∧
        out = (.ok (some
          { interpreter := id, frame := script.frame, lines := script.statements
            script := some path }), t) := by
  cases h with
  | told hnotice => cases hnotice
  | reported hd hnoted => cases hd
  | failed hlocal hnoted => exact absurd rfl (hlocal path)
  | unhosted hnone =>
      rw [hnone] at hhost
      cases hhost
  | unaskable _ hresolved hread =>
      subst hresolved
      simp only [hread]
  | unreadable _ hresolved hread =>
      subst hresolved
      simp only [hread]
  | ran _ hresolved hread hprepared =>
      subst hresolved
      simp only [hread]
      exact ⟨_, _, hprepared, rfl⟩

theorem step_external (disk : Disk) (hhost : s.host.isSome) (hturn : s.Turn id)
    (haction : s.actionOf id frame line = .external path) :
    ∃ acted, OnlyHears s acted (s.traceNotices id line.text) ∧
      (acted.interpreter id).config = (s.interpreter id).config ∧
      Carried disk id frame (Statement.citedLine line) acted (.external path)
        (step disk (Exec.say disk 0) id frame line s) := by
  have hacted : OnlyHears s ((s.traced id line).act id frame line (.external path))
      (s.traceNotices id line.text) := .traced_act hhost (fun _ => rfl) id frame line
  have hcarried : Carried disk id frame (Statement.citedLine line)
      ((s.traced id line).act id frame line (s.actionOf id frame line))
      (s.actionOf id frame line) (step disk (Exec.say disk 0) id frame line s) :=
    step_carried fun _ _ => hturn
  rw [haction] at hcarried
  refine ⟨_, hacted, ?_, hcarried⟩
  rw [Session.interpreter, hacted.interpreters]
  rfl

theorem onlyHears_lacking {acted : Session} (hhost : acted.host.isSome) (path : Text)
    (resolved : Path) (reason : Unreadable) :
    OnlyHears acted (Exec.lacking acted path resolved reason)
      [.output ("Error: could not read file " ++ path ++ "."),
        .output ("Check that the file exists at: " ++ resolved.text)] := by
  have hsought : OnlyHears acted (acted.record (.sought resolved)) [] := .record acted rfl
  have hlogged := hsought.trans (.record _ (rfl : (Event.logged .host
    ("External script " ++ resolved.text ++ s!" unreadable: {reason.message}")).notice? = none))
  have hfirst := hlogged.trans (.tell (by exact hhost)
    (.output ("Error: could not read file " ++ path ++ ".")))
  exact hfirst.trans (.tell (by rw [hfirst.isSome]; exact hhost)
    (.output ("Check that the file exists at: " ++ resolved.text)))

theorem step_lacking {reason : Unreadable} (hhost : s.host.isSome) (hturn : s.Turn id)
    (haction : s.actionOf id frame line = .external path)
    (hread : disk.readScript (s.interpreter id).config.codec (frame.base.join (.ofText path)) =
      .ok (.error reason)) :
    let resolved := frame.base.join (.ofText path)
    let d := (Problem.unreadableScript path resolved.text).diagnostic
    ∃ t, step disk (Exec.say disk 0) id frame line s = (.ok none, t) ∧
      OnlyReports s t id d (s.traceNotices id line.text ++
        [.output ("Error: could not read file " ++ path ++ "."),
          .output ("Check that the file exists at: " ++ resolved.text)] ++
        [.debug (.diagnostic d)]) := by
  intro resolved d
  obtain ⟨acted, hacted, hconfig, hcarried⟩ := step_external disk hhost hturn haction
  have hsome : acted.host.isSome = true := hacted.isSome.trans hhost
  have hout := hcarried.of_external hsome
  simp only [hconfig, hread] at hout
  refine ⟨_, hout, ?_⟩
  exact (hacted.trans (onlyHears_lacking hsome path resolved reason)).report hhost id d

/-- A request that cannot be made breaks off, and the host hears no more than the trace line. -/
theorem step_unaskable {fault : Fault} (hhost : s.host.isSome) (hturn : s.Turn id)
    (haction : s.actionOf id frame line = .external path)
    (hread : disk.readScript (s.interpreter id).config.codec (frame.base.join (.ofText path)) =
      .error fault) :
    ∃ t, step disk (Exec.say disk 0) id frame line s = (.error fault, t) ∧
      OnlyHears s t (s.traceNotices id line.text) := by
  obtain ⟨acted, hacted, hconfig, hcarried⟩ := step_external disk hhost hturn haction
  have hout := hcarried.of_external (hacted.isSome.trans hhost)
  simp only [hconfig, hread] at hout
  refine ⟨_, hout, ?_⟩
  have hsought := hacted.trans (.record acted rfl :
    OnlyHears acted (acted.record (.sought (frame.base.join (.ofText path)))) [])
  rwa [List.append_nil] at hsought

theorem notices_of_orderly {α : Type} {B : List Event → Prop} {x : Exec α} {s t : Session} {a : α}
    (hx : Orderly B x) (hhost : s.host.isSome) (h : x s = (.ok a, t)) :
    t.host.isSome ∧ ∃ told, t.notices = s.notices ++ told := by
  obtain ⟨events, hevents, -⟩ := hx s a t h
  refine ⟨hevents.host.trans hhost, events.filterMap Event.notice?, ?_⟩
  rw [notices, notices, hevents.transcript hhost, List.filterMap_append]

/-- What the run of an external script tells the host stands between its brackets. -/
theorem executeLine_between_brackets {B : List Event → Prop} {runner : Runner} {source : Text}
    {t : Session} (hrunner : ∀ id frame ls, Orderly B (runner id frame ls))
    (hhost : s.host.isSome) (hturn : s.Turn id)
    (haction : s.actionOf id frame line = .external path)
    (hread : disk.readScript (s.interpreter id).config.codec (frame.base.join (.ofText path)) =
      .ok (.ok source))
    (h : executeLine disk (Exec.say disk 0) runner id frame line s = (.ok (), t)) :
    ∃ start script begun ended head inside,
      start.notices = s.notices ++ s.traceNotices id line.text ++ [.output (openingBracket path)] ∧
      prepare id source (frame.base.join (.ofText path)).parent (some path) start =
        (.ok script, begun) ∧
      begun.notices = start.notices ++ head ∧
      runner id script.frame script.statements begun = (.ok (), ended) ∧
      ended.notices = begun.notices ++ inside ∧
      t.notices = ended.notices ++ [.output (closingBracket path)] := by
  obtain ⟨acted, hacted, hconfig, hcarried⟩ := step_external disk hhost hturn haction
  have hsome : acted.host.isSome = true := hacted.isSome.trans hhost
  have hout := hcarried.of_external hsome
  simp only [hconfig, hread] at hout
  obtain ⟨script, begun, hprepared, hstep⟩ := hout
  have hstart : OnlyHears acted
      (announcing acted path (frame.base.join (.ofText path))) [.output (openingBracket path)] :=
    (OnlyHears.record acted rfl).trans (.tell (by exact hsome) _)
  have hopened := hacted.trans hstart
  obtain ⟨hbegun, head, hhead⟩ := notices_of_orderly (B := Bracketed) (orderly_prepare _ _ _ _)
    (hopened.isSome.trans hhost) hprepared
  -- the activation was completed, so its lines were executed without a fault
  unfold executeLine at h
  rw [bind_apply, hstep] at h
  obtain ⟨_, ended, hbody, hclosed⟩ := bind_ok h
  obtain ⟨hresult, rfl⟩ := Prod.mk.inj hbody
  have hlines : runner id script.frame script.statements begun = (.ok (), _) :=
    Prod.ext hresult rfl
  obtain ⟨hended, inside, hinside⟩ := notices_of_orderly (hrunner _ _ _) hbegun hlines
  refine ⟨_, script, begun, _, head, inside, by rw [hopened.notices, List.append_assoc], hprepared,
    hhead, hlines, hinside, ?_⟩
  cases hclosed
  have hclosing := OnlyHears.tell (s := Session.endRun _ id) (by exact hended)
    (.output (closingBracket path))
  exact hclosing.notices

end Exec

/-- External scripts are reported or stand in brackets. When a statement asks for one below the
depth limit, with a host that does not react to what is printed and with any room on the stack,
there are three cases. If the file can be asked for but has no text, the host is told two lines and
one diagnostic after the trace line, the diagnostic is added to the report of the interpreter, all
else stays as it was, and the statements that come next are executed. If the file cannot be asked
for, the statement breaks off and the host is told nothing but the trace line. If there is a text,
then all that the run of it tells the host comes after the opening bracket and before the closing
one, provided that it returns.

The events of every run that returns are bracketed, whatever an application does when lines are
printed, unless the host is told in the meantime that the stack was exhausted: a guard returns from
the scripts that were running inside it without their closing brackets. With no reactions, a stack
with room for more activations than the depth limit is not exhausted by the run of an idle
interpreter. -/
theorem external_scripts_reported_or_bracketed (s : Session) (disk : Disk)
    (hhost : s.host.isSome) :
    (∀ (id room : Nat) (frame : Frame) (line : Line) (first word : Text), s.reactions = [] →
      s.Turn id → (Statement.ofLine line).command = .external →
      (Statement.ofLine line).words = [first, "RUN", word] →
      frame.depth < (s.interpreter id).config.depthLimit →
      let path := Text.ofList (word.toList.filter (· ≠ CodePoint.char '"'))
      let resolved := frame.base.join (.ofText path)
      let codec := (s.interpreter id).config.codec
      let d := (Problem.unreadableScript path resolved.text).diagnostic
      let trace := s.traceNotices id line.text
      let say := Exec.sayOn disk s.reactions.length
      let runner := Exec.guardedRuns (Exec.linesOn disk say room)
      let execute := Exec.executeLine disk (say room) runner id frame
      let out := execute line s
      (disk.Answers codec resolved →
        (∀ source, disk.readScript codec resolved ≠ .ok (.ok source)) →
        out.1 = .ok () ∧
        s.OnlyReports out.2 id d (trace ++ [.output ("Error: could not read file " ++ path ++ "."),
          .output ("Check that the file exists at: " ++ resolved.text)] ++
          [.debug (.diagnostic d)]) ∧
        d.code = "E501" ∧ out.2.windows = s.windows ∧ out.2.books = s.books ∧
        ∀ rest, Exec.each execute (line :: rest) s = Exec.each execute rest out.2) ∧
      (¬ disk.Answers codec resolved →
        ∃ fault, disk.readScript codec resolved = .error fault ∧ out.1 = .error fault ∧
          s.OnlyHears out.2 trace) ∧
      (∀ source, disk.readScript codec resolved = .ok (.ok source) → out.1 = .ok () →
        ∃ start script begun ended head inside,
          start.notices = s.notices ++ trace ++ [.output (openingBracket path)] ∧
          Exec.prepare id source resolved.parent (some path) start = (.ok script, begun) ∧
          begun.notices = start.notices ++ head ∧
          runner id script.frame script.statements begun = (.ok (), ended) ∧
          ended.notices = begun.notices ++ inside ∧
          out.2.notices = ended.notices ++ [.output (closingBracket path)])) ∧
    ∀ (stack id : Nat) (source : Text) (base : Path) (file : Option Text) (result : RunResult)
      (t : Session), s.runOn stack disk id source base file = (.ok result, t) →
      ∃ events, t.transcript.toList = s.transcript.toList ++ events ∧
        ((∀ event ∈ events, event.isOverflow = false) → Bracketed events) ∧
        (s.reactions = [] → id < s.interpreters.size → (s.interpreter id).activeRuns = 0 →
          max (s.interpreter id).config.depthLimit 0 < stack → Bracketed events) := by
  refine ⟨?_, ?_⟩
  · intro id room frame line first word hplain hturn hcommand hwords hdepth path resolved codec
      d trace say runner execute out
    have haction : s.actionOf id frame line = .external path :=
      Action.of_eq_external_iff.2 ⟨hcommand, hdepth, first, word, hwords, rfl⟩
    have hsay : say room = Exec.say disk 0 := by
      simp only [say, hplain, List.length_nil]
      rfl
    have hbooks : out.2.books = s.books :=
      Exec.within_executeLine disk Session.books_law
        (Exec.within_sayOn disk Session.books_law _ room)
        (Exec.within_guardedRuns Session.books_law
          (Exec.within_linesOn disk Session.books_law
            (Exec.within_sayOn disk Session.books_law _) room))
        id frame line s
    refine ⟨fun hanswers hnone => ?_, fun hanswers => ?_, fun source hread hok => ?_⟩
    · obtain ⟨text, hread⟩ := (disk.answers_iff codec resolved).1 hanswers
      cases text with
      | ok source => exact absurd hread (hnone source)
      | error reason =>
          obtain ⟨t, hstep, hreports⟩ := Exec.step_lacking hhost hturn haction hread
          have hout : out = (.ok (), t) := by
            simp only [out, execute, hsay]
            exact Exec.executeLine_of_opened_none _ hstep
          rw [hout] at hbooks ⊢
          refine ⟨rfl, hreports, rfl, ?_, hbooks, fun rest => ?_⟩
          · refine hreports.windows_eq fun windows => ?_
            rw [List.foldl_append, List.foldl_append]
            unfold Session.traceNotices Session.traceSignals
            split <;> rfl
          · have hline : execute line s = (.ok (), t) := hout
            rw [Exec.each_cons, Exec.bind_apply, hline]
    · cases hread : disk.readScript codec resolved with
      | ok text => exact absurd ((disk.answers_iff codec resolved).2 ⟨text, hread⟩) hanswers
      | error fault =>
          obtain ⟨t, hstep, hhears⟩ := Exec.step_unaskable hhost hturn haction hread
          have hout : out = (.error fault, t) := by
            simp only [out, execute, hsay, Exec.executeLine, Exec.bind_apply, hstep]
          rw [hout]
          exact ⟨fault, rfl, rfl, hhears⟩
    · have hout : out = (.ok (), out.2) := Prod.ext hok rfl
      simp only [out, execute, hsay] at hout ⊢
      exact Exec.executeLine_between_brackets (Exec.orderly_guardedRuns_linesOn disk _ room) hhost
        hturn haction hread hout
  · intro stack id source base file result t hrun
    obtain ⟨events, hevents, hbracketed⟩ := Exec.orderly_runOn disk
      (Exec.within_sayOn disk Session.adds_law _) (Exec.within_sayOn disk Session.books_law _)
      (Exec.orderlyPrinting_sayOn disk s.reactions.length) stack id source base file s result t hrun
    have htranscript := hevents.transcript hhost
    refine ⟨events, htranscript, hbracketed, fun hplain hid hidle hstack => ?_⟩
    rw [Session.runOn_eq_run disk source base file hplain hid hidle hstack,
      Session.run_plain disk id source base file hplain] at hrun
    obtain ⟨events', hevents', hbracketed'⟩ :=
      Exec.orderly_run disk Exec.orderlyPrinting_tell id source base file s result t hrun
    rw [hevents'.transcript hhost, List.append_cancel_left_eq] at htranscript
    rwa [← htranscript]

/-- A script runs a file that asks for another one, which is missing, and then prints. -/
theorem external_scripts_reported_or_bracketed_of_missing_file :
    let disk : Disk :=
      { Disk.blank with
        read := fun path =>
          if path.parts = [.ofString "a"] then .ok "@EXTERNAL RUN b\nprint \"x\"".toUTF8.toList
          else .error .notFound }
    let s : Session :=
      { host := some { surface := .buffer {} }
        interpreters := #[{ config := { trace := false } }] }
    let frame : Frame := { base := {} }
    let line := Line.ofStatement "@EXTERNAL RUN b"
    let codec := (s.interpreter 0).config.codec
    let say := Exec.sayOn disk 0
    let executed := Exec.executeLine disk (say 1) (Exec.guardedRuns (Exec.linesOn disk say 1)) 0
      frame line s
    let d := (Problem.unreadableScript "b" "b").diagnostic
    let out := s.runOn 119 disk 0 "@EXTERNAL RUN a" {} none
    (s.host.isSome ∧ s.reactions = [] ∧ s.Turn 0 ∧
      (Statement.ofLine line).command = .external ∧
      (Statement.ofLine line).words = (["@EXTERNAL", "RUN", "b"] : List Text) ∧
      frame.depth < (s.interpreter 0).config.depthLimit ∧
      disk.Answers codec { parts := ["b"] } ∧
      (∀ source, disk.readScript codec { parts := ["b"] } ≠ .ok (.ok source)) ∧
      ∃ result, out.1 = .ok result) ∧
    executed.1 = .ok () ∧
    s.OnlyReports executed.2 0 d [.output "Error: could not read file b.",
      .output "Check that the file exists at: b", .debug (.diagnostic d)] ∧
    (∃ events, out.2.transcript.toList = events ∧ Bracketed events) ∧
    out.2.notices.filter (· matches .output _) =
      [.output "--- Running external script: a ---", .output "Error: could not read file b.",
        .output "Check that the file exists at: b", .output "x", .output "--- End of a ---"] := by
  intro disk s frame line codec say executed d out
  have hread : disk.readScript codec { parts := ["b"] } =
      .ok (.error (.file .notFound { parts := ["b"] })) := by decide +kernel
  have hanswers : disk.Answers codec { parts := ["b"] } :=
    (disk.answers_iff _ _).2 ⟨_, hread⟩
  have hnone : ∀ source, disk.readScript codec { parts := ["b"] } ≠ .ok (.ok source) := by
    intro source hsource
    cases hread.symm.trans hsource
  have hturn : s.Turn 0 := fun _ => rfl
  have hcommand : (Statement.ofLine line).command = .external := by decide +kernel
  have hwords : (Statement.ofLine line).words = (["@EXTERNAL", "RUN", "b"] : List Text) := by
    decide +kernel
  have hdepth : frame.depth < (s.interpreter 0).config.depthLimit := by decide +kernel
  have hreturns : ∃ result, out.1 = .ok result := by
    have hok : out.1.toOption.isSome = true := by decide +kernel
    cases hout : out.1 with
    | ok result => exact ⟨result, rfl⟩
    | error fault =>
        rw [hout] at hok
        cases hok
  obtain ⟨result, hresult⟩ := hreturns
  have hpath : Text.ofList ((Text.toList "b").filter (· ≠ CodePoint.char '"')) = "b" := by decide
  have hresolved : frame.base.join (.ofText "b") = { parts := ["b"] } := by decide +kernel
  have htext : Path.text { parts := ["b"] } = "b" := by decide
  have htrace : s.traceNotices 0 line.text = [] := by decide
  obtain ⟨hstatement, hruns⟩ := external_scripts_reported_or_bracketed s disk rfl
  have hlacking := (hstatement 0 1 frame line "@EXTERNAL" "b" rfl hturn hcommand hwords hdepth).1
  simp only [hpath, hresolved, htext, htrace, List.nil_append, List.cons_append] at hlacking
  obtain ⟨hok, hreports, -⟩ := hlacking hanswers hnone
  have hout : out = (.ok result, out.2) :=
    (Prod.eta out).symm.trans (congrArg (Prod.mk · out.2) hresult)
  have hstack : max (s.interpreter 0).config.depthLimit 0 < (119 : Nat) := by decide +kernel
  obtain ⟨events, hevents, -, hbracketed⟩ :=
    hruns 119 0 "@EXTERNAL RUN a" {} none result out.2 hout
  refine ⟨⟨rfl, rfl, hturn, hcommand, hwords, hdepth, hanswers, hnone, result, hresult⟩, hok,
    hreports, ⟨events, hevents, hbracketed rfl (by decide) rfl hstack⟩, by decide +kernel⟩

/-- Bytes without a mark are no text in UTF-16, but this is not reported: the run breaks off, and
the statement after it is not executed. -/
theorem unmarked_script_breaks_run_off :
    let disk : Disk := { Disk.blank with read := fun _ => .ok "print \"x\"\n".toUTF8.toList }
    let s : Session :=
      { host := some { surface := .buffer {} }
        interpreters := #[{ config := { encoding := "utf-16", trace := false } }] }
    let out := s.runOn 119 disk 0 "@EXTERNAL RUN a.jlsh\nprint \"after\"" {} none
    (match out.1 with
      | .error fault => some fault
      | .ok _ => none) = some (.unmarkedStream "UTF-16") ∧
    (out.2.interpreter 0).report.codes = [] ∧ out.2.notices = [.debug .banner] := by
  decide +kernel

end LineScript
