import LineScript.Proofs.Session.ScriptRun

/-! # Windows open first

A run tells the host of the windows and of the rejected headers of its script, in the order of the
segments, and shows the banner, before it executes a statement. Statements tell of windows and of
headers only by running external scripts, and each of these runs does the same in its turn.
-/

namespace LineScript

open Exec Session

/-- What the host is told of a segment: the window that it opens, or the problem of its header. -/
def Interpreter.announcement (i : Interpreter) (id : Nat) (base : Path) (segment : Segment) :
    Option Notice :=
  ((i.opening id base segment).map .opened).or
    (segment.diagnostic?.map fun d => .debug (.diagnostic d))

def Notice.window? : Notice → Option OpenWindow
  | .opened w => some w
  | _ => none

def Notice.diagnostic? : Notice → Option Diagnostic
  | .debug (.diagnostic d) => some d
  | _ => none

/-- A notice of the structural pass: of a window that was opened, or of a problem of a block. -/
def Notice.isStructural : Notice → Bool
  | .opened _ => true
  | .debug (.diagnostic d) => d.isStructural
  | _ => false

namespace Session

/-- From `s` to `t` the host was told the notices, if there is one. -/
structure Hears (s t : Session) (heard : List Notice) : Prop where
  host : t.host.isSome = s.host.isSome
  notices : t.notices = s.notices ++ if s.host.isSome then heard else []

namespace Hears

variable {s t u : Session} {heard more : List Notice}

theorem trans (hst : Hears s t heard) (htu : Hears t u more) : Hears s u (heard ++ more) where
  host := htu.host.trans hst.host
  notices := by
    rw [htu.notices, hst.notices, hst.host, List.append_assoc]
    split <;> rfl

theorem of_content (h : t.content = s.content) : Hears s t [] where
  host := by
    have hhost := congrArg (·.host.isSome) h
    simpa [content] using hhost
  notices := by
    rw [ite_self, List.append_nil]
    exact congrArg (·.notices) h

theorem of_display (hnotices : t.notices = s.notices) (hhost : t.host = s.host) : Hears s t [] where
  host := by rw [hhost]
  notices := by rw [ite_self, List.append_nil, hnotices]

theorem tell (s : Session) (notice : Notice) : Hears s (s.tell notice) [notice] where
  host := isSome_host_tell s notice
  notices := by
    rw [notices_eq_filterMap, signals_tell, List.filterMap_append, ← notices_eq_filterMap]
    split <;> rfl

theorem report (s : Session) (id : Nat) (d : Diagnostic) :
    Hears s (Exec.report id d s).2 [.debug (.diagnostic d)] where
  host := isSome_host_tell _ _
  notices := by
    rw [notices_eq_filterMap, signals_report, List.filterMap_append, ← notices_eq_filterMap]
    split <;> rfl

theorem logged (s : Session) (channel : Channel) (text : Text) :
    Hears s (s.record (.logged channel text)) [] :=
  of_content (content_record s rfl)

end Hears

end Session

/-! ## The structural pass -/

namespace Exec

section Segments

variable (s : Session) (id : Nat)

theorem openWindow_announces (base : Path) (body : List Text) :
    ∃ w t, openWindow id base body s = (.ok w, t) ∧ Hears s t [.opened w] ∧
      w = { window := Window.ofBody body (s.interpreter id).config.defaultWindowTitle
            owner := id, base } :=
  ⟨_, _, rfl, (Hears.logged s _ _).trans (.tell _ _), rfl⟩

theorem addFunction_announces (routine : Routine) :
    ∃ t, addFunction id routine s = (.ok (), t) ∧ Hears s t [] := by
  unfold addFunction
  simp only [bind_apply, interpreter]
  split
  · exact ⟨_, rfl, (Hears.logged s _ _).trans (.of_display rfl rfl)⟩
  · exact ⟨_, rfl, .of_display rfl rfl⟩

theorem takeSegment_announces (base : Path) (segment : Segment) :
    ∃ t, takeSegment id base segment s = (.ok ((s.interpreter id).opening id base segment), t) ∧
      Hears s t ((s.interpreter id).announcement id base segment).toList := by
  cases segment with
  | statement line => exact ⟨s, rfl, .of_display rfl rfl⟩
  | function header name body closing =>
      obtain ⟨t, ht, hhears⟩ :=
        addFunction_announces s id { name, body, location := header.location }
      exact ⟨t, by simp only [takeSegment, bind_apply, ht]; rfl, hhears⟩
  | window header body closing =>
      obtain ⟨w, t, ht, hhears, rfl⟩ := openWindow_announces s id base (body.map (·.text))
      exact ⟨t, by simp only [takeSegment, bind_apply, ht]; rfl, hhears⟩
  | inlineWindow header body =>
      obtain ⟨w, t, ht, hhears, rfl⟩ := openWindow_announces s id base body
      exact ⟨t, by simp only [takeSegment, bind_apply, ht]; rfl, hhears⟩
  | rejected header problem => exact ⟨_, rfl, .report s id _⟩

end Segments

variable {s : Session} {id : Nat}

/-- What the host is told in the structural pass, in the order of the segments. -/
theorem takeSegments_announces (hid : id < s.interpreters.size) (base : Path)
    (segments : List Segment) :
    ∃ windows t, takeSegments id base segments s = (.ok windows, t) ∧
      Hears s t (segments.filterMap ((s.interpreter id).announcement id base)) := by
  induction segments generalizing s with
  | nil => exact ⟨[], s, rfl, .of_display rfl rfl⟩
  | cons segment segments ih =>
      obtain ⟨t, ht, hhears⟩ := takeSegment_announces s id base segment
      obtain ⟨t', ht', hsize, hi⟩ := takeSegment_apply hid base segment
      cases ht.symm.trans ht'
      obtain ⟨windows, u, hu, hrest⟩ := ih (s := t) (by rw [hsize]; exact hid)
      refine ⟨_, u, by simp only [takeSegments, bind_apply, ht, hu]; rfl, ?_⟩
      have hsame : (t.interpreter id).announcement id base =
          (s.interpreter id).announcement id base := by
        rw [hi]
        rfl
      rw [hsame] at hrest
      have hboth := hhears.trans hrest
      rw [List.filterMap_cons]
      cases hannounced : (s.interpreter id).announcement id base segment with
      | none =>
          rw [hannounced] at hboth
          exact hboth
      | some notice =>
          rw [hannounced] at hboth
          exact hboth

/-- Preparing a script tells the host of its segments and then shows the banner. -/
theorem prepare_announces {t : Session} {source : Text} {base : Path} {file : Option Text}
    {script : Prepared} (hid : id < s.interpreters.size)
    (h : prepare id source base file s = (.ok script, t)) :
    let segments := Segment.ofLines (Line.scan source file)
    Hears s t (segments.filterMap ((s.interpreter id).announcement id base) ++ [.debug .banner]) ∧
      script.windows = segments.filterMap ((s.interpreter id).opening id base) := by
  intro segments
  obtain ⟨windows, u, hu, hhears⟩ := takeSegments_announces hid base segments
  obtain ⟨u', hu', -⟩ := takeSegments_apply hid base segments
  cases hu.symm.trans hu'
  obtain ⟨script', text, hprepared, -⟩ := prepare_taken hu
  refine ⟨?_, windows_of_prepare hu h⟩
  cases hprepared.symm.trans h
  have hbanner := (Hears.logged u .execution text).trans (.tell _ (.debug .banner))
  exact hhears.trans (hbanner.trans (.of_content (content_beginRun _ id)))

end Exec

namespace ScriptRun

variable {disk : Disk}

/-- What the run tells the host before it executes a statement, apart from the banner. -/
def announced (r : ScriptRun disk) : List Notice :=
  (Segment.ofLines (Line.scan r.source r.file)).filterMap
    ((r.start.interpreter r.interpreter).announcement r.interpreter r.base)

theorem hears_begun (r : ScriptRun disk) :
    Hears r.start r.begun (r.announced ++ [.debug .banner]) :=
  (prepare_announces r.present r.prepared).1

theorem isStructural_of_announced {r : ScriptRun disk} {notice : Notice}
    (h : notice ∈ r.announced) : notice.isStructural = true := by
  obtain ⟨segment, hmem, hnotice⟩ := List.mem_filterMap.1 h
  unfold Interpreter.announcement at hnotice
  rcases Option.or_eq_some_iff.1 hnotice with hopened | ⟨-, hreported⟩
  · obtain ⟨w, -, rfl⟩ := Option.map_eq_some_iff.1 hopened
    rfl
  · obtain ⟨d, hd, rfl⟩ := Option.map_eq_some_iff.1 hreported
    obtain ⟨header, problem, rfl, rfl⟩ := Segment.diagnostic?_eq_some.1 hd
    exact (problem.isStructural_on header).trans (Segment.isStructural_of_mem hmem)

end ScriptRun

/-! ## What statements tell -/

namespace Session

/-- From `s` to `t` the host was told these notices of structural passes and no others. -/
def Announces (s t : Session) (announced : List Notice) : Prop :=
  ∃ heard, Hears s t heard ∧ heard.filter (·.isStructural) = announced

namespace Announces

variable {s t u : Session} {announced more : List Notice}

theorem trans (hst : Announces s t announced) (htu : Announces t u more) :
    Announces s u (announced ++ more) := by
  obtain ⟨heard, hheard, rfl⟩ := hst
  obtain ⟨heard', hheard', rfl⟩ := htu
  exact ⟨heard ++ heard', hheard.trans hheard', List.filter_append _ _⟩

theorem of_content (h : t.content = s.content) : Announces s t [] :=
  ⟨[], .of_content h, rfl⟩

theorem tell (s : Session) {notice : Notice} (h : notice.isStructural = false) :
    Announces s (s.tell notice) [] :=
  ⟨[notice], .tell s notice, by simp [h]⟩

theorem report (s : Session) (id : Nat) {d : Diagnostic} (h : d.isStructural = false) :
    Announces s (Exec.report id d s).2 [] :=
  ⟨[.debug (.diagnostic d)], .report s id d, by simp [Notice.isStructural, h]⟩

theorem acted (p : Place) : Announces p.session p.acted [] := by
  have htraced : Announces p.session (p.session.traced p.interpreter p.line) [] := by
    unfold traced
    split
    · exact .tell _ rfl
    · exact .of_content rfl
  have hrecorded : Hears (p.session.traced p.interpreter p.line) p.acted [] := by
    refine .of_display ?_ rfl
    have hrecorded := notices_record (p.session.traced p.interpreter p.line)
      (.performed p.interpreter p.frame p.line p.action)
    exact hrecorded.trans (List.append_nil _)
  exact htraced.trans ⟨[], hrecorded, rfl⟩

theorem announcing (s : Session) (path : Text) (resolved : Path) :
    Announces s (Exec.announcing s path resolved) [] :=
  (of_content (content_record s rfl)).trans (tell _ rfl)

theorem lacking (s : Session) (path : Text) (resolved : Path) (reason : Unreadable) :
    Announces s (Exec.lacking s path resolved reason) [] := by
  have hsought := Hears.of_content (content_record s (rfl : (Event.sought resolved).notice? = none))
  have hlogged := hsought.trans (.logged _ .host
    ("External script " ++ resolved.text ++ s!" unreadable: {reason.message}"))
  have hsaid := hlogged.trans (.tell _ (.output ("Error: could not read file " ++ path ++ ".")))
  exact ⟨_, hsaid.trans (.tell _ (.output ("Check that the file exists at: " ++ resolved.text))),
    rfl⟩

end Announces

end Session

namespace ScriptRun

variable {disk : Disk} {p : Place} {path : Text}

theorem announces_begun (r : ScriptRun disk) : Announces r.start r.begun r.announced := by
  refine ⟨_, r.hears_begun, ?_⟩
  rw [List.filter_append, List.filter_eq_self.2 fun _ => isStructural_of_announced]
  exact List.append_nil _

theorem StartedAt.announces {r : ScriptRun disk} (h : r.StartedAt p path) :
    Announces p.session r.begun r.announced := by
  have hstart : Announces p.session r.start [] := by
    rw [h.start]
    exact (Announces.acted p).trans (.announcing _ _ _)
  exact hstart.trans r.announces_begun

end ScriptRun

namespace Exec

variable {disk : Disk} {id : Nat} {frame : Frame} {line : Line} {s : Session} {action : Action}
  {out : Except Fault (Option Opening) × Session}

/-- An action tells of no structural pass, unless it runs an external script. -/
theorem Carried.announces (h : Carried disk id frame line s action out)
    (hreport : ∀ d, action.report? line = some d → d.isStructural = false) :
    Announces s out.2 [] ∨ ∃ path source, action = .external path ∧ s.host.isSome ∧
      disk.readScript (s.interpreter id).config.codec (frame.base.join (.ofText path)) =
        .ok (.ok source) := by
  have hnoted : ∀ {t : Session}, Noted s t → Announces s t [] := by
    intro t hnoted
    exact ⟨[], .of_display hnoted.notices_eq hnoted.host_eq, rfl⟩
  cases h with
  | skipped => exact .inl (.of_content rfl)
  | told hnotice =>
      refine .inl (.tell _ ?_)
      cases action <;> cases hnotice <;> rfl
  | reported hd ht => exact .inl ((hnoted ht).trans (.report _ id (hreport _ hd)))
  | failed _ ht => exact .inl (hnoted ht)
  | called ht => exact .inl (hnoted ht)
  | unhosted hhost => exact .inl (.of_content rfl)
  | unaskable hhost hresolved hread => exact .inl (.of_content (content_record _ rfl))
  | unreadable hhost hresolved hread =>
      exact .inl ((Announces.lacking s _ _ _).trans
        (.report _ id (Problem.isStructural_diagnostic _)))
  | ran hhost hresolved hread hprepared =>
      subst hresolved
      exact .inr ⟨_, _, rfl, hhost, hread⟩

variable {around : List Opening} {limit : Int} {ls : List Line}

/-- The run that a statement starts, if it starts one, is what it tells of structural passes. -/
theorem announces_stepAt {p : Place} {ended : Except Fault Unit × Session}
    (hacting : Acting p.session p.interpreter p.frame limit)
    (h : Executes disk (Exec.say disk 0) (fun _ _ => True) p.around.length p.interpreter p.frame
      (p.line :: ls) p.session ended) :
    ∃ started : List (ScriptRun disk), (∀ q, q ∈ started ↔ ∃ path, q.StartedAt p path) ∧
      Announces p.session (stepAt disk (Exec.say disk 0) p).2
        (started.flatMap (·.announced)) := by
  by_cases hstarts : ∃ path, ∃ q : ScriptRun disk, q.StartedAt p path
  · obtain ⟨path, q, hq⟩ := hstarts
    refine ⟨[q], fun q' => ?_, ?_⟩
    · rw [List.mem_singleton]
      refine ⟨fun heq => ⟨path, heq ▸ hq⟩, fun ⟨path', hq'⟩ => ?_⟩
      cases hq.action.symm.trans hq'.action
      exact hq'.unique hq
    · rw [hq.stepAt_eq hacting.active, List.flatMap_singleton]
      exact hq.announces
  · refine ⟨[], fun q => ⟨fun hmem => absurd hmem List.not_mem_nil, fun ⟨path, hq⟩ =>
      absurd ⟨path, q, hq⟩ hstarts⟩, ?_⟩
    have hreport : ∀ d, p.action.report? (Statement.citedLine p.line) = some d →
        d.isStructural = false := by
      intro d hd
      rw [p.action_eq] at hd
      exact Action.isStructural_report hd
    rcases (Place.stepAt_carried disk hacting.active).announces hreport with
      hannounces | ⟨path, source, haction, hhost, hread⟩
    · exact (Announces.acted p).trans hannounces
    · rw [Place.isSome_host_acted] at hhost
      rw [Place.config_acted] at hread
      have hhere : Reaches disk (Exec.say disk 0) p.around p.interpreter p.frame (p.line :: ls)
        p.session p := .here
      obtain ⟨q, hq, -⟩ := ScriptRun.exists_startedAt hacting hhere h haction hhost hread
      exact absurd ⟨path, q, hq⟩ hstarts

theorem announces_step {ended : Except Fault Unit × Session} (around : List Opening)
    (ls : List Line) (hacting : Acting s id frame limit)
    (h : Executes disk (Exec.say disk 0) (fun _ _ => True) around.length id frame (line :: ls) s
      ended) :
    ∃ started : List (ScriptRun disk),
      (∀ q, q ∈ started ↔ ∃ path,
        q.StartedAt { around, interpreter := id, frame, line, session := s } path) ∧
      Announces s (step disk (Exec.say disk 0) id frame line s).2
        (started.flatMap (·.announced)) := by
  let p : Place := { around, interpreter := id, frame, line, session := s }
  have hacting' : Acting p.session p.interpreter p.frame limit := hacting
  have h' : Executes disk (Exec.say disk 0) (fun _ _ => True) p.around.length p.interpreter p.frame
    (p.line :: ls) p.session ended := h
  exact announces_stepAt hacting' h'

theorem startedAt_or {q : ScriptRun disk} {now later : Place → Prop} :
    (∃ p path, (now p ∨ later p) ∧ q.StartedAt p path) ↔
      (∃ p path, now p ∧ q.StartedAt p path) ∨ ∃ p path, later p ∧ q.StartedAt p path := by
  simp only [or_and_right, exists_or]

theorem startedAt_here {q : ScriptRun disk} {p : Place} :
    (∃ p' path, p' = p ∧ q.StartedAt p' path) ↔ ∃ path, q.StartedAt p path := by
  simp only [exists_and_left, exists_eq_left]

theorem announces_complete {opening : Opening} {result ended : Except Fault Unit}
    {t w v : Session}
    (h : complete (Exec.say disk 0) (fun _ _ _ _ => (result, w)) opening t = (ended, v)) :
    Announces w v [] := by
  unfold complete at h
  cases hscript : opening.script with
  | none =>
      simp only [hscript, Prod.mk.injEq] at h
      rw [h.2]
      exact .of_content rfl
  | some path =>
      simp only [hscript, bind_apply, ensuring] at h
      cases result with
      | ok _ =>
          cases h
          exact (Announces.of_content (content_endRun w _)).trans (.tell _ rfl)
      | error fault =>
          cases h
          exact .of_content (content_endRun w _)

/-- What executing lines tells of structural passes is what the runs tell that it starts at any
depth, in the order in which they start. -/
theorem Executes.runsInside {n : Nat} {ended : Except Fault Unit × Session}
    (h : Executes disk (Exec.say disk 0) (fun _ _ => True) n id frame ls s ended)
    (hn : n = around.length) (hacting : Acting s id frame limit) :
    ∃ inside : List (ScriptRun disk),
      (∀ q, q ∈ inside ↔ ∃ p path,
        Reaches disk (Exec.say disk 0) around id frame ls s p ∧ q.StartedAt p path) ∧
      Announces s ended.2 (inside.flatMap (·.announced)) := by
  have hbalanced := ScriptRun.runs_say disk
  induction h generalizing around with
  | done =>
      refine ⟨[], fun q => ⟨fun hmem => absurd hmem List.not_mem_nil, fun ⟨p, path, hp, _⟩ => ?_⟩,
        .of_content rfl⟩
      cases hp
  | @plain n id frame line lines s t ended hstep rest ih =>
      subst hn
      obtain ⟨started, hstarted, hannounced⟩ :=
        announces_step around lines hacting (.plain hstep rest)
      obtain ⟨inside, hinside, hrest⟩ := ih rfl (hacting.congr (books_of_plain hbalanced hstep))
      rw [hstep] at hannounced
      refine ⟨started ++ inside, fun q => ?_, ?_⟩
      · simp only [reaches_of_none hstep, startedAt_or, startedAt_here, List.mem_append, hstarted,
          hinside]
      · rw [List.flatMap_append]
        exact hannounced.trans hrest
  | @fault n id frame line lines s t fault hstep =>
      subst hn
      obtain ⟨started, hstarted, hannounced⟩ := announces_step around lines hacting (.fault hstep)
      rw [hstep] at hannounced
      refine ⟨started, fun q => ?_, hannounced⟩
      simp only [reaches_of_fault hstep, startedAt_here, hstarted]
  | @nested n id frame line lines s t u v ended opening result hstep hvisit body hend rest ihbody
      ihrest =>
      subst hn
      have hbooks := (Executes.nested hstep hvisit body hend .done).within books_law hbalanced
      obtain ⟨-, hi, -, hactingBody⟩ := opens_of_acting hbalanced hacting hstep
      obtain ⟨started, hstarted, hannounced⟩ :=
        announces_step around lines hacting (.nested hstep hvisit body hend rest)
      obtain ⟨within, hwithin, hbody⟩ := @ihbody (opening :: around) rfl (hi ▸ hactingBody)
      obtain ⟨inside, hinside, hrest⟩ := ihrest rfl (hacting.congr hbooks)
      rw [hstep] at hannounced
      have hentered := Announces.of_content (content_enter t opening.interpreter opening.frame)
      have hleft := Announces.of_content (content_leave u opening.interpreter
        (t.interpreter opening.interpreter).depth)
      refine ⟨started ++ (within ++ inside), fun q => ?_, ?_⟩
      · simp only [reaches_of_some hstep body hend, startedAt_or, startedAt_here, List.mem_append,
          hstarted, hwithin, hinside, true_and]
      · rw [List.flatMap_append, List.flatMap_append]
        have hcompleted := hbody.trans (hleft.trans (announces_complete hend))
        rw [List.append_nil, List.append_nil] at hcompleted
        exact hannounced.trans ((hentered.trans hcompleted).trans hrest)
  | @broken n id frame line lines s t u v opening result fault hstep hvisit body hend ihbody =>
      subst hn
      obtain ⟨-, hi, -, hactingBody⟩ := opens_of_acting hbalanced hacting hstep
      obtain ⟨started, hstarted, hannounced⟩ :=
        announces_step around lines hacting (.broken hstep hvisit body hend)
      obtain ⟨within, hwithin, hbody⟩ := @ihbody (opening :: around) rfl (hi ▸ hactingBody)
      rw [hstep] at hannounced
      have hentered := Announces.of_content (content_enter t opening.interpreter opening.frame)
      have hleft := Announces.of_content (content_leave u opening.interpreter
        (t.interpreter opening.interpreter).depth)
      refine ⟨started ++ within, fun q => ?_, ?_⟩
      · simp only [reaches_of_some hstep body hend, startedAt_or, startedAt_here, List.mem_append,
          hstarted, hwithin, reduceCtorEq, false_and, or_false]
      · rw [List.flatMap_append]
        have hcompleted := hbody.trans (hleft.trans (announces_complete hend))
        rw [List.append_nil, List.append_nil] at hcompleted
        exact hannounced.trans (hentered.trans hcompleted)

end Exec

namespace ScriptRun

variable {disk : Disk}

theorem windows_announced (r : ScriptRun disk) :
    r.announced.filterMap Notice.window? =
      (Segment.ofLines (Line.scan r.source r.file)).filterMap
        ((r.start.interpreter r.interpreter).opening r.interpreter r.base) := by
  unfold announced
  rw [List.filterMap_filterMap]
  refine congrArg (List.filterMap · _) (funext fun segment => ?_)
  cases segment <;> rfl

theorem diagnostics_announced (r : ScriptRun disk) :
    r.announced.filterMap Notice.diagnostic? =
      (Segment.ofLines (Line.scan r.source r.file)).filterMap Segment.diagnostic? := by
  unfold announced
  rw [List.filterMap_filterMap]
  refine congrArg (List.filterMap · _) (funext fun segment => ?_)
  cases segment <;> rfl

theorem Reaches.notices_begun {r : ScriptRun disk} {p : Place} (h : r.Reaches p) :
    r.begun.notices <+: p.session.notices := by
  obtain ⟨hbefore, -⟩ := Exec.Reaches.writes (runs_say disk) (serves_say disk) h
    (turn_enter _ _ _) r.executed
  obtain ⟨events, htranscript, -⟩ := hbefore.served.events
  rw [← notices_enter r.begun r.interpreter r.script.frame, notices, notices, htranscript,
    List.filterMap_append]
  exact List.prefix_append _ _

/-- From the banner on, the host is told of structural passes only by the runs inside the run. -/
theorem announces_ended (r : ScriptRun disk) :
    ∃ inside : List (ScriptRun disk),
      (∀ q, q ∈ inside ↔ ∃ p path, r.Reaches p ∧ q.StartedAt p path) ∧
      Announces r.begun r.ended (inside.flatMap (·.announced)) := by
  obtain ⟨inside, hinside, hannounces⟩ := r.executed.runsInside rfl r.standing.toActing
  refine ⟨inside, hinside, ?_⟩
  have hentered := Announces.of_content (content_enter r.begun r.interpreter r.script.frame)
  have hleft := Announces.of_content (content_leave r.last r.interpreter
    (r.begun.interpreter r.interpreter).depth)
  have hended := hannounces.trans (hleft.trans (.of_content (content_endRun _ r.interpreter)))
  rw [List.append_nil, List.append_nil] at hended
  exact hentered.trans hended

theorem windows_of_outcome {r : ScriptRun disk} {result : RunResult} {t : Session}
    (h : r.outcome = (.ok result, t)) :
    result.windows = (Segment.ofLines (Line.scan r.source r.file)).filterMap
      ((r.start.interpreter r.interpreter).opening r.interpreter r.base) := by
  rw [← (prepare_announces r.present r.prepared).2]
  unfold outcome at h
  cases hresult : r.result with
  | error fault =>
      rw [hresult] at h
      cases h
  | ok _ =>
      rw [hresult] at h
      cases h
      rfl

end ScriptRun

/-- Windows open before anything runs, in a run and in the runs of external scripts inside it at any
depth. From its start on, a run tells the host, if there is one, of the windows and of the rejected
headers of its script, one notice for each of these segments and in their order, and then shows the
banner. All its statements are executed after that. Up to its end, the host is told of windows and
rejected headers only by the runs inside it, each of which does it in the same way. The windows are
those that the structural pass finds, and they are the ones in the result. -/
theorem windows_open_before_statements (s : Session) (disk : Disk) (id : Nat) (source : Text)
    (base : Path) (file : Option Text) (hid : id < s.interpreters.size)
    (hplain : s.reactions = [])
    (hdepth : (s.interpreter id).activeRuns = 0 ∨ 0 ≤ (s.interpreter id).depth) :
    ∃ run : ScriptRun disk, run.IsRoot s id source base file ∧
      run.outcome = s.run disk id source base file ∧
      (∀ p path text, run.Reaches p → p.action = .external path → p.session.host.isSome →
        disk.readScript (p.session.interpreter p.interpreter).config.codec (p.resolved path) =
          .ok (.ok text) → ∃ r : ScriptRun disk, r.StartedAt p path ∧ r.source = text) ∧
      ∀ r, run.Includes r →
        let segments := Segment.ofLines (Line.scan r.source r.file)
        let windows :=
          segments.filterMap ((r.start.interpreter r.interpreter).opening r.interpreter r.base)
        Hears r.start r.begun (r.announced ++ [.debug .banner]) ∧
        r.announced.filterMap Notice.window? = windows ∧
        r.announced.filterMap Notice.diagnostic? = segments.filterMap Segment.diagnostic? ∧
        (∀ p, r.Reaches p → r.begun.notices <+: p.session.notices) ∧
        (∃ inside : List (ScriptRun disk),
          (∀ q, q ∈ inside ↔ ∃ p path, r.Reaches p ∧ q.StartedAt p path) ∧
          Announces r.begun r.ended (inside.flatMap (·.announced))) ∧
        ∀ result t, r.outcome = (.ok result, t) → result.windows = windows := by
  obtain ⟨run, hroot, houtcome⟩ :=
    ScriptRun.exists_isRoot disk source base file hid hplain hdepth
  refine ⟨run, hroot, houtcome, fun p path text hp haction hhost hread => ?_, fun r _ => ?_⟩
  · obtain ⟨r, hr, hsource, -⟩ := ScriptRun.exists_startedAt run.standing.toActing hp run.executed
      haction hhost hread
    exact ⟨r, hr, hsource⟩
  · exact ⟨r.hears_begun, r.windows_announced, r.diagnostics_announced,
      fun p hp => hp.notices_begun, r.announces_ended,
      fun result t hresult => ScriptRun.windows_of_outcome hresult⟩

/-- A script prints and asks for an external script before it declares its window, and one of its
headers is rejected. Its window opens first all the same, and then that of the external script. -/
theorem windows_open_before_statements_of_inclusion :
    let disk : Disk :=
      { Disk.blank with
        read := fun _ =>
          .ok "print \"b\"\n@NEW WINDOW \x7b\n@Title = \"inner\"\n\x7d".toUTF8.toList }
    let s : Session := { host := some { surface := .buffer {} }, interpreters := #[{}] }
    let source := "print \"a\"\n@EXTERNAL RUN a\nfunction\n" ++
      "@NEW WINDOW \x7b\n@Title = \"outer\"\n\x7d"
    let out := s.run disk 0 source {} none
    (0 < s.interpreters.size ∧ s.reactions = [] ∧ (s.interpreter 0).activeRuns = 0) ∧
    (∃ run : ScriptRun disk, run.IsRoot s 0 source {} none ∧ run.outcome = out ∧
      Hears s run.begun (run.announced ++ [.debug .banner]) ∧
      (run.announced.filterMap Notice.window?).map (·.window.title) = [.ofString "outer"] ∧
      (run.announced.filterMap Notice.diagnostic?).map (·.code) = ["E101"]) ∧
    (out.2.notices.filterMap Notice.window?).map (·.window.title) =
      (["outer", "inner"] : List Text) := by
  intro disk s source
  have hid : 0 < s.interpreters.size := by decide
  have hidle : (s.interpreter 0).activeRuns = 0 := by decide
  obtain ⟨run, hroot, houtcome, -, hruns⟩ :=
    windows_open_before_statements s disk 0 source {} none hid rfl (.inl hidle)
  obtain ⟨hhears, hwindows, hdiagnostics, -⟩ := hruns run (.inl rfl)
  rw [hroot.source, hroot.file, hroot.start, hroot.interpreter, hroot.base] at hwindows
  rw [hroot.source, hroot.file] at hdiagnostics
  rw [hroot.start] at hhears
  refine ⟨⟨hid, rfl, hidle⟩, ⟨run, hroot, houtcome, hhears, ?_, ?_⟩, by decide +kernel⟩
  · rw [hwindows]
    decide +kernel
  · rw [hdiagnostics]
    decide +kernel

end LineScript
