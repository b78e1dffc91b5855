import LineScript.Proofs.Session.Isolation
import LineScript.Proofs.Session.ScriptRun
import LineScript.Proofs.Session.Stack

/-! # Lines that diagnostics are about

A statement reports about its own line. The structural pass reports about lines of the script, and
the functions that it defines are made of such lines. What an execution reports is therefore about
the lines that it starts with, and about those of the functions and external scripts that it comes
to. The exceptions are reports about script files and those of a guard, which name no line.
-/

namespace LineScript

open Exec Session

/-! ## Lines that are cited -/

theorem Statement.citedLine_of_trimmed {line : Line} (h : Text.trimmed line.text = line.text) :
    citedLine line = line := by
  unfold citedLine
  split
  · rfl
  · simp only [ofLine, h]

namespace Line

theorem trimmed_ofStatement (text : Text) :
    Text.trimmed (ofStatement text).text = (ofStatement text).text := by
  simp [ofStatement, Text.trimmed, Text.trim_trim]

end Line

/-- The diagnostic names the place of the line and holds its text. -/
structure Diagnostic.Cites (d : Diagnostic) (line : Line) : Prop where
  location : d.location = line.location
  source : d.source = some line.text

/-- An error about one of the lines, about a script file or about an exhausted stack. -/
structure Diagnostic.IsAbout (cited : Line → Prop) (exhausted : Diagnostic → Prop)
    (d : Diagnostic) : Prop where
  error : d.severity = .error
  line : d.code = "E501" ∨ exhausted d ∨ ∃ line, cited line ∧ d.Cites line

theorem Problem.isAbout_on {cited : Line → Prop} {exhausted : Diagnostic → Prop} {line : Line}
    (problem : Problem) (h : cited line) : (problem.on line).IsAbout cited exhausted :=
  ⟨rfl, .inr (.inr ⟨line, h, rfl, rfl⟩)⟩

theorem Diagnostic.IsAbout.mono {cited cited' : Line → Prop}
    {exhausted exhausted' : Diagnostic → Prop}
    {d : Diagnostic} (hcited : ∀ line, cited line → cited' line)
    (hexhausted : ∀ d, exhausted d → exhausted' d) (h : d.IsAbout cited exhausted) :
    d.IsAbout cited' exhausted' := by
  refine ⟨h.error, h.line.imp_right (Or.imp (hexhausted d) ?_)⟩
  rintro ⟨line, hline, hcites⟩
  exact ⟨line, hcited line hline, hcites⟩

/-! ## Interpreters -/

/-- The functions of the interpreter are made of `known` lines, and its diagnostics from number
`first` on are about `cited` lines, or about an exhausted stack. -/
structure Interpreter.Sourced (known cited : Line → Prop) (exhausted : Diagnostic → Prop)
    (first : Nat) (i : Interpreter) : Prop where
  functions : ∀ name, ∀ line ∈ i.store.body name, known line
  diagnostics : ∀ d ∈ i.report.diagnostics.toList.drop first, d.IsAbout cited exhausted

namespace Interpreter.Sourced

variable {known cited : Line → Prop} {exhausted : Diagnostic → Prop} {first : Nat}
  {i j : Interpreter}

theorem mono {known' cited' : Line → Prop} {exhausted' : Diagnostic → Prop}
    (hknown : ∀ line, known line → known' line) (hcited : ∀ line, cited line → cited' line)
    (hexhausted : ∀ d, exhausted d → exhausted' d) (h : i.Sourced known cited exhausted first) :
    i.Sourced known' cited' exhausted' first where
  functions name line hline := hknown line (h.functions name line hline)
  diagnostics d hd := (h.diagnostics d hd).mono hcited hexhausted

theorem congr (hfunctions : j.store.functions = i.store.functions) (hreport : j.report = i.report)
    (h : i.Sourced known cited exhausted first) : j.Sourced known cited exhausted first where
  functions name line hline := by
    apply h.functions name line
    unfold Store.body at hline ⊢
    rwa [hfunctions] at hline
  diagnostics := by
    rw [hreport]
    exact h.diagnostics

theorem of_content (hcontent : j.content = i.content) (h : i.Sourced known cited exhausted first) :
    j.Sourced known cited exhausted first := by
  simp only [content, Prod.mk.injEq] at hcontent
  obtain ⟨-, hstore, hreport⟩ := hcontent
  exact h.congr (by rw [hstore]) hreport

theorem add {d : Diagnostic} (hd : d.IsAbout cited exhausted)
    (h : i.Sourced known cited exhausted first) :
    ({ i with report := i.report.add d } : Interpreter).Sourced known cited exhausted first where
  functions := h.functions
  diagnostics d' hd' := by
    simp only [Report.add, Array.toList_push, List.drop_append] at hd'
    rcases List.mem_append.1 hd' with hd' | hd'
    · exact h.diagnostics d' hd'
    · rw [List.mem_singleton.1 (List.mem_of_mem_drop hd')]
      exact hd

theorem taking {segment : Segment} (hknown : ∀ line ∈ segment.lines, known line)
    (hcited : ∀ line, known line → cited line) (h : i.Sourced known cited exhausted first) :
    (i.taking segment).Sourced known cited exhausted first := by
  cases segment with
  | statement line => exact h.congr rfl rfl
  | function header name body closing =>
      refine ⟨fun other line hline => ?_, h.diagnostics⟩
      simp only [Interpreter.taking, Segment.function?, Option.elim_some, Store.addFunction,
        Store.body, Table.get?_put] at hline
      split at hline
      · cases hline
      · rename_i routine hroutine
        split at hroutine
        · cases hroutine
          exact hknown line (by simp [Segment.lines, hline])
        · apply h.functions other line
          unfold Store.body
          rw [hroutine]
          exact hline
  | window header body closing => exact h.congr rfl rfl
  | inlineWindow header body => exact h.congr rfl rfl
  | rejected header problem =>
      have hheader : known header := hknown header (by simp [Segment.lines])
      exact (h.add (problem.isAbout_on (hcited header hheader))).congr rfl rfl

/-- The structural pass leaves functions and diagnostics of the lines of the script. -/
theorem foldl_taking {ls : List Line} (hknown : ∀ line ∈ ls, known line)
    (hcited : ∀ line, known line → cited line) (h : i.Sourced known cited exhausted first) :
    ((Segment.ofLines ls).foldl Interpreter.taking i).Sourced known cited exhausted first := by
  have hsegments : ∀ segment ∈ Segment.ofLines ls, ∀ line ∈ segment.lines, known line :=
    fun segment hsegment line hline => hknown line (Segment.mem_of_mem_lines hsegment hline)
  generalize Segment.ofLines ls = segments at hsegments
  induction segments generalizing i with
  | nil => exact h
  | cons segment segments ih =>
      rw [List.foldl_cons]
      exact ih (h.taking (hsegments segment List.mem_cons_self) hcited) fun later hlater =>
        hsegments later (List.mem_cons_of_mem _ hlater)

end Interpreter.Sourced

/-! ## Executions -/

/-- The statement at a place scans an external script: it asks for one that can be read. -/
structure Place.Scans (disk : Disk) (p : Place) (path source : Text) : Prop where
  action : p.action = .external path
  host : p.session.host.isSome
  read : disk.readScript (p.session.interpreter p.interpreter).config.codec (p.resolved path) =
    .ok (.ok source)

namespace Exec

variable {known cited : Line → Prop} {exhausted : Diagnostic → Prop} {first id : Nat}
  {s t : Session} {disk : Disk}

theorem sourced_prepare {source : Text} {base : Path} {file : Option Text} {script : Prepared}
    (hid : id < s.interpreters.size) (hp : prepare id source base file s = (.ok script, t))
    (hknown : ∀ line ∈ Line.scan source file, known line)
    (hcited : ∀ line, known line → cited line)
    (h : (s.interpreter id).Sourced known cited exhausted first) :
    (t.interpreter id).Sourced known cited exhausted first ∧ ∀ line ∈ script.statements,
      known line := by
  obtain ⟨script', t', hp', hstatements, hi⟩ := prepare_interpreter hid source base file
  cases hp.symm.trans hp'
  constructor
  · rw [hi]
    refine (h.foldl_taking hknown hcited).congr ?_ ?_
    · rfl
    · rfl
  · intro line hline
    rw [hstatements] at hline
    obtain ⟨segment, hsegment, hstatement⟩ := List.mem_filterMap.1 hline
    obtain rfl := Segment.statement?_eq_some.1 hstatement
    exact hknown line (Segment.mem_of_mem_lines hsegment (by simp [Segment.lines]))

theorem sourced_congr (heq : t.interpreters = s.interpreters)
    (h : (s.interpreter id).Sourced known cited exhausted first) :
    (t.interpreter id).Sourced known cited exhausted first := by
  rw [Session.interpreter, heq]
  exact h

theorem sourced_report {d : Diagnostic} (hid : id < s.interpreters.size)
    (hd : d.IsAbout cited exhausted)
    (h : (s.interpreter id).Sourced known cited exhausted first) :
    ((report id d s).2.interpreter id).Sourced known cited exhausted first := by
  obtain ⟨t, ht, hrefused⟩ := report_refused id d s
  rw [ht]
  change (t.interpreter id).Sourced known cited exhausted first
  rw [hrefused.interpreter_eq hid]
  exact h.add hd

theorem sourced_act (other : Nat) (frame : Frame) (line : Line) (action : Action)
    (h : (s.interpreter id).Sourced known cited exhausted first) :
    ((s.act other frame line action).interpreter id).Sourced known cited exhausted first := by
  rw [act, interpreter_modifyInterpreter, interpreter_record]
  split
  · refine h.congr ?_ ?_
    · exact Store.functions_after _ action
    · rfl
  · exact h

theorem sourced_acted {p : Place}
    (h : (p.session.interpreter id).Sourced known cited exhausted first) :
    (p.acted.interpreter id).Sourced known cited exhausted first := by
  exact sourced_act _ _ _ _ (sourced_congr (interpreters_traced _ _ _) h)

/-- A statement reports about its own line, and what it opens is made of known lines. -/
theorem sourced_stepAt {p : Place} {opened : Except Fault (Option Opening)}
    (hpresent : p.interpreter < p.session.interpreters.size)
    (hturn : p.session.Turn p.interpreter) (hline : cited p.line)
    (htrimmed : Text.trimmed p.line.text = p.line.text)
    (hcited : ∀ line, known line → cited line)
    (hscans : ∀ path source, p.Scans disk path source →
      ∀ line ∈ Line.scan source (some path), known line)
    (hstep : stepAt disk (Exec.say disk 0) p = (opened, t))
    (h : (p.session.interpreter p.interpreter).Sourced known cited exhausted first) :
    (t.interpreter p.interpreter).Sourced known cited exhausted first ∧
      ∀ opening, opened = .ok (some opening) → ∀ line ∈ opening.lines, known line := by
  have hcarried := Place.stepAt_carried disk hturn
  have hacted := sourced_acted h
  have hpresent' : p.interpreter < p.acted.interpreters.size := by
    rw [size_congr p.books_acted]
    exact hpresent
  rw [Statement.citedLine_of_trimmed htrimmed, hstep] at hcarried
  generalize haction : p.action = action at hcarried
  cases hcarried with
  | skipped => exact ⟨hacted, fun _ hopening => by cases hopening⟩
  | told hnotice =>
      exact ⟨sourced_congr (interpreters_tell _ _) hacted, fun _ hopening => by cases hopening⟩
  | @reported _ d u hd hnoted =>
      have habout : d.IsAbout cited exhausted := by
        rcases Action.report?_eq_some hd with ⟨problem, -, rfl⟩ | ⟨name, size, budget, -, rfl⟩
        · exact problem.isAbout_on hline
        · exact Problem.isAbout_on _ hline
      have hpresent'' : p.interpreter < u.interpreters.size := by
        rw [hnoted.interpreters_eq]
        exact hpresent'
      exact ⟨sourced_report hpresent'' habout (sourced_congr hnoted.interpreters_eq hacted),
        fun _ hopening => by cases hopening⟩
  | failed hlocal hnoted =>
      exact ⟨sourced_congr hnoted.interpreters_eq hacted, fun _ hopening => by cases hopening⟩
  | called hnoted =>
      refine ⟨sourced_congr hnoted.interpreters_eq hacted, ?_⟩
      rintro _ hopening line hmem
      cases hopening
      exact hacted.functions _ line hmem
  | unhosted hhost => exact ⟨hacted, fun _ hopening => by cases hopening⟩
  | unaskable hhost hresolved hread => exact ⟨hacted, fun _ hopening => by cases hopening⟩
  | unreadable hhost hresolved hread =>
      refine ⟨sourced_report ?_ ⟨rfl, .inl rfl⟩
        (sourced_congr (interpreters_lacking _ _ _ _) hacted), fun _ hopening => by cases hopening⟩
      rw [interpreters_lacking]
      exact hpresent'
  | @ran path source resolved script _ hhost hresolved hread hprepared =>
      subst hresolved
      rw [p.isSome_host_acted] at hhost
      rw [p.config_acted] at hread
      have hannouncing :
          (announcing p.acted path (p.frame.base.join (.ofText path))).interpreters =
            p.acted.interpreters := interpreters_tell _ _
      obtain ⟨hprepare, hstatements⟩ := sourced_prepare (by rw [hannouncing]; exact hpresent')
        hprepared (hscans path source ⟨haction, hhost, hread⟩) hcited
        (sourced_congr hannouncing hacted)
      refine ⟨hprepare, ?_⟩
      rintro _ hopening
      cases hopening
      exact hstatements

end Exec

/-! ## Events of an execution -/

namespace Session

def added (s t : Session) : List Event :=
  t.transcript.toList.drop s.transcript.size

/-- The lines of the external scripts that interpreter `id` asked for from `s` to `t` are known. -/
def ReadsKnown (disk : Disk) (config : Config) (id : Nat) (known : Line → Prop) (s t : Session) :
    Prop :=
  ∀ frame line path source, .performed id frame line (.external path) ∈ s.added t →
    disk.readScript config.codec (frame.base.join (.ofText path)) = .ok (.ok source) →
    ∀ scanned ∈ Line.scan source (some path), known scanned

structure HasConfig (s : Session) (id : Nat) (config : Config) : Prop where
  present : id < s.interpreters.size
  config_eq : (s.interpreter id).config = config

variable {disk : Disk} {config : Config} {id : Nat} {known : Line → Prop}
  {s s' t t' : Session} {event : Event}

theorem Adds.transcript_eq {P : Event → Prop} (h : Adds P s t) :
    t.transcript.toList = s.transcript.toList ++ s.added t := by
  obtain ⟨events, hevents, -⟩ := h
  rw [added, hevents, ← Array.length_toList, List.drop_left]

theorem Adds.mem_added {P : Event → Prop} (hs : Adds P s s') (hmiddle : Adds P s' t')
    (ht : Adds P t' t) (h : event ∈ s'.added t') : event ∈ s.added t := by
  have hall := ((hs.trans hmiddle).trans ht).transcript_eq
  rw [ht.transcript_eq, hmiddle.transcript_eq, hs.transcript_eq, List.append_assoc,
    List.append_assoc, List.append_cancel_left_eq] at hall
  rw [← hall]
  exact List.mem_append_right _ (List.mem_append_left _ h)

theorem ReadsKnown.within {P : Event → Prop} (h : ReadsKnown disk config id known s t)
    (hs : Adds P s s') (hmiddle : Adds P s' t') (ht : Adds P t' t) :
    ReadsKnown disk config id known s' t' :=
  fun frame line path source hevent => h frame line path source (hs.mem_added hmiddle ht hevent)

theorem HasConfig.of_settings (h : t.settings = s.settings) (hs : s.HasConfig id config) :
    t.HasConfig id config where
  present := by
    have hsize := congrArg (·.1.size) h
    simp only [settings, Array.size_map] at hsize
    rw [hsize]
    exact hs.present
  config_eq := by
    rw [config_eq_of_settings h]
    exact hs.config_eq

end Session

/-! ## Executions -/

namespace Exec

/-- The runner keeps interpreter `id` sourced when it executes cited lines. -/
structure Sources (disk : Disk) (config : Config) (id : Nat) (known cited : Line → Prop)
    (exhausted : Diagnostic → Prop) (first : Nat) (runner : Runner) : Prop where
  balanced : ∀ id frame ls, Balanced (runner id frame ls)
  adds : ∀ id frame ls, Within (Adds fun _ => True) (runner id frame ls)
  sourced : ∀ {frame : Frame} {ls : List Line} {s : Session}, s.HasConfig id config →
    (∀ line ∈ ls, cited line) →
    ReadsKnown disk config id known s (runner id frame ls s).2 →
    (s.interpreter id).Sourced known cited exhausted first →
    ((runner id frame ls s).2.interpreter id).Sourced known cited exhausted first

variable {known cited : Line → Prop} {exhausted : Diagnostic → Prop} {first id : Nat}
  {config : Config} {s t : Session} {disk : Disk} {frame : Frame} {line : Line} {runner : Runner}

theorem sourced_complete {opening : Opening} (hi : opening.interpreter = id)
    (h : ((runner id opening.frame opening.lines t).2.interpreter id).Sourced known cited exhausted
      first) :
    ((complete (Exec.say disk 0) runner opening t).2.interpreter id).Sourced known cited exhausted
      first := by
  subst hi
  unfold complete
  cases opening.script with
  | none => exact h
  | some path =>
      simp only [bind_apply, ensuring]
      cases hrun : runner opening.interpreter opening.frame opening.lines t with
      | mk result u =>
          rw [hrun] at h
          have hended := h.of_content
            (interpreter_content_congr (content_endRun u opening.interpreter) _)
          cases result with
          | error fault => exact hended
          | ok _ =>
              change (((u.endRun opening.interpreter).tell _).interpreter _).Sourced _ _ _ _
              rw [interpreter_tell]
              exact hended

theorem settings_step {opened : Except Fault (Option Opening)}
    (hstep : step disk (Exec.say disk 0) id frame line s = (opened, t)) :
    t.settings = s.settings := by
  have stable := settings_stable s.settings
  have hopened := opens_step disk stable.law (within_say disk stable.law 0) id frame line s
  rw [hstep] at hopened
  cases hopened with
  | fault h => exact h rfl
  | none h => exact h rfl
  | call _ h => exact h rfl
  | script _ h => exact stable.beginRun _ (h rfl)

theorem mem_added_of_step {opened : Except Fault (Option Opening)}
    (hstep : step disk (Exec.say disk 0) id frame line s = (opened, t)) :
    Adds (fun _ => True) s t ∧ .performed id frame line (s.actionOf id frame line) ∈ s.added t := by
  have hsay := within_say disk adds_law 0
  have hopened := opens_perform disk adds_law hsay id frame (Statement.citedLine line)
    (s.actionOf id frame line) ((s.traced id line).act id frame line (s.actionOf id frame line))
  rw [← step_apply, hstep] at hopened
  have htraced : Adds (fun _ => True) s (s.traced id line) := by
    unfold traced
    split
    · exact .tell s trivial
    · exact .refl s
  have hrecorded : Adds (fun _ => True) (s.traced id line)
      ((s.traced id line).act id frame line (s.actionOf id frame line)) := .record _ trivial
  refine ⟨(htraced.trans hrecorded).trans hopened.adds, ?_⟩
  refine htraced.mem_added hrecorded hopened.adds ?_
  have hpushed : ((s.traced id line).act id frame line
    (s.actionOf id frame line)).transcript.toList =
      (s.traced id line).transcript.toList ++
        [.performed id frame line (s.actionOf id frame line)] := Array.toList_push
  rw [added, hpushed, ← Array.length_toList, List.drop_left]
  exact List.mem_singleton_self _

section Cited

variable (hcited : ∀ line, known line → cited line)
  (htrimmed : ∀ line, cited line → Text.trimmed line.text = line.text)

include hcited htrimmed

theorem Sources.executeLine (h : Sources disk config id known cited exhausted first runner)
    (frame : Frame) (hs : s.HasConfig id config) (hturn : s.Turn id) (hline : cited line)
    (hread : ReadsKnown disk config id known s
      (executeLine disk (Exec.say disk 0) runner id frame line s).2)
    (hsourced : (s.interpreter id).Sourced known cited exhausted first) :
    ((executeLine disk (Exec.say disk 0) runner id frame line s).2.interpreter id).Sourced known
      cited exhausted first := by
  have hsay := within_say disk adds_law 0
  cases hstep : step disk (Exec.say disk 0) id frame line s with
  | mk opened t =>
      obtain ⟨hadds, hperformed⟩ := mem_added_of_step hstep
      let p : Place := { around := [], interpreter := id, frame, line, session := s }
      have hscans : ∀ t', Adds (fun _ => True) t t' → ReadsKnown disk config id known s t' →
          ∀ path source, p.Scans disk path source →
            ∀ scanned ∈ Line.scan source (some path), known scanned := by
        intro t' ht' hread path source hscans
        have haction : s.actionOf id frame line = .external path := hscans.action
        rw [haction] at hperformed
        refine hread frame line path source ((Adds.refl s).mem_added hadds ht' hperformed) ?_
        rw [← hs.config_eq]
        exact hscans.read
      have hstepped : ∀ t', Adds (fun _ => True) t t' → ReadsKnown disk config id known s t' →
          (t.interpreter id).Sourced known cited exhausted first ∧
            ∀ opening, opened = .ok (some opening) → ∀ line ∈ opening.lines, known line :=
        fun t' ht' hread => sourced_stepAt (p := p) hs.present hturn hline
          (htrimmed line hline) hcited
          (hscans t' ht' hread) hstep hsourced
      simp only [Exec.executeLine, bind_apply, hstep] at hread ⊢
      cases opened with
      | error fault => exact (hstepped t (.refl t) hread).1
      | ok opened =>
          cases opened with
          | none => exact (hstepped t (.refl t) hread).1
          | some opening =>
              have hi := interpreter_of_turn (within_say disk books_law 0) hturn hstep
              subst hi
              have hrun := h.adds opening.interpreter opening.frame opening.lines t
              have hend : Adds (fun _ => True)
                  (runner opening.interpreter opening.frame opening.lines t).2
                  (complete (Exec.say disk 0) runner opening t).2 := by
                rw [complete_congr (Exec.say disk 0) rfl]
                exact adds_complete hsay _ opening t _
              obtain ⟨ht, hopening⟩ := hstepped _ (hrun.trans hend) hread
              refine sourced_complete rfl
                (h.sourced (hs.of_settings (settings_step hstep)) ?_ ?_ ht)
              · exact fun line hmem => hcited line (hopening opening rfl line hmem)
              · exact hread.within hadds hrun hend

theorem Sources.each (h : Sources disk config id known cited exhausted first runner)
    (frame : Frame) (ls : List Line) (s : Session) (hs : s.HasConfig id config) (hturn : s.Turn id)
    (hlines : ∀ line ∈ ls, cited line)
    (hread : ReadsKnown disk config id known s
      (each (Exec.executeLine disk (Exec.say disk 0) runner id frame) ls s).2)
    (hsourced : (s.interpreter id).Sourced known cited exhausted first) :
    ((each (Exec.executeLine disk (Exec.say disk 0) runner id frame) ls s).2.interpreter
      id).Sourced known cited exhausted first := by
  induction ls generalizing s with
  | nil => exact hsourced
  | cons line ls ih =>
      have hline := h.executeLine hcited htrimmed frame hs hturn (hlines line List.mem_cons_self)
      have hbooks := within_executeLine disk books_law (within_say disk books_law 0) h.balanced id
        frame line s
      have hexecuted := within_executeLine disk adds_law (within_say disk adds_law 0) h.adds id
        frame
      have hadds := hexecuted line s
      rw [each_cons, bind_apply] at hread ⊢
      cases hx : Exec.executeLine disk (Exec.say disk 0) runner id frame line s with
      | mk result t =>
          simp only [hx] at hread hline hbooks hadds ⊢
          cases result with
          | error fault => exact hline hread hsourced
          | ok _ =>
              have hlater := within_each adds_law hexecuted ls t
              exact ih t (hs.of_settings (settings_eq_of_books hbooks)) (hturn.congr hbooks)
                (fun line hmem => hlines line (List.mem_cons_of_mem _ hmem))
                (hread.within hadds hlater (.refl _))
                (hline (hread.within (.refl s) hadds hlater) hsourced)

theorem Sources.activation (h : Sources disk config id known cited exhausted first runner) :
    Sources disk config id known cited exhausted first
      (activation disk (Exec.say disk 0) runner) := by
  have hsay := within_say disk adds_law 0
  refine ⟨within_activation disk books_law (within_say disk books_law 0) h.balanced,
    within_activation disk adds_law hsay h.adds, ?_⟩
  intro frame ls s hs hlines hread hsourced
  rw [activation_apply] at hread ⊢
  have hentered : Adds (fun _ => True) s (s.enter id frame) := .enter s trivial
  have hbody := within_each adds_law (within_executeLine disk adds_law hsay h.adds id frame) ls
    (s.enter id frame)
  have hlast := h.each hcited htrimmed frame ls (s.enter id frame)
    (hs.of_settings (settings_enter s id frame)) (turn_enter s id frame) hlines
    (hread.within hentered hbody (.leave _ _ trivial))
    (hsourced.of_content (interpreter_content_congr (content_enter s id frame) id))
  exact hlast.of_content (interpreter_content_congr (content_leave _ id _) id)

/-- The induction over nested executions. -/
theorem sources_lines (levels : Nat) :
    Sources disk config id known cited exhausted first (lines disk (Exec.say disk 0) levels) := by
  induction levels with
  | zero => exact ⟨fun _ _ _ => books_law.refl, fun _ _ _ => adds_law.refl, fun _ _ _ hs => hs⟩
  | succ levels ih => exact ih.activation hcited htrimmed

end Cited

theorem sourced_reportExhausted (hs : s.HasConfig id config)
    (hexhausted : exhausted (Problem.depthExceeded config.depthLimit).diagnostic)
    (h : (s.interpreter id).Sourced known cited exhausted first) :
    ((reportExhausted id s).2.interpreter id).Sourced known cited exhausted first := by
  have hexecuted : reportExhausted id s =
      report id (Problem.depthExceeded (s.interpreter id).config.depthLimit).diagnostic
        (s.record (.logged .execution
          s!"Python stack exhausted below depth {(s.interpreter id).depth}")) := rfl
  rw [hexecuted, hs.config_eq]
  exact sourced_report hs.present ⟨rfl, .inr (.inl hexhausted)⟩ h

theorem Sources.guarded {x : Exec Unit} (hbalanced : Balanced x)
    (hadds : Within (Adds fun _ => True) x)
    (hsourced : ReadsKnown disk config id known s (x s).2 →
      ((x s).2.interpreter id).Sourced known cited exhausted first)
    (hs : s.HasConfig id config)
    (hexhausted : exhausted (Problem.depthExceeded config.depthLimit).diagnostic)
    (hread : ReadsKnown disk config id known s (guarded id x s).2) :
    ((guarded id x s).2.interpreter id).Sourced known cited exhausted first := by
  have hbooks := hbalanced s
  have hadded := hadds s
  unfold Exec.guarded at hread ⊢
  split at hread
  · rename_i t hx
    simp only [hx] at hbooks hadded hsourced hread ⊢
    have hreported := within_reportExhausted adds_law id t
    exact sourced_reportExhausted (hs.of_settings (settings_eq_of_books hbooks)) hexhausted
      (hsourced (hread.within (.refl s) hadded hreported))
  · exact hsourced hread

theorem Sources.guardedRuns (h : Sources disk config id known cited exhausted first runner)
    (hexhausted : exhausted (Problem.depthExceeded config.depthLimit).diagnostic) :
    Sources disk config id known cited exhausted first (guardedRuns runner) := by
  refine ⟨within_guardedRuns books_law h.balanced, within_guardedRuns adds_law h.adds, ?_⟩
  intro frame ls s hs hlines hread hsourced
  unfold Exec.guardedRuns at hread ⊢
  simp only [bind_apply, interpreter] at hread ⊢
  split at hread
  · rename_i htop
    rw [if_pos htop]
    exact Sources.guarded (h.balanced id frame ls) (h.adds id frame ls)
      (fun hread => h.sourced hs hlines hread hsourced) hs hexhausted hread
  · rename_i hinside
    rw [if_neg hinside]
    exact h.sourced hs hlines hread hsourced

section Operations

variable {source text : Text} {base : Path} {file : Option Text}
  (hcited : ∀ line, known line → cited line)
  (htrimmed : ∀ line, cited line → Text.trimmed line.text = line.text)

include hcited

/-- A run reports about lines of its script, and about those that its statements come to. -/
theorem Sources.runWith (h : Sources disk config id known cited exhausted first runner)
    (hs : s.HasConfig id config) (hsource : ∀ line ∈ Line.scan source file, known line)
    (hread : ReadsKnown disk config id known s (runWith runner id source base file s).2)
    (hsourced : (s.interpreter id).Sourced known cited exhausted first) :
    ((runWith runner id source base file s).2.interpreter id).Sourced known cited exhausted
      first := by
  obtain ⟨script, t, hp, hc, -⟩ := prepare_apply id source base file s
  obtain ⟨hbegun, hstatements⟩ := sourced_prepare hs.present hp hsource hcited hsourced
  have hrun := h.adds id script.frame script.statements (t.beginRun id)
  have hadds : Adds (fun _ => True) s (t.beginRun id) :=
    (adds_law.changes hc).trans (.of_transcript_eq rfl)
  rw [runWith_congr hp rfl, runWith_outcome hp] at hread ⊢
  have hended : Adds (fun _ => True)
      (runner id script.frame script.statements (t.beginRun id)).2
      ((runner id script.frame script.statements (t.beginRun id)).2.endRun id) :=
    .of_transcript_eq rfl
  have hsettings : (t.beginRun id).settings = s.settings :=
    (settings_beginRun t id).trans (settings_eq_of_books (books_law.changes hc))
  have hlast := h.sourced (hs.of_settings hsettings)
    (fun line hmem => hcited line (hstatements line hmem)) (hread.within hadds hrun hended) hbegun
  exact hlast.of_content (interpreter_content_congr (content_endRun _ id) id)

include htrimmed

theorem sources_linesOn
    (hexhausted : exhausted (Problem.depthExceeded config.depthLimit).diagnostic)
    (room : Nat) :
    Sources disk config id known cited exhausted first
      (linesOn disk (fun _ => Exec.say disk 0) room) := by
  induction room with
  | zero => exact ⟨fun _ _ _ => books_law.refl, fun _ _ _ => adds_law.refl, fun _ _ _ hs => hs⟩
  | succ room ih => exact (ih.guardedRuns hexhausted).activation hcited htrimmed

end Operations

end Exec

/-! ## Operations on a stack -/

namespace Session

variable {known cited : Line → Prop} {exhausted : Diagnostic → Prop} {first stack id : Nat}
  {s : Session} {disk : Disk} {source text : Text} {base : Path} {file : Option Text}
  (hid : id < s.interpreters.size) (hplain : s.reactions = [])
  (hcited : ∀ line, known line → cited line)
  (htrimmed : ∀ line, cited line → Text.trimmed line.text = line.text)
  (hs : (s.interpreter id).Sourced known cited exhausted first)

include hid hplain hcited htrimmed hs

theorem sourced_runOn (hidle : (s.interpreter id).activeRuns = 0)
    (hexhausted : stack ≤ max (s.interpreter id).config.depthLimit 0 →
      exhausted (Problem.depthExceeded (s.interpreter id).config.depthLimit).diagnostic)
    (hsource : ∀ line ∈ Line.scan source file, known line)
    (hread : ReadsKnown disk (s.interpreter id).config id known s
      (s.runOn stack disk id source base file).2) :
    ((s.runOn stack disk id source base file).2.interpreter id).Sourced known cited exhausted
      first := by
  have hconfig : s.HasConfig id (s.interpreter id).config := ⟨hid, rfl⟩
  by_cases hstack : max (s.interpreter id).config.depthLimit 0 < stack
  · rw [runOn_eq_run disk source base file hplain hid hidle hstack,
      run_plain disk id source base file hplain] at hread ⊢
    exact (sources_lines hcited htrimmed _).runWith hcited hconfig hsource hread hs
  · have hsmall : stack ≤ max (s.interpreter id).config.depthLimit 0 := by omega
    rw [runOn, performOn_plain disk _ hplain] at hread ⊢
    have hlines : Sources disk (s.interpreter id).config id known cited exhausted first
        (linesOn disk (fun _ => Exec.say disk 0) stack) :=
      sources_linesOn hcited htrimmed (hexhausted hsmall) stack
    exact (hlines.guardedRuns (hexhausted hsmall)).runWith hcited hconfig hsource hread hs

theorem sourced_executeOn
    (hexhausted : stack < levelsFrom (s.interpreter id) 0 →
      exhausted (Problem.depthExceeded (s.interpreter id).config.depthLimit).diagnostic)
    (htext : cited (.ofStatement text))
    (hread : ReadsKnown disk (s.interpreter id).config id known s
      (s.executeOn stack disk id text base).2) :
    ((s.executeOn stack disk id text base).2.interpreter id).Sourced known cited exhausted
      first := by
  have hconfig : s.HasConfig id (s.interpreter id).config := ⟨hid, rfl⟩
  have hline : ∀ line ∈ [Line.ofStatement text], cited line := by simpa using htext
  by_cases hstack : levelsFrom (s.interpreter id) 0 ≤ stack
  · rw [executeOn_eq_execute disk text base hplain hid hstack, execute,
      perform_plain disk _ hplain] at hread ⊢
    exact (sources_lines hcited htrimmed _).sourced hconfig hline hread hs
  · have hsmall : stack < levelsFrom (s.interpreter id) 0 := by omega
    have hlines : Sources disk (s.interpreter id).config id known cited exhausted first
        (linesOn disk (fun _ => Exec.say disk 0) stack) :=
      sources_linesOn hcited htrimmed (hexhausted hsmall) stack
    rw [executeOn, performOn_plain disk _ hplain] at hread ⊢
    unfold Exec.executeOn at hread ⊢
    simp only [bind_apply, Exec.interpreter] at hread ⊢
    split at hread
    · rename_i hidle
      rw [if_pos hidle]
      exact Sources.guarded (hlines.balanced _ _ _) (hlines.adds _ _ _)
        (fun hread => hlines.sourced hconfig hline hread hs) hconfig (hexhausted hsmall) hread
    · rename_i hrunning
      rw [if_neg hrunning]
      exact hlines.sourced hconfig hline hread hs

end Session

end LineScript
