import LineScript.CommandLine.Program
import LineScript.Proofs.Memory.Account
import LineScript.Proofs.Script.Check
import LineScript.Proofs.Session.Reach
import LineScript.Proofs.Session.StructuralPass

/-! # What a check tells about a run

A run of a script without external scripts executes statements and the bodies of functions that are
left in the end, and a check looks at just these lines. `Accounts` relates the diagnostics of an
execution to the lines that a check classifies. The main result compares the two reports.
-/

namespace LineScript

/-! ## What actions report -/

/-- The diagnostic that an action adds to the report when it is carried out. -/
def Action.report? (line : Line) : Action → Option Diagnostic
  | .refuse problem => some (problem.on line)
  | .overBudget name size _ => some ((Problem.budgetExceeded name size).on line)
  | _ => none

/-- A problem that a check can find: one of a block or an unknown command. -/
def Problem.isStatic (problem : Problem) : Bool :=
  problem.isStructural || problem.code = "E201"

namespace Action

variable {config : Config} {frame : Frame} {store : Store} {statement : Statement}
  {problem : Problem}

theorem ofPrint_refuse (h : ofPrint frame store statement = .refuse problem) :
    problem.isStatic = false := by
  unfold ofPrint at h
  repeat' split at h
  all_goals cases h
  all_goals rfl

theorem ofDefining_refuse {other : Problem}
    (h : ofDefining config store statement other = .refuse problem) : problem = other := by
  unfold ofDefining at h
  split at h
  · cases h
    rfl
  · simp only [ofDefinition] at h
    repeat' split at h
    all_goals cases h

theorem ofMaxMemory_refuse (h : ofMaxMemory statement = .refuse problem) :
    problem.isStatic = false := by
  unfold ofMaxMemory at h
  repeat' split at h
  all_goals cases h
  all_goals rfl

theorem ofFree_refuse (h : ofFree store statement = .refuse problem) :
    problem.isStatic = false := by
  unfold ofFree at h
  split at h
  · simp only at h
    split at h
    · cases h
    · cases h
      rfl
  · cases h
    rfl

theorem nested_refuse {action : Action} (h : nested config frame action = .refuse problem)
    (hnot : action ≠ .refuse problem) : problem.isStatic = false := by
  unfold nested at h
  split at h
  · cases h
    rfl
  · exact absurd h hnot

theorem ofExternal_refuse (h : ofExternal config frame statement = .refuse problem) :
    problem.isStatic = false := by
  unfold ofExternal at h
  split at h
  · cases h
    rfl
  · exact nested_refuse h (by simp)

theorem ofCall_refuse (h : ofCall config frame statement = .refuse problem) :
    problem.isStatic = false := by
  unfold ofCall at h
  split at h
  · cases h
    rfl
  · exact nested_refuse h (by simp)

theorem ofUpdate_refuse (h : ofUpdate statement = .refuse problem) :
    problem.isStatic = false := by
  unfold ofUpdate at h
  repeat' split at h
  all_goals cases h
  all_goals rfl

/-- A statement is refused for what a check can find only if its command is unknown. -/
theorem of_refuse {line : Line} (h : of config frame store (.ofLine line) = .refuse problem) :
    problem.isStatic = false ∨
      (Statement.ofLine line).command = .unknown ∧
        problem = .unknownCommand (Statement.ofLine line).commandWord := by
  unfold of at h
  split at h
  · cases h
  · cases hc : (Statement.ofLine line).command with rw [hc] at h
    | print => exact .inl (ofPrint_refuse h)
    | string => exact .inl (ofDefining_refuse h ▸ rfl)
    | value => exact .inl (ofDefining_refuse h ▸ rfl)
    | maxMemory => exact .inl (ofMaxMemory_refuse h)
    | free => exact .inl (ofFree_refuse h)
    | output => exact absurd h (ofClear_ne (by simp) (by simp))
    | debug => exact absurd h (ofClear_ne (by simp) (by simp))
    | external => exact .inl (ofExternal_refuse h)
    | call => exact .inl (ofCall_refuse h)
    | updateWindow => exact .inl (ofUpdate_refuse h)
    | unknown =>
        cases h
        exact .inr ⟨rfl, rfl⟩
    | _ => cases h

theorem of_unknown {line : Line} (hwords : (Statement.ofLine line).words ≠ [])
    (hc : (Statement.ofLine line).command = .unknown) :
    of config frame store (.ofLine line) =
      .refuse (.unknownCommand (Statement.ofLine line).commandWord) := by
  rw [of, if_neg hwords, hc, ofCommand]

theorem report?_eq_some {action : Action} {line : Line} {d : Diagnostic}
    (h : action.report? line = some d) :
    (∃ problem, action = .refuse problem ∧ d = problem.on line) ∨
      ∃ name size budget, action = .overBudget name size budget ∧
        d = (Problem.budgetExceeded name size).on line := by
  cases action with
  | refuse problem => exact .inl ⟨problem, rfl, (Option.some.inj h).symm⟩
  | overBudget name size budget => exact .inr ⟨name, size, budget, rfl, (Option.some.inj h).symm⟩
  | _ => cases h

theorem isStructural_report {line cited : Line} {d : Diagnostic}
    (h : (of config frame store (.ofLine line)).report? cited = some d) :
    d.isStructural = false := by
  rcases report?_eq_some h with ⟨problem, ha, rfl⟩ | ⟨name, size, budget, -, rfl⟩
  · rw [Problem.isStructural_on]
    rcases of_refuse ha with hstatic | ⟨-, rfl⟩
    · simp only [Problem.isStatic, Bool.or_eq_false_iff] at hstatic
      exact hstatic.1
    · rfl
  · rw [Problem.isStructural_on]
    rfl

/-- A statement reports an unknown command exactly if a check finds it on the line. -/
theorem report?_unknown {line : Line} {d : Diagnostic}
    (hwords : (Statement.ofLine line).words ≠ []) (hd : d.code = "E201") :
    (of config frame store (.ofLine line)).report? (Statement.citedLine line) = some d ↔
      Outline.unknown? line = some d := by
  by_cases hc : (Statement.ofLine line).command = .unknown
  · rw [of_unknown hwords hc]
    simp [report?, Outline.unknown?, Statement.citedLine, hc]
  · have hnone : Outline.unknown? line = none := by simp [Outline.unknown?, hc]
    rw [hnone]
    constructor
    · intro h
      exfalso
      rcases report?_eq_some h with ⟨problem, ha, rfl⟩ | ⟨name, size, budget, -, rfl⟩
      · rcases of_refuse ha with hstatic | ⟨hunknown, -⟩
        · have hcode : problem.code = "E201" := hd
          simp [Problem.isStatic, hcode] at hstatic
        · exact hc hunknown
      · simp [Problem.on, Problem.diagnostic, Problem.code] at hd
    · intro h
      cases h

end Action

/-! ## Diagnostics of an execution -/

/-- The line belongs to the body of a function in the table. -/
def Table.Holds (functions : Table Routine) (line : Line) : Prop :=
  ∃ routine ∈ functions.values, line ∈ routine.body

/-- The diagnostics are those of executing the lines, as far as a check can tell: none is about a
block; those about unknown commands are what a check finds on the lines or in the functions; and
what it finds on a line only, and in no function, comes exactly as often as there are such lines. -/
structure Accounts (functions : Table Routine) (ls : List Line) (ds : List Diagnostic) : Prop where
  structural : ∀ d ∈ ds, d.isStructural = false
  sound : ∀ d ∈ ds, d.code = "E201" →
    ∃ line, (line ∈ ls ∨ functions.Holds line) ∧ Outline.unknown? line = some d
  complete : ∀ d, d.code = "E201" →
    (∀ line, functions.Holds line → Outline.unknown? line ≠ some d) →
    ds.count d = (ls.filterMap Outline.unknown?).count d

namespace Accounts

variable {functions : Table Routine} {ls more : List Line} {ds others : List Diagnostic}

theorem nil : Accounts functions [] [] :=
  ⟨by simp, by simp, by simp⟩

theorem append (h : Accounts functions ls ds) (h' : Accounts functions more others) :
    Accounts functions (ls ++ more) (ds ++ others) where
  structural d hd := by
    rcases List.mem_append.1 hd with hd | hd
    · exact h.structural d hd
    · exact h'.structural d hd
  sound d hd hcode := by
    rcases List.mem_append.1 hd with hd | hd
    · obtain ⟨line, hline | hline, hfound⟩ := h.sound d hd hcode
      · exact ⟨line, .inl (List.mem_append_left _ hline), hfound⟩
      · exact ⟨line, .inr hline, hfound⟩
    · obtain ⟨line, hline | hline, hfound⟩ := h'.sound d hd hcode
      · exact ⟨line, .inl (List.mem_append_right _ hline), hfound⟩
      · exact ⟨line, .inr hline, hfound⟩
  complete d hcode hbodies := by
    rw [List.count_append, List.filterMap_append, List.count_append, h.complete d hcode hbodies,
      h'.complete d hcode hbodies]

/-- The body of a function in the table adds nothing to the lines. -/
theorem absorb (h : Accounts functions ls ds) (hls : ∀ line ∈ ls, functions.Holds line) :
    Accounts functions [] ds where
  structural := h.structural
  sound d hd hcode := by
    obtain ⟨line, hline, hfound⟩ := h.sound d hd hcode
    exact ⟨line, .inr (hline.elim (hls line) fun hline => hline), hfound⟩
  complete d hcode hbodies := by
    rw [h.complete d hcode hbodies, List.filterMap_nil, List.count_nil, List.count_eq_zero]
    intro hmem
    obtain ⟨line, hline, hfound⟩ := List.mem_filterMap.1 hmem
    exact hbodies line (hls line hline) hfound

theorem statement (s : Session) (id : Nat) (frame : Frame) {line : Line}
    (hwords : (Statement.ofLine line).words ≠ []) :
    Accounts functions [line]
      ((s.actionOf id frame line).report? (Statement.citedLine line)).toList where
  structural d hd := Action.isStructural_report (Option.mem_toList.1 hd)
  sound d hd hcode :=
    ⟨line, .inl List.mem_cons_self, (Action.report?_unknown hwords hcode).1
      (Option.mem_toList.1 hd)⟩
  complete d hcode _ := by
    have hcount : ∀ found : Option Diagnostic,
        found.toList.count d = if found = some d then 1 else 0 := by
      intro found
      cases found with
      | none => simp
      | some other => by_cases h : other = d <;> simp [h]
    have hline : [line].filterMap Outline.unknown? = (Outline.unknown? line).toList := by
      cases h : Outline.unknown? line <;> simp [h]
    rw [hline, hcount, hcount]
    simp only [Session.actionOf, Action.report?_unknown hwords hcode]

/-- What a check finds at the place of a statement outside functions is reported exactly once: no
body has a line at this place, and no other statement is there. -/
theorem count_eq_one {script : List Line} (hn : Line.Numbered script)
    (h : Accounts (Outline.ofLines script).functions (Outline.ofLines script).statements.toList ds)
    {d : Diagnostic} (hd : d ∈ (Outline.ofLines script).commandLines.filterMap Outline.unknown?)
    {line : Line} (hline : line ∈ (Outline.ofLines script).statements.toList)
    (hlocation : line.location = d.location) : ds.count d = 1 := by
  have hbodies : ∀ other, (Outline.ofLines script).functions.Holds other →
      Outline.unknown? other ≠ some d := by
    rintro other ⟨routine, hroutine, hother⟩ hfound
    have hapart := Outline.statement_apart_body hn hline hroutine hother
    rw [hlocation, (Outline.unknown?_eq_some hfound).2] at hapart
    exact hapart rfl
  obtain ⟨other, hother, hfound⟩ := List.mem_filterMap.1 hd
  have hmem : d ∈ (Outline.ofLines script).statements.toList.filterMap Outline.unknown? := by
    rcases Outline.mem_commandLines.1 hother with hother | hother
    · exact List.mem_filterMap.2 ⟨other, hother, hfound⟩
    · exact absurd hfound (hbodies other hother)
  rw [h.complete d (Outline.unknown?_eq_some hfound).1 hbodies,
    (Outline.nodup_unknown_statements hn).count, if_pos hmem]

end Accounts

/-! ## What executing leaves in an interpreter -/

theorem Store.holds_body {store : Store} {name : Text} {line : Line}
    (h : line ∈ store.body name) : store.functions.Holds line := by
  unfold body at h
  split at h
  · cases h
  · rename_i routine hroutine
    exact ⟨routine, Table.mem_values_of_get? hroutine, h⟩

namespace Session

/-- From `s` to `t` interpreter `id` kept its functions and reported some diagnostics. -/
structure Notes (s t : Session) (id : Nat) (ds : List Diagnostic) : Prop where
  size : t.interpreters.size = s.interpreters.size
  functions : (t.interpreter id).store.functions = (s.interpreter id).store.functions
  report : (t.interpreter id).report.diagnostics.toList =
    (s.interpreter id).report.diagnostics.toList ++ ds

namespace Notes

variable {s t u : Session} {id : Nat} {ds others : List Diagnostic}

theorem trans (h : Notes s t id ds) (h' : Notes t u id others) : Notes s u id (ds ++ others) where
  size := h'.size.trans h.size
  functions := h'.functions.trans h.functions
  report := by rw [h'.report, h.report, List.append_assoc]

theorem of_interpreters (h : t.interpreters = s.interpreters) : Notes s t id [] := by
  have hi : t.interpreter id = s.interpreter id := by simp only [interpreter, h]
  exact ⟨by rw [h], by rw [hi], by simp [hi]⟩

theorem of_content (h : t.content = s.content) : Notes s t id [] := by
  have hi := interpreter_content_congr h id
  simp only [Interpreter.content, Prod.mk.injEq] at hi
  obtain ⟨-, hstore, hreport⟩ := hi
  exact ⟨size_content_congr h, by rw [hstore], by simp [hreport]⟩

theorem act (hid : id < s.interpreters.size) (frame : Frame) (line : Line) (action : Action) :
    Notes s (s.act id frame line action) id [] := by
  have hi : (s.act id frame line action).interpreter id =
      { s.interpreter id with store := (s.interpreter id).store.after action } :=
    interpreter_modifyInterpreter_self hid _
  refine ⟨size_modifyInterpreter _ _ _, ?_, ?_⟩
  · rw [hi]
    exact Store.functions_after _ action
  · simp [hi]

theorem of_refused {d : Diagnostic} (hid : id < s.interpreters.size) (h : Refused s t id d) :
    Notes s t id [d] := by
  have hi := h.interpreter_eq hid
  exact ⟨h.size_eq, by rw [hi], by simp [hi, Report.add]⟩

end Notes

end Session

namespace Exec

open Session

variable {disk : Disk} {say : Text → Exec Unit} {visit : Nat → Frame → Prop} {id n : Nat}
  {frame : Frame} {line : Line} {ls : List Line} {s t : Session} {functions : Table Routine}

/-- Printing returns and leaves the interpreters alone. -/
def Plain (say : Text → Exec Unit) : Prop :=
  ∀ text s, ∃ t, say text s = (.ok (), t) ∧ t.interpreters = s.interpreters

theorem plain_say (disk : Disk) : Plain (Exec.say disk 0) :=
  fun text s => ⟨_, rfl, interpreters_tell s (.output text)⟩

theorem writing_ok {m : Int} {operation : Exec Unit} (h : writing m operation s = (.ok (), t)) :
    operation s = (.ok (), t) := by
  unfold writing at h
  split at h
  · exact h
  · cases h

theorem report_notes {d : Diagnostic} (hid : id < s.interpreters.size)
    (h : report id d s = (.ok (), t)) : Notes s t id [d] := by
  obtain ⟨u, hu, hrefused⟩ := report_refused id d s
  obtain ⟨-, rfl⟩ := Prod.mk.inj (hu.symm.trans h)
  exact .of_refused hid hrefused

theorem announce_notes (hsay : Plain say) (hid : id < s.interpreters.size) {action : Action}
    (h : announce say id line action s = (.ok (), t)) :
    Notes s t id (action.report? line).toList := by
  have htold : ∀ notice, tell notice s = (.ok (), t) → Notes s t id [] := by
    intro notice htell
    rw [← (Prod.mk.inj htell).2]
    exact .of_interpreters (interpreters_tell s notice)
  have hsame : (pure () : Exec Unit) s = (.ok (), t) → Notes s t id [] := by
    intro hpure
    exact .of_interpreters (congrArg (·.interpreters) (Prod.mk.inj hpure).2.symm)
  cases action with
  | print text =>
      obtain ⟨u, hu, hi⟩ := hsay text s
      obtain ⟨-, rfl⟩ := Prod.mk.inj (hu.symm.trans h)
      exact .of_interpreters hi
  | clearOutput => exact htold _ h
  | clearDebug => exact htold _ h
  | update text => exact htold _ h
  | define definition name value size => exact htold _ h
  | setBudget ceiling => exact htold _ h
  | free name size =>
      have hfreed : debug (.freed name size) s = (.ok (), t) := writing_ok h
      exact htold _ hfreed
  | refuse problem => exact report_notes hid h
  | overBudget name size budget =>
      obtain ⟨_, u, hlog, hwriting⟩ := bind_ok h
      have hlogged : Notes s u id [] :=
        .of_interpreters (congrArg (·.interpreters) (Prod.mk.inj hlog).2.symm)
      have hover := writing_ok hwriting
      exact hlogged.trans (report_notes (by rw [hlogged.size]; exact hid) hover)
  | fail fault => cases h
  | skip => exact hsame h
  | call name arguments => exact hsame h
  | external path => exact hsame h

theorem openCall_notes {name : Text} {arguments : List Text} {opening : Opening}
    (h : openCall id name arguments frame s = (.ok opening, t)) :
    Notes s t id [] ∧ opening.interpreter = id ∧ opening.script = none ∧
      opening.lines = (s.interpreter id).store.body name := by
  unfold openCall at h
  simp only [bind_apply, interpreter] at h
  split at h
  · cases h
    exact ⟨.of_interpreters rfl, rfl, rfl, rfl⟩
  · cases h
    exact ⟨.of_interpreters rfl, rfl, rfl, rfl⟩

/-- A statement that runs no external script adds its diagnostic. An activation that it opens
executes the body of a function. -/
theorem step_notes (hsay : Plain say) (hid : id < s.interpreters.size)
    (hlocal : (Statement.ofLine line).command ≠ .external) {opened : Option Opening}
    (h : step disk say id frame line s = (.ok opened, t)) :
    Notes s t id ((s.actionOf id frame line).report? (Statement.citedLine line)).toList ∧
      ∀ opening, opened = some opening → opening.interpreter = id ∧ opening.script = none ∧
        ∀ other ∈ opening.lines, (s.interpreter id).store.functions.Holds other := by
  generalize hu : (s.traced id line).act id frame line (s.actionOf id frame line) = u
  have hacted : Notes s u id [] := by
    have htraced : Notes s (s.traced id line) id [] :=
      .of_interpreters (interpreters_traced s id line)
    rw [← hu]
    exact htraced.trans (.act (by rw [htraced.size]; exact hid) frame line _)
  have hid' : id < u.interpreters.size := by
    rw [hacted.size]
    exact hid
  rw [step_apply, hu] at h
  cases haction : s.actionOf id frame line with
  | call name arguments =>
      rw [haction] at h
      obtain ⟨opening, v, hv, hpure⟩ := bind_ok h
      cases hpure
      obtain ⟨hnotes, hi, hscript, hlines⟩ := openCall_notes hv
      refine ⟨hacted.trans hnotes, ?_⟩
      intro opening hopening
      cases hopening
      refine ⟨hi, hscript, ?_⟩
      intro other hother
      rw [hlines] at hother
      rw [← hacted.functions]
      exact Store.holds_body hother
  | external path => exact absurd (Action.of_eq_external_iff.1 haction).1 hlocal
  | _ =>
      rw [haction] at h
      simp only [perform] at h
      obtain ⟨_, v, hv, hpure⟩ := bind_ok h
      cases hpure
      exact ⟨hacted.trans (announce_notes hsay hid' hv), by simp⟩

/-- What an execution reports is accounted for by its lines and by the functions. -/
theorem Executes.accounts {out : Except Fault Unit × Session} (hsay : Plain say)
    (h : Executes disk say visit n id frame ls s out) (hok : out.1 = .ok ())
    (hid : id < s.interpreters.size) (hfunctions : (s.interpreter id).store.functions = functions)
    (hlines : ∀ line, line ∈ ls ∨ functions.Holds line →
      (Statement.ofLine line).command ≠ .external ∧ (Statement.ofLine line).words ≠ []) :
    ∃ ds, Notes s out.2 id ds ∧ Accounts functions ls ds := by
  induction h with
  | done => exact ⟨[], .of_interpreters rfl, .nil⟩
  | @plain n id frame line ls s t out hstep _ ih =>
      obtain ⟨hlocal, hwords⟩ := hlines line (.inl List.mem_cons_self)
      obtain ⟨hnotes, -⟩ := step_notes hsay hid hlocal hstep
      obtain ⟨ds, hrest, haccounts⟩ := ih hok (by rw [hnotes.size]; exact hid)
        (hnotes.functions.trans hfunctions)
        fun other hother => hlines other (hother.imp_left (List.mem_cons_of_mem _))
      exact ⟨_, hnotes.trans hrest, (Accounts.statement s id frame hwords).append haccounts⟩
  | fault => cases hok
  | @nested n id frame line ls s t u v out opening result hstep _ _ hend _ ihbody ihrest =>
      obtain ⟨hlocal, hwords⟩ := hlines line (.inl List.mem_cons_self)
      obtain ⟨hnotes, hopened⟩ := step_notes hsay hid hlocal hstep
      obtain ⟨hi, hscript, hheld⟩ := hopened opening rfl
      subst hi
      -- the body of a call ends as its activation does
      simp only [complete, hscript, Prod.mk.injEq] at hend
      obtain ⟨rfl, rfl⟩ := hend
      have hentered : Notes t (t.enter opening.interpreter opening.frame) opening.interpreter [] :=
        .of_content (content_enter _ _ _)
      have hbefore := hnotes.trans hentered
      obtain ⟨ds, hbody, haccounts⟩ := ihbody rfl (by rw [hbefore.size]; exact hid)
        (hbefore.functions.trans hfunctions)
        fun other hother =>
          hlines other (hother.elim (fun h => .inr (hfunctions ▸ hheld other h)) .inr)
      have hleft : Notes u (u.leave opening.interpreter (t.interpreter opening.interpreter).depth)
          opening.interpreter [] := .of_content (content_leave _ _ _)
      have hcalled := (hbefore.trans hbody).trans hleft
      obtain ⟨others, hrest, haccounts'⟩ := ihrest hok (by rw [hcalled.size]; exact hid)
        (hcalled.functions.trans hfunctions)
        fun other hother => hlines other (hother.imp_left (List.mem_cons_of_mem _))
      refine ⟨_, hcalled.trans hrest, ?_⟩
      have hown : Accounts functions [line] _ :=
        .statement s opening.interpreter frame hwords
      have hbodies := haccounts.absorb fun other hother => hfunctions ▸ hheld other hother
      exact (((hown.append .nil).append hbodies).append .nil).append haccounts'
  | broken => cases hok

variable {source : Text} {base : Path} {file : Option Text}

theorem prepare_takes (hid : id < s.interpreters.size) (source : Text) (base : Path)
    (file : Option Text) :
    let outline := Outline.ofLines (Line.scan source file)
    ∃ script t, prepare id source base file s = (.ok script, t) ∧
      script.statements = outline.statements.toList ∧
      script.first = (s.interpreter id).report.diagnostics.size ∧
      t.interpreters.size = s.interpreters.size ∧
      ((s.interpreter id).store.functions = {} →
        (t.interpreter id).store.functions = outline.functions) ∧
      (t.interpreter id).report.diagnostics.toList =
        (s.interpreter id).report.diagnostics.toList ++ outline.problems.toList := by
  intro outline
  obtain ⟨t, htaken, hi⟩ :=
    takeSegments_apply hid base (Segment.ofLines (Line.scan source file))
  obtain ⟨windows, t', htaken', hc⟩ :=
    calm_takeSegments id base (Segment.ofLines (Line.scan source file)) s
  obtain ⟨-, rfl⟩ := Prod.mk.inj (htaken.symm.trans htaken')
  obtain ⟨-, hfunctions, hreport⟩ :=
    (s.interpreter id).foldl_taking (Segment.ofLines (Line.scan source file))
  rw [← hi] at hfunctions hreport
  have hsize : t.interpreters.size = s.interpreters.size := size_congr (books_law.changes hc)
  -- the log line, the banner and the beginning of the run touch neither functions nor report
  have hlast : ∀ channel text, Notes t
      (((t.record (.logged channel text)).tell (.debug .banner)).beginRun id) id [] := by
    intro channel text
    have htold : Notes t ((t.record (.logged channel text)).tell (.debug .banner)) id [] :=
      .of_interpreters (interpreters_tell _ _)
    exact htold.trans (.of_content (content_modifyInterpreter _ _ fun _ => rfl))
  unfold prepare
  simp only [bind_apply, interpreter, htaken]
  refine ⟨_, _, rfl, (Outline.statements_ofLines _).symm, rfl, ?_, ?_, ?_⟩
  · exact (hlast _ _).size.trans hsize
  · intro hfresh
    refine (hlast _ _).functions.trans (hfunctions.trans ?_)
    rw [hfresh, Outline.functions_ofLines]
  · refine (hlast _ _).report.trans ?_
    rw [hreport, List.append_nil, Outline.problems_ofLines]

end Exec

theorem Command.eq_of_ofWord_external {word : Text} (h : Command.ofWord word = .external) :
    word = "@EXTERNAL" := by
  unfold ofWord at h
  split at h
  · rename_i entry hfound
    have hword : entry.1 = word := by simpa using List.find?_some hfound
    have hmem := List.mem_of_find?_eq_some hfound
    simp only [words, List.mem_cons, List.not_mem_nil, or_false] at hmem
    rcases hmem with rfl | rfl | rfl | rfl | rfl | rfl | rfl | rfl | rfl | rfl | rfl | rfl <;>
      simp_all
  · cases h

theorem Statement.command_ne_external {source : Text} {file : Option Text} {line : Line}
    (hmem : line ∈ Line.scan source file)
    (h : (Text.wordsOf line.text).head? ≠ some ("@EXTERNAL" : Text)) :
    (Statement.ofLine line).command ≠ .external := by
  intro hc
  apply h
  rw [← (Line.words_of_scan hmem).1]
  unfold ofLine at hc ⊢
  simp only at hc ⊢
  split at hc
  · cases hc
  · rename_i word rest hwords
    rw [hwords, Command.eq_of_ofWord_external hc]
    rfl

theorem CommandLine.diagnostics_of_check {disk : Disk} {verbose json : Bool} {path : Text}
    {ls : List Line} (hlines : scriptLines disk (.ofText path) = .ok ls)
    (h : (check disk verbose path json).result = .ok 0) :
    (Outline.ofLines ls).check.diagnostics.toList = [] := by
  apply Outline.diagnostics_eq_nil_of_check
  cases herrors : (Outline.ofLines ls).check.hasErrors with
  | false => rfl
  | true =>
      unfold check at h
      simp only [hlines, herrors, if_true] at h
      cases json <;> simp [Outcome.exit] at h

open Exec Session in
/-- What a run in a fresh interpreter reports: the problems of blocks, and then what the statements
account for. -/
theorem run_accounts {s t : Session} {disk : Disk} {id : Nat} {config : Config} {source : Text}
    {base : Path} {file : Option Text} {result : RunResult}
    (hfresh : s.interpreters[id]? = some { config }) (hplain : s.reactions = [])
    (hlocal : ∀ line ∈ Line.scan source file,
      (Text.wordsOf line.text).head? ≠ some ("@EXTERNAL" : Text))
    (hrun : s.run disk id source base file = (.ok result, t)) :
    let outline := Outline.ofLines (Line.scan source file)
    ∃ ds, result.diagnostics = outline.problems.toList ++ ds ∧
      Accounts outline.functions outline.statements.toList ds := by
  intro outline
  have hi : s.interpreter id = { config } := by simp [Session.interpreter, hfresh]
  have hid : id < s.interpreters.size := (Array.getElem?_eq_some_iff.1 hfresh).1
  have hsay : Plain (Exec.say disk s.reactions.length) := by
    rw [hplain]
    exact plain_say disk
  have hruns : Runs disk (Exec.say disk s.reactions.length)
      (AtDepth (s.interpreter id).config.depthLimit) id source base file s
      (s.run disk id source base file) :=
    runs_run (within_say disk books_law _) hid (by rw [hi]) source base file
  obtain ⟨script, u, hp, hstatements, hfirst, hsize, hfunctions, hreport⟩ :=
    prepare_takes hid source base file
  generalize hout : s.run disk id source base file = out at hruns
  cases hruns with
  | @intro script' u' ended v hp' _ body =>
      obtain ⟨hscript, rfl⟩ := Prod.mk.inj (hp.symm.trans hp')
      cases hscript
      rw [hrun, runWith_outcome hp] at hout
      cases ended with
      | error fault => cases hout
      | ok a =>
          obtain ⟨hresult, -⟩ := Prod.mk.inj hout
          have hentered : Notes u (u.enter id script.frame) id [] :=
            .of_content (content_enter _ _ _)
          have hline : ∀ line, line ∈ script.statements ∨ outline.functions.Holds line →
              line ∈ Line.scan source file := by
            intro line hline
            apply Outline.mem_of_mem_commandLines
            rw [Outline.mem_commandLines, ← hstatements]
            exact hline
          obtain ⟨ds, hnotes, haccounts⟩ := body.accounts hsay rfl
            (by rw [hentered.size, hsize]; exact hid)
            (hentered.functions.trans (hfunctions (by rw [hi])))
            (fun line hknown => ⟨Statement.command_ne_external (hline line hknown)
              (hlocal line (hline line hknown)), by
                rw [(Line.words_of_scan (hline line hknown)).1]
                exact (Line.words_of_scan (hline line hknown)).2⟩)
          have hended : Notes v ((v.leave id (u.interpreter id).depth).endRun id) id [] :=
            .of_content ((content_endRun _ _).trans (content_leave _ _ _))
          refine ⟨ds, ?_, hstatements ▸ haccounts⟩
          have hall := ((hentered.trans hnotes).trans hended).report
          cases hresult
          simp only [Prepared.result, hfirst, hi]
          rw [hall, hreport, hi]
          simp [outline]

open Exec in
/-- A check predicts the run of the same text in a fresh interpreter, if no line asks for an
external script and the run returns. Both find the same problems of blocks, in the same order. Every
unknown command that the run reports is in the check. One that the check finds on a statement
outside functions is reported exactly once. The check lists problems of blocks and then unknown
commands, both in strictly increasing order of lines. If it exits with zero, the run reports
neither. -/
theorem check_predicts_run (s : Session) (disk : Disk) (id : Nat) (config : Config)
    (source : Text) (base : Path) (file : Option Text) (result : RunResult) (t : Session)
    (hfresh : s.interpreters[id]? = some { config }) (hplain : s.reactions = [])
    (hlocal : ∀ line ∈ Line.scan source file,
      (Text.wordsOf line.text).head? ≠ some ("@EXTERNAL" : Text))
    (hrun : s.run disk id source base file = (.ok result, t)) :
    let outline := Outline.ofLines (Line.scan source file)
    let found := outline.check.diagnostics.toList
    result.diagnostics.filter (·.isStructural) = found.filter (·.isStructural) ∧
    (∀ d ∈ result.diagnostics, d.code = "E201" → d ∈ found) ∧
    (∀ d ∈ found, d.code = "E201" →
      (∃ line ∈ outline.statements.toList, line.location = d.location) →
      result.diagnostics.count d = 1) ∧
    (∃ blocks commands, found = blocks ++ commands ∧ (∀ d ∈ blocks, d.isStructural = true) ∧
      (∀ d ∈ commands, d.code = "E201") ∧
      (blocks.Pairwise fun a b => a.location.Before b.location) ∧
      commands.Pairwise fun a b => a.location.Before b.location) ∧
    ∀ other verbose path json,
      CommandLine.scriptLines other (.ofText path) = .ok (Line.scan source file) →
      (CommandLine.check other verbose path json).result = .ok 0 →
      ∀ d ∈ result.diagnostics, d.isStructural = false ∧ d.code ≠ "E201" := by
  intro outline found
  have hn := Line.numbered_scan source file
  obtain ⟨ds, hreported, haccounts⟩ := run_accounts hfresh hplain hlocal hrun
  have hfound : found = outline.problems.toList ++ outline.commandLines.filterMap
    Outline.unknown? :=
    Outline.diagnostics_check outline
  have hblocks : ∀ d ∈ outline.problems.toList, d.isStructural = true := fun d hd =>
    Outline.isStructural_of_mem_problems hd
  have hcommands : ∀ d ∈ outline.commandLines.filterMap Outline.unknown?, d.code = "E201" := by
    intro d hd
    obtain ⟨line, -, hline⟩ := List.mem_filterMap.1 hd
    exact (Outline.unknown?_eq_some hline).1
  have hcode : ∀ d : Diagnostic, d.code = "E201" → d.isStructural = false := by
    intro d hd
    simp [Diagnostic.isStructural, hd]
  have hstructural : result.diagnostics.filter (·.isStructural) =
      found.filter (·.isStructural) := by
    rw [hreported, hfound, List.filter_append, List.filter_append]
    congr 1
    rw [List.filter_eq_nil_iff.2 fun d hd => by simp [haccounts.structural d hd],
      List.filter_eq_nil_iff.2 fun d hd => by simp [hcode d (hcommands d hd)]]
  have hsound : ∀ d ∈ result.diagnostics, d.code = "E201" → d ∈ found := by
    intro d hd hunknown
    rw [hreported] at hd
    rw [hfound]
    rcases List.mem_append.1 hd with hd | hd
    · exact List.mem_append_left _ hd
    · obtain ⟨line, hline, hfoundAt⟩ := haccounts.sound d hd hunknown
      have hmem := Outline.mem_commandLines.2 hline
      exact List.mem_append_right _ (List.mem_filterMap.2 ⟨line, hmem, hfoundAt⟩)
  refine ⟨hstructural, hsound, ?_, ?_, ?_⟩
  · rintro d hd hunknown ⟨line, hline, hlocation⟩
    have hproblems : d ∉ outline.problems.toList := Outline.not_mem_problems hunknown
    have hd : d ∈ outline.commandLines.filterMap Outline.unknown? := by
      rw [hfound] at hd
      exact (List.mem_append.1 hd).resolve_left hproblems
    rw [hreported, List.count_append, List.count_eq_zero.2 hproblems,
      haccounts.count_eq_one hn hd hline hlocation]
  · exact ⟨_, _, hfound, hblocks, hcommands, Outline.before_problems hn, Outline.before_unknown hn⟩
  · intro other verbose path json hlines hexit d hd
    have hnone : found = [] := CommandLine.diagnostics_of_check hlines hexit
    constructor
    · cases hd' : d.isStructural with
      | false => rfl
      | true =>
          have hmem : d ∈ result.diagnostics.filter (·.isStructural) :=
            List.mem_filter.2 ⟨hd, hd'⟩
          rw [hstructural, hnone] at hmem
          cases hmem
    · intro hunknown
      have hmem := hsound d hd hunknown
      rw [hnone] at hmem
      cases hmem

/-- Two unknown statements, a function with an unknown command that is called twice, and a header
without a name. -/
theorem check_predicts_repeated_call :
    let s : Session := { interpreters := #[{}] }
    let source := "foo\nfunction f \x7b\nbar\n\x7d\ncall f\ncall f\nfunction\nfoo"
    let found := (Outline.ofLines (Line.scan source none)).check.diagnostics.toList
    ∃ result t, s.run Disk.blank 0 source {} none = (.ok result, t) ∧
      s.interpreters[0]? = some { config := {} } ∧ s.reactions = [] ∧
      (∀ line ∈ Line.scan source none, (Text.wordsOf line.text).head? ≠ some ("@EXTERNAL" : Text)) ∧
      result.diagnostics.filter (·.isStructural) = found.filter (·.isStructural) ∧
      (∀ d ∈ result.diagnostics, d.code = "E201" → d ∈ found) ∧
      result.diagnostics.map (fun d => (d.code, d.location.line)) =
        [("E101", some 7), ("E201", some 1), ("E201", some 3), ("E201", some 3),
          ("E201", some 8)] := by
  intro s source
  have hlocal : ∀ line ∈ Line.scan source none,
      (Text.wordsOf line.text).head? ≠ some ("@EXTERNAL" : Text) := by decide +kernel
  have hreported : (match s.run Disk.blank 0 source {} none with
      | (.ok result, _) => result.diagnostics.map fun d => (d.code, d.location.line)
      | (.error _, _) => []) =
        [("E101", some 7), ("E201", some 1), ("E201", some 3), ("E201", some 3),
          ("E201", some 8)] := by decide +kernel
  cases hrun : s.run Disk.blank 0 source {} none with
  | mk ended t =>
      rw [hrun] at hreported
      cases ended with
      | error fault => cases hreported
      | ok result =>
          obtain ⟨hstructural, hsound, -⟩ :=
            check_predicts_run s Disk.blank 0 {} source {} none result t rfl rfl hlocal hrun
          exact ⟨result, t, rfl, rfl, rfl, hlocal, hstructural, hsound, hreported⟩

end LineScript
