import LineScript.Proofs.Session.Effect
import LineScript.Proofs.Session.Form

/-! # Malformed definitions and calls

The form of a definition or a call is looked for all over the line, and what comes after it counts
for nothing. So a line is malformed only if no part of it has the form. The main result says so, and
that a malformed line does nothing but report.
-/

namespace LineScript

namespace Command

/-- The text starts with the form of the statements of a command. -/
def Form (cs : List CodePoint) : Command → Prop
  | string => ∃ name value, Action.StringForm cs name value
  | value => ∃ name payload, Action.ValueForm cs name payload
  | call => ∃ name rest, Action.CallForm cs name rest
  | _ => False

def malformed? : Command → Option Problem
  | string => some .malformedString
  | value => some .malformedValue
  | call => some .malformedCall
  | _ => none

end Command

namespace Action

variable {config : Config} {frame : Frame} {store : Store} {line : Line}

theorem ofDefining_eq_refuse {statement : Statement} {problem : Problem} :
    ofDefining config store statement problem = .refuse problem ↔ definition? statement = none := by
  unfold ofDefining
  split
  · rename_i hnone
    simp [hnone]
  · rename_i definition name value hsome
    have hne : ofDefinition config store definition name value ≠ .refuse problem := by
      unfold ofDefinition
      simp only
      repeat' split
      all_goals simp
    simp [hne, hsome]

theorem ofCall_eq_refuse {statement : Statement} :
    ofCall config frame statement = .refuse .malformedCall ↔
      Text.search callForm? statement.text.toList = none := by
  unfold ofCall
  split
  · rename_i hnone
    simp [hnone]
  · rename_i name inside hsome
    rw [hsome]
    unfold nested
    split <;> simp

/-- A definition or a call is malformed exactly if no part of its line has the form. -/
theorem of_eq_refuse_iff_form {problem : Problem}
    (h : (Statement.ofLine line).command.malformed? = some problem) :
    of config frame store (.ofLine line) = .refuse problem ↔
      ∀ place, place <:+ (straightQuotes (Statement.ofLine line).text).toList →
        ¬ (Statement.ofLine line).command.Form place := by
  cases hc : (Statement.ofLine line).command with
  | string =>
      obtain rfl : Problem.malformedString = problem := by simpa [hc, Command.malformed?] using h
      rw [of_command hc, ofCommand, ofDefining_eq_refuse, definition?, hc]
      simp only [Option.map_eq_none_iff]
      exact Text.search_eq_none_iff_form fun cs => by
        simp only [Prod.exists, stringDefinition?_eq_some, Command.Form]
  | value =>
      obtain rfl : Problem.malformedValue = problem := by simpa [hc, Command.malformed?] using h
      rw [of_command hc, ofCommand, ofDefining_eq_refuse, definition?, hc]
      simp only [Option.map_eq_none_iff]
      exact Text.search_eq_none_iff_form fun cs => by
        simp only [Prod.exists, valueDefinition?_eq_some, Command.Form]
  | call =>
      obtain rfl : Problem.malformedCall = problem := by simpa [hc, Command.malformed?] using h
      have hform (cs : List CodePoint) :
          (∃ found, callForm? cs = some found) ↔ ∃ name rest, CallForm cs name rest := by
        simp [callForm?_eq_some]
      rw [of_command hc, ofCommand, ofCall_eq_refuse, Text.search_eq_none_iff_form hform]
      unfold straightQuotes
      rw [Text.toList_ofList]
      constructor
      · rintro hnone place ⟨before, hplace⟩ hfits
        obtain ⟨front, back, htext, rfl, rfl⟩ := List.map_eq_append_iff.1 hplace.symm
        exact hnone back ⟨front, htext.symm⟩ (callForm_straight.1 hfits)
      · intro hnone place hplace hfits
        exact hnone _ (hplace.map straightQuote) (callForm_straight.2 hfits)
  | _ => simp [hc, Command.malformed?] at h

end Action

open Session in
/-- Whatever the session and the frame, a definition or a call is malformed exactly if no part of
its line has the form of its command. Executing it then reports one diagnostic, under the code of
the command, and does nothing else: no variable, function or budget changes, no activation is opened
and nothing is printed. -/
theorem malformed_iff_no_part_has_form (disk : Disk) (say : Text → Exec Unit)
    (runner : Exec.Runner) (s : Session) (id : Nat) (frame : Frame) (line : Line)
    {problem : Problem} {code : String}
    (h : ((Statement.ofLine line).command, problem, code) ∈
      [(.string, .malformedString, "E202"), (.value, .malformedValue, "E203"),
        (.call, .malformedCall, "E207")]) :
    let statement := Statement.ofLine line
    let text := (straightQuotes statement.text).toList
    let diagnostic := problem.on statement.line
    (s.actionOf id frame line = .refuse problem ↔
      ∀ place, place <:+ text → ¬ statement.command.Form place) ∧
    ((∀ place, place <:+ text → ¬ statement.command.Form place) →
      ∃ t, Exec.executeLine disk say runner id frame line s = (.ok (), t) ∧
        Refused s t id diagnostic ∧ diagnostic.code = code ∧ diagnostic.severity = .error) := by
  intro statement text diagnostic
  have hmalformed : statement.command.malformed? = some problem ∧ problem.code = code := by
    simp only [List.mem_cons, Prod.mk.injEq, List.not_mem_nil, or_false] at h
    rcases h with ⟨hc, rfl, rfl⟩ | ⟨hc, rfl, rfl⟩ | ⟨hc, rfl, rfl⟩
    all_goals exact ⟨by rw [hc]; rfl, rfl⟩
  have hiff : s.actionOf id frame line = .refuse problem ↔
      ∀ place, place <:+ text → ¬ statement.command.Form place :=
    Action.of_eq_refuse_iff_form hmalformed.1
  refine ⟨hiff, fun hnone => ?_⟩
  obtain ⟨t, hstep, hrefused⟩ := Exec.step_refused disk say (hiff.2 hnone)
  have hknown : statement.command ≠ .unknown := by
    intro hunknown
    rw [hunknown] at hmalformed
    cases hmalformed.1
  rw [Statement.citedLine_eq hknown] at hrefused
  refine ⟨t, Exec.executeLine_of_opened_none runner hstep, hrefused, hmalformed.2, ?_⟩
  simp only [List.mem_cons, Prod.mk.injEq, List.not_mem_nil, or_false] at h
  rcases h with ⟨-, rfl, -⟩ | ⟨-, rfl, -⟩ | ⟨-, rfl, -⟩ <;> rfl

/-- A definition without a name. -/
theorem malformed_iff_no_part_has_form_of_nameless :
    let line : Line := { text := "string = \"a\"" }
    let frame : Frame := { base := {} }
    let s : Session := { interpreters := #[{}] }
    s.actionOf 0 frame line = .refuse .malformedString ∧
      ∃ t, Exec.executeLine Disk.blank (Exec.say Disk.blank 0) (fun _ _ _ => pure ()) 0 frame line
          s = (.ok (), t) ∧
        Session.Refused s t 0 (Problem.malformedString.on (Statement.ofLine line).line) := by
  intro line frame s
  have haction : s.actionOf 0 frame line = .refuse .malformedString := by decide +kernel
  have hcommand : (Statement.ofLine line).command = .string := by decide +kernel
  obtain ⟨hiff, hrun⟩ := malformed_iff_no_part_has_form Disk.blank (Exec.say Disk.blank 0)
    (fun _ _ _ => pure ()) s 0 frame line (by rw [hcommand]; exact List.mem_cons_self)
  obtain ⟨t, ht, hrefused, -⟩ := hrun (hiff.1 haction)
  exact ⟨haction, t, ht, hrefused⟩

/-- A line that starts with a definition without a name still defines a variable if a definition
comes later on it. -/
theorem definition_after_nameless_one :
    let line : Line := { text := "string = \"a\" string x = \"b\"" }
    let s : Session := { interpreters := #[{}] }
    (Statement.ofLine line).command = .string ∧
      ¬ Command.string.Form (straightQuotes (Statement.ofLine line).text).toList ∧
      s.actionOf 0 { base := {} } line = .define .string "x" "b" 17 := by
  intro line s
  refine ⟨by decide +kernel, ?_, by decide +kernel⟩
  rintro ⟨name, value, hform⟩
  have hnone : Action.stringDefinition? (straightQuotes (Statement.ofLine line).text).toList =
      none := by decide +kernel
  rw [Action.stringDefinition?_eq_some.2 hform] at hnone
  cases hnone

end LineScript
