import LineScript.Proofs.Session.Nesting
import LineScript.Proofs.Session.Inlining
import LineScript.Proofs.Session.Malformed

/-! # Statements with other quotes

Definitions and calls read curly quotes and primes as straight ones: definitions before their form
is looked for, calls only in the arguments that they have found. Either way a statement does the
same thing with straight quotes in the place of its own. What it leaves behind is the same too,
apart from lines on the debug channel and the source line that a diagnostic cites.
-/

namespace LineScript

def Line.straight (line : Line) : Line :=
  { line with text := straightQuotes line.text }

/-- The words of the commands that read quotes of any style. -/
def quotingWords : List Text :=
  ["string", "@VAL", "call"]

/-! ## What the statement does -/

namespace Statement

theorem text_straight (line : Line) :
    (ofLine line.straight).text = straightQuotes (ofLine line).text :=
  Text.trimmed_straightQuotes line.text

theorem words_straight (line : Line) :
    (ofLine line.straight).words = (ofLine line).words.map straightQuotes := by
  simp only [ofLine, Line.straight, Text.trimmed_straightQuotes, Text.wordsOf_straightQuotes]

theorem command_of_words {line : Line} {word : Text} {more : List Text}
    (h : (ofLine line).words = word :: more) : (ofLine line).command = .ofWord word := by
  simp only [ofLine] at h ⊢
  rw [h]

/-- A statement whose first word is among the quoting ones has it with straight quotes too. -/
theorem command_straight {line : Line} (h : (ofLine line).commandWord ∈ quotingWords) :
    (ofLine line.straight).command = (ofLine line).command ∧
      (ofLine line).command ∈ [.string, .value, .call] := by
  cases hwords : (ofLine line).words with
  | nil =>
      rw [commandWord, hwords] at h
      exact absurd h (by decide)
  | cons word more =>
      rw [commandWord, hwords, List.headD_cons] at h
      have hplain : ∀ word ∈ quotingWords, straightQuotes word = word ∧
          Command.ofWord word ∈ [.string, .value, .call] := by decide
      have hstraight := words_straight line
      rw [hwords, List.map_cons, (hplain word h).1] at hstraight
      rw [command_of_words hstraight, command_of_words hwords]
      exact ⟨rfl, (hplain word h).2⟩

end Statement

namespace Action

theorem bracketed?_straight (cs : List CodePoint) :
    bracketed? (cs.map straightQuote) = (bracketed? cs).map (List.map straightQuote) := by
  have hline : ∀ c, decide (straightQuote c ≠ '\n') = decide (c ≠ '\n') := by
    intro c
    rw [decide_eq_decide, ne_eq, ne_eq, straightQuote_eq_iff (by decide)]
  unfold bracketed?
  rw [Text.after?_straight (by decide)]
  cases Text.after? [.char '['] cs with
  | none => rfl
  | some rest =>
      simp only [Option.map_some, Option.bind_eq_bind, Option.bind_some]
      rw [Text.takeWhile_map_of_kind hline, Text.beforeLast?_straight (by decide)]

theorem callForm?_straight (cs : List CodePoint) :
    callForm? (cs.map straightQuote) =
      (callForm? cs).map fun found => (found.1, found.2.map (List.map straightQuote)) := by
  unfold callForm?
  rw [Text.afterAnyCase?_straight (by decide)]
  cases Text.afterAnyCase? (Text.toList "call") cs with
  | none => rfl
  | some rest =>
      simp only [Option.map_some, Option.bind_eq_bind, Option.bind_some]
      rw [Text.afterBlanks?_straight]
      cases Text.afterBlanks? rest with
      | none => rfl
      | some rest =>
          simp only [Option.map_some, Option.bind_some]
          rw [Text.name?_straight]
          cases Text.name? rest with
          | none => rfl
          | some found =>
              simp only [Option.map_some, Option.bind_some, Option.pure_def, bracketed?_straight]

theorem callArguments_straight (inside : Option (List CodePoint)) :
    callArguments ((inside.map (List.map straightQuote)).map Text.ofList) =
      callArguments (inside.map Text.ofList) := by
  cases inside with
  | none => rfl
  | some inside =>
      have hinside : Text.ofList (inside.map straightQuote) =
          straightQuotes (Text.ofList inside) := by
        rw [straightQuotes, Text.toList_ofList]
      simp only [Option.map_some, callArguments, hinside, Text.isBlankText_straightQuotes,
        straightQuotes_straightQuotes]

variable {config : Config} {frame : Frame} {store : Store} {line : Line}

theorem definition?_straight (h : (Statement.ofLine line).commandWord ∈ quotingWords) :
    definition? (.ofLine line.straight) = definition? (.ofLine line) := by
  simp only [definition?, (Statement.command_straight h).1, Statement.text_straight,
    straightQuotes_straightQuotes]

theorem ofCall_straight (line : Line) :
    ofCall config frame (.ofLine line.straight) = ofCall config frame (.ofLine line) := by
  unfold ofCall
  rw [Statement.text_straight, toList_straightQuotes, Text.search_map callForm?_straight]
  cases Text.search callForm? (Statement.ofLine line).text.toList with
  | none => rfl
  | some found => simp only [Option.map_some, callArguments_straight]

/-- A definition or a call does the same thing with straight quotes. -/
theorem of_straight (h : (Statement.ofLine line).commandWord ∈ quotingWords) :
    of config frame store (.ofLine line.straight) = of config frame store (.ofLine line) := by
  obtain ⟨hcommand, hkind⟩ := Statement.command_straight h
  simp only [List.mem_cons, List.not_mem_nil, or_false] at hkind
  rcases hkind with hc | hc | hc
  all_goals
    rw [of_command hc, of_command (hcommand.trans hc)]
    simp only [ofCommand, ofDefining, definition?_straight h, ofCall_straight]

end Action

/-! ## What it leaves behind -/

namespace Session

/-- Both sessions hold the same variables, budgets and functions and the same codes of diagnostics,
and their hosts show the same and were told the same apart from the debug channel. -/
structure SameEffect (s t : Session) : Prop where
  stores : ∀ id, (t.interpreter id).store = (s.interpreter id).store
  codes : ∀ id, (t.interpreter id).report.codes = (s.interpreter id).report.codes
  shown : t.host.map Host.front = s.host.map Host.front
  notices : t.notices.filter (!·.isDebug) = s.notices.filter (!·.isDebug)

variable {s t : Session}

theorem SameEffect.of_outcome (h : t.outcome = s.outcome) : SameEffect s t where
  stores := store_outcome_congr h
  codes := codes_outcome_congr h
  shown := congrArg (·.shown) h
  notices := congrArg (·.notices) h

theorem SameEffect.congr {s' t' : Session} (hs : s'.outcome = s.outcome)
    (ht : t'.outcome = t.outcome) (h : SameEffect s t) : SameEffect s' t' where
  stores id := by rw [store_outcome_congr ht, store_outcome_congr hs, h.stores]
  codes id := by rw [codes_outcome_congr ht, codes_outcome_congr hs, h.codes]
  shown := (congrArg (·.shown) ht).trans (h.shown.trans (congrArg (·.shown) hs).symm)
  notices := (congrArg (·.notices) ht).trans (h.notices.trans (congrArg (·.notices) hs).symm)

theorem SameEffect.left (h : SameEffect s t) (id : Nat) (depth : Int) :
    SameEffect (s.leave id depth) (t.leave id depth) :=
  h.congr (outcome_eq_of_content (content_leave s id depth))
    (outcome_eq_of_content (content_leave t id depth))

/-- The same problem is reported, whatever line is cited for it. -/
theorem SameEffect.refused (h : t.outcome = s.outcome) (id : Nat) (problem : Problem)
    (line line' : Line) :
    SameEffect (Exec.report id (problem.on line) s).2 (Exec.report id (problem.on line') t).2 := by
  have hsame := (outcome_report id (rfl : (problem.on line).unplaced = _) h).symm
  refine SameEffect.congr (hsame.trans (outcome_reported id (problem.on line) t))
    (outcome_reported id (problem.on line') t) ?_
  refine ⟨fun other => ?_, fun other => ?_, rfl, rfl⟩
  · rw [interpreter_modifyInterpreter, interpreter_modifyInterpreter]
    split
    · rfl
    · rfl
  · rw [interpreter_modifyInterpreter, interpreter_modifyInterpreter]
    split
    · simp [Report.codes, Report.add, Problem.on]
    · rfl

end Session

namespace Exec

open Session

variable {disk : Disk} {id : Nat} {frame : Frame} {line : Line} {s t : Session}

/-- Only diagnostics cite the line of a statement. -/
theorem perform_unreported (disk : Disk) (say : Text → Exec Unit) (id : Nat) (frame : Frame)
    {line : Line} {action : Action} (h : action.report? line = none) (other : Line) :
    perform disk say id frame other action = perform disk say id frame line action := by
  cases action with
  | refuse problem => cases h
  | overBudget name size budget => cases h
  | _ => simp only [perform, announce]

/-- A problem is reported on both sides, or the number in its text cannot be written on either. -/
theorem match_announce_reported (say : Text → Exec Unit) (id : Nat) {line : Line}
    {action : Action} {d : Diagnostic} (hd : action.report? line = some d) (line' : Line)
    (h : t.outcome = s.outcome) :
    Match SameEffect Eq (announce say id line action s) (announce say id line' action t) := by
  cases action with
  | refuse problem => exact .ok rfl (.refused h id problem line line')
  | overBudget name size budget =>
      have hlogged : ∀ text, (t.record (.logged .memory text)).outcome =
          (s.record (.logged .memory text)).outcome := fun _ => outcome_record rfl rfl h
      simp only [announce, bind_apply, log, record, modify, writing]
      by_cases hwritable : Text.isWritable size = true
      · rw [if_pos hwritable, if_pos hwritable]
        exact .ok rfl (.refused (hlogged _) id _ line line')
      · rw [if_neg hwritable, if_neg hwritable]
        exact .error (.of_outcome (hlogged _))
  | _ => cases hd

theorem perform_reported (disk : Disk) (say : Text → Exec Unit) (id : Nat) (frame : Frame)
    {line : Line} {action : Action} {d : Diagnostic} (hd : action.report? line = some d)
    (other : Line) :
    perform disk say id frame other action =
      (announce say id other action >>= fun _ => pure none) := by
  cases action with
  | refuse problem => rfl
  | overBudget name size budget => simp only [perform]
  | _ => cases hd

theorem outcome_traced_act (h : t.outcome = s.outcome) (id : Nat) (frame : Frame)
    (line line' : Line) (action : Action) :
    ((t.traced id line').act id frame line' action).outcome =
      ((s.traced id line).act id frame line action).outcome := by
  apply outcome_store id (·.after action)
  apply outcome_record rfl rfl
  rw [outcome_traced, outcome_traced, h]

/-- Lines that do the same thing are executed to the same effect. -/
theorem match_executeLine_of_action (disk : Disk) {line line' : Line} (levels : Nat)
    (haction : s.actionOf id frame line' = s.actionOf id frame line) :
    Match SameEffect Eq
      (executeLine disk (Exec.say disk 0) (lines disk (Exec.say disk 0) levels) id frame line s)
      (executeLine disk (Exec.say disk 0) (lines disk (Exec.say disk 0) levels) id frame line'
        s) := by
  have hsay := matches_say outcome_coupling disk
  have hbalanced := within_say disk books_law 0
  have hacted := outcome_traced_act (rfl : s.outcome = s.outcome) id frame line line'
    (s.actionOf id frame line)
  cases hreport : (s.actionOf id frame line).report? (Statement.citedLine line) with
  | none =>
      have hstep : Match (fun s t => t.outcome = s.outcome)
          (Option.Rel (Opening.Alike fun line line' => line'.text = line.text))
          (step disk (Exec.say disk 0) id frame line s)
          (step disk (Exec.say disk 0) id frame line' s) := by
        rw [step_apply, step_apply, haction,
          perform_unreported disk _ id frame hreport (Statement.citedLine line')]
        refine match_perform outcome_coupling hsay hacted ?_ (rfl : frame.base = frame.base)
          (outcome_coupling.kin_refl (Statement.citedLine line)) _
        apply activeInterpreter_congr
        rw [books_act, books_act, books_traced, books_traced]
      exact (match_executeLine_of_step outcome_coupling hsay hbalanced
        (runsCoupled_lines outcome_coupling hsay hbalanced levels) rfl hstep).mono
          fun _ _ => SameEffect.of_outcome
  | some d =>
      have hstep : Match SameEffect (fun opened opened' => opened = none ∧ opened' = none)
          (step disk (Exec.say disk 0) id frame line s)
          (step disk (Exec.say disk 0) id frame line' s) := by
        rw [step_apply, step_apply, haction,
          perform_reported disk _ id frame hreport (Statement.citedLine line),
          perform_reported disk _ id frame hreport (Statement.citedLine line')]
        refine (match_announce_reported _ id hreport _ hacted).bind ?_
        intro _ _ s' t' _ _ _ hsame
        exact .ok ⟨rfl, rfl⟩ hsame
      refine hstep.bind ?_
      rintro _ _ s' t' _ _ ⟨rfl, rfl⟩ hsame
      exact .ok rfl hsame

end Exec

/-- The style of quotes does not matter to definitions and calls. Making quotes straight, one kind
after the other, is a single map of characters, given by the table of quotes; it may be repeated,
keeps lengths and goes through concatenation. A statement that defines a variable or calls a
function comes to the same with straight quotes: it returns or breaks off with the same fault, with
the same variables, sizes, budgets and functions, the same codes of diagnostics in order, and the
same output and windows. -/
theorem quote_style_irrelevant (s : Session) (disk : Disk) (id : Nat) (frame : Frame) (line : Line)
    (hplain : s.reactions = []) (hword : (Statement.ofLine line).commandWord ∈ quotingWords) :
    let original := s.executeLines disk id frame [line]
    let straight := s.executeLines disk id frame [line.straight]
    (∀ text : Text,
      (straightQuotes text).toList =
          quoteVariants.foldl (fun cs variant => replaced variant cs) text.toList ∧
        (straightQuotes text).toList =
          text.toList.map (fun c => (quoteVariants.lookup c).getD c) ∧
        straightQuotes (straightQuotes text) = straightQuotes text ∧
        (straightQuotes text).length = text.length ∧
        ∀ more, straightQuotes (text ++ more) = straightQuotes text ++ straightQuotes more) ∧
    straight.1 = original.1 ∧ original.2.SameEffect straight.2 := by
  intro original straight
  refine ⟨fun text => ⟨toList_straightQuotes_eq_foldl text, toList_straightQuotes_eq_lookup text,
    straightQuotes_straightQuotes text, length_straightQuotes text,
    straightQuotes_append text⟩, ?_⟩
  have haction : (s.enter id frame).actionOf id frame line.straight =
      (s.enter id frame).actionOf id frame line := Action.of_straight hword
  have hmatch := Exec.match_executeLine_of_action disk
    (2 * (s.interpreter id).config.depthLimit.toNat + (-frame.depth).toNat) haction
  have hread := Session.executeLines_singleton s disk id frame
  simp only [hplain, List.length_nil] at hread
  simp only [original, straight, hread]
  exact ⟨hmatch.result_eq, hmatch.sessions.left id _⟩

/-- A call whose arguments stand in curly quotes. -/
theorem quote_style_irrelevant_of_call :
    let routine : Routine :=
      { name := "f", body := [.ofStatement "print @ARGUMENTS.STRING"], location := {} }
    let s : Session :=
      { host := some { surface := .buffer {} }
        interpreters := #[{ store := ({} : Store).addFunction routine }] }
    let frame : Frame := { base := {} }
    let line : Line := .ofStatement "call f[“it’s”, ‘b″]"
    (s.reactions = [] ∧ (Statement.ofLine line).commandWord ∈ quotingWords ∧
      line.straight.text = "call f[\"it's\", 'b\"]") ∧
    (s.executeLines Disk.blank 0 frame [line]).2.SameEffect
      (s.executeLines Disk.blank 0 frame [line.straight]).2 := by
  intro routine s frame line
  have hword : (Statement.ofLine line).commandWord ∈ quotingWords := by decide +kernel
  exact ⟨⟨rfl, hword, by decide +kernel⟩,
    (quote_style_irrelevant s Disk.blank 0 frame line rfl hword).2.2⟩

end LineScript
