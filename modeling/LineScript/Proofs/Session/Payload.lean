import LineScript.Proofs.Session.Effect

/-! # The payload of a value definition

A value definition takes what is written after its equals sign to its end, with straight quotes, and
drops blanks, a semicolon and double quotes at the ends of it. The main result tells what becomes of
every text that can be written there, and when this is the text without its blanks, its semicolon
and its quotes. It is not when blanks stand before the semicolon, because trimming comes first, and
not when nothing but a lone double quote is left, which is taken for both quotes at once.
-/

namespace LineScript

namespace Action

/-- What is left of a payload after trimming and without one semicolon at its end. -/
def payloadCore (cs : List CodePoint) : List CodePoint :=
  Text.dropLastIf ';' (Text.trim cs)

/-- One pair of double quotes around a text of two characters at least is dropped. -/
def unquoted (cs : List CodePoint) : List CodePoint :=
  if 2 ≤ cs.length ∧ cs.head? = some (.char '"') ∧ cs.getLast? = some (.char '"') then
    (cs.drop 1).dropLast
  else cs

/-- The payload without the blanks at its ends, one semicolon and the blanks before it, and one pair
of double quotes. -/
def barePayload (cs : List CodePoint) : List CodePoint :=
  unquoted (Text.trimRight (payloadCore cs))

def EndsBlank (cs : List CodePoint) : Prop :=
  ∃ c ∈ cs.getLast?, Text.isBlank c = true

instance (cs : List CodePoint) : Decidable (EndsBlank cs) :=
  decidable_of_iff (cs.getLast?.any Text.isBlank = true) (by simp [EndsBlank, Option.any_eq_true])

variable {cs : List CodePoint}

theorem length_unquoted_le (cs : List CodePoint) : (unquoted cs).length ≤ cs.length := by
  unfold unquoted
  split
  · rw [List.length_dropLast, List.length_drop]
    omega
  · exact le_rfl

/-- Texts without a blank at the end are left alone, and all others get shorter. -/
theorem trimRight_eq_self_iff : Text.trimRight cs = cs ↔ ¬ EndsBlank cs := by
  constructor
  · rintro h ⟨c, hc, hblank⟩
    obtain ⟨front, rfl⟩ := List.getLast?_eq_some_iff.1 (Option.mem_def.1 hc)
    have hlength := congrArg List.length h
    rw [Text.trimRight_append_of_blank (by simpa using hblank)] at hlength
    obtain ⟨right, hparts, -⟩ := Text.trimRight_parts front
    have hfront := congrArg List.length hparts
    rw [List.length_append] at hlength hfront
    simp only [List.length_singleton] at hlength
    omega
  · intro h
    cases cs with
    | nil => rfl
    | cons c cs =>
        have hlast : ∀ d ∈ (c :: cs).getLast?, Text.isBlank d = false := by
          intro d hd
          rw [← Bool.not_eq_true]
          exact fun hblank => h ⟨d, hd, hblank⟩
        have hkept := Text.trimRight_append (by simp) hlast []
        rwa [List.append_nil, show Text.trimRight [] = [] from rfl, List.append_nil] at hkept

theorem length_trimRight_lt (h : EndsBlank cs) : (Text.trimRight cs).length < cs.length := by
  obtain ⟨right, hparts, -⟩ := Text.trimRight_parts cs
  have hlength := congrArg List.length hparts
  rw [List.length_append] at hlength
  have hne : right ≠ [] := by
    rintro rfl
    rw [List.append_nil] at hparts
    exact trimRight_eq_self_iff.1 hparts.symm h
  have hpos := List.length_pos_iff.2 hne
  omega

theorem payload_eq (cs : List CodePoint) :
    payload cs =
      if (payloadCore cs).head? = some (.char '"') &&
          (payloadCore cs).getLast? = some (.char '"') then
        ((payloadCore cs).drop 1).dropLast
      else payloadCore cs :=
  rfl

theorem payload_of_endsBlank (h : EndsBlank (payloadCore cs)) : payload cs = payloadCore cs := by
  obtain ⟨c, hc, hblank⟩ := h
  have hlast : (payloadCore cs).getLast? ≠ some (.char '"') := by
    rw [Option.mem_def.1 hc]
    rintro heq
    cases heq
    cases hblank
  rw [payload_eq, if_neg (by simp [hlast])]

theorem payload_of_lone_quote (h : payloadCore cs = [.char '"']) : payload cs = [] := by
  rw [payload_eq, h]
  rfl

theorem payload_of_other (h : payloadCore cs ≠ [.char '"']) : payload cs = unquoted
    (payloadCore cs) := by
  rw [payload_eq]
  generalize payloadCore cs = core at h
  unfold unquoted
  cases core with
  | nil => rfl
  | cons c core =>
      cases core with
      | nil =>
          have hc : c ≠ '"' := fun heq => h (heq ▸ rfl)
          simp [hc]
      | cons d core => simp

/-- The quotes come off as they should unless a blank is in the way or the quotes are one. -/
theorem payload_eq_barePayload_iff :
    payload cs = barePayload cs ↔ payloadCore cs ≠ [.char '"'] ∧ ¬ EndsBlank (payloadCore cs) := by
  constructor
  · intro h
    constructor
    · intro hlone
      rw [payload_of_lone_quote hlone, barePayload, hlone] at h
      cases h
    · intro hblank
      have hlength := congrArg List.length h
      rw [payload_of_endsBlank hblank, barePayload] at hlength
      have hle := length_unquoted_le (Text.trimRight (payloadCore cs))
      have hlt := length_trimRight_lt hblank
      omega
  · rintro ⟨hlone, hblank⟩
    rw [payload_of_other hlone, barePayload, trimRight_eq_self_iff.2 hblank]

theorem ofDefinition_unmeasured {config : Config} {store : Store} {definition : Definition}
    {name value : List CodePoint} {error : SizeError}
    (h : valueSize config.valueOverhead config.codec (Text.ofList value) = .error error) :
    ∃ fault, ofDefinition config store definition name value = .fail fault := by
  simp only [ofDefinition, h]
  cases error with
  | encodingName error => exact ⟨_, rfl⟩
  | unencodable error => exact ⟨_, rfl⟩

end Action

/-! ## Statements that define a value -/

namespace Session

open Exec

variable {disk : Disk} {id : Nat} {frame : Frame} {line : Line} {s t : Session}

theorem executeLines_define (disk : Disk) {definition : Definition} {name value : Text}
    {size : Int} (hbudget : (s.interpreter id).store.budget = none)
    (h : (s.enter id frame).actionOf id frame line = .define definition name value size) :
    (s.executeLines disk id frame [line]).1 = .ok () ∧
      (s.executeLines disk id frame [line]).2.holdings = s.holdings.modify id fun held =>
        ((s.interpreter id).store.setVariable name value size, held.2) := by
  have hstore : ((s.enter id frame).interpreter id).store = (s.interpreter id).store :=
    store_holdings_congr (holdings_enter s id frame) id
  have hstep : step disk (Exec.say disk s.reactions.length) id frame line (s.enter id frame) =
      (.ok none, (((s.enter id frame).traced id line).act id frame line
        (.define definition name value size)).tell (.debug (.defined definition name value))) := by
    rw [step_apply, h]
    rfl
  rw [executeLines_of_step hstep (by simp)]
  refine ⟨rfl, ?_⟩
  rw [holdings_leave, holdings_tell, holdings, interpreters_acted, interpreters_traced,
    interpreter_traced, hstore, Store.after, Store.allocate?_of_none hbudget, Option.getD_some,
    ← holdings_enter s id frame]
  exact map_modify _ id Interpreter.holdings _
    (fun held => ((s.interpreter id).store.setVariable name value size, held.2)) fun _ => rfl

theorem executeLines_fail (disk : Disk) {fault : Fault}
    (h : (s.enter id frame).actionOf id frame line = .fail fault) :
    (s.executeLines disk id frame [line]).1 = .error fault ∧
      (s.executeLines disk id frame [line]).2.holdings = s.holdings := by
  have hstep : step disk (Exec.say disk s.reactions.length) id frame line (s.enter id frame) =
      (.error fault, ((s.enter id frame).traced id line).act id frame line (.fail fault)) := by
    rw [step_apply, h]
    rfl
  rw [executeLines_of_step hstep (by simp)]
  refine ⟨rfl, ?_⟩
  rw [holdings_leave, holdings, interpreters_act fun _ => rfl, interpreters_traced]
  exact holdings_enter s id frame

end Session

/-- What a value definition does without a budget: the value is stored with its size, or cannot be
measured and the statement breaks off. The value is the payload without blanks, semicolon and quotes
exactly if what trimming and the semicolon leave is more than a lone double quote and does not end
with a blank. A lone quote becomes the empty text, and a blank at the end is stored together with
all that stands before it, quotes included. -/
theorem value_definition_stores_payload (s : Session) (disk : Disk) (id : Nat) (frame : Frame)
    (line : Line) (name written : Text) (hname : Text.IsName name.toList)
    (hunbroken : ∀ c ∈ written.toList, Text.isLineBreak c = false)
    (hbudget : (s.interpreter id).store.budget = none)
    (hline : line.text = "@VAL " ++ name ++ " = " ++ written) :
    let config := (s.interpreter id).config
    let straight := written.toList.map straightQuote
    let core := Action.payloadCore straight
    let value := Text.ofList (Action.payload straight)
    let out := s.executeLines disk id frame [line]
    (∀ size, valueSize config.valueOverhead config.codec value = .ok size →
      out.1 = .ok () ∧
        out.2.holdings = s.holdings.modify id fun held =>
          ((s.interpreter id).store.setVariable name value size, held.2)) ∧
    (∀ error, valueSize config.valueOverhead config.codec value = .error error →
      (∃ fault, out.1 = .error fault) ∧ out.2.holdings = s.holdings) ∧
    (value = Text.ofList (Action.barePayload straight) ↔
      core ≠ [.char '"'] ∧ ¬ Action.EndsBlank core) ∧
    (core = [.char '"'] → value = "") ∧
    (Action.EndsBlank core → value = Text.ofList core) := by
  intro config straight core value out
  have hnewline : .char '\n' ∉ written.toList := fun hmem => by cases hunbroken _ hmem
  have hentered := Session.interpreter_content_congr (Session.content_enter s id frame) id
  simp only [Interpreter.content, Prod.mk.injEq] at hentered
  have haction : (s.enter id frame).actionOf id frame line =
      Action.ofDefinition config (s.interpreter id).store .value name.toList
        (Action.payload straight) := by
    unfold Session.actionOf
    rw [hentered.1, hentered.2.1]
    exact Action.of_definition (Action.definition?_payload hname hnewline (by rw [hline]; simp))
  refine ⟨fun size hsize => ?_, fun error herror => ?_, ?_, ?_, ?_⟩
  · rw [Action.ofDefinition_fits hsize (by simp [hbudget]), Text.ofList_toList] at haction
    exact Session.executeLines_define disk hbudget haction
  · obtain ⟨fault, hfault⟩ := Action.ofDefinition_unmeasured herror
    obtain ⟨hbroken, hkept⟩ := Session.executeLines_fail disk (haction.trans hfault)
    exact ⟨⟨fault, hbroken⟩, hkept⟩
  · rw [← Action.payload_eq_barePayload_iff, Text.ofList.injEq]
  · intro hlone
    exact congrArg Text.ofList (Action.payload_of_lone_quote hlone)
  · intro hblank
    exact congrArg Text.ofList (Action.payload_of_endsBlank hblank)

/-- Curly quotes and a semicolon right after them come off. -/
theorem value_definition_stores_payload_of_curly :
    let s : Session := { interpreters := #[{}] }
    let line : Line := { text := "@VAL n = “v”; " }
    let out := s.executeLines Disk.blank 0 { base := {} } [line]
    (s.interpreter 0).store.budget = none ∧ out.1 = .ok () ∧
      out.2.holdings = s.holdings.modify 0 fun held =>
        ((s.interpreter 0).store.setVariable "n" "v" 17, held.2) := by
  intro s line out
  obtain ⟨hstored, -⟩ := value_definition_stores_payload s Disk.blank 0 { base := {} } line "n"
    "“v”; " (by decide +kernel) (by decide) rfl (by decide)
  obtain ⟨hok, hheld⟩ := hstored 17 (by decide +kernel)
  have hvalue : Text.ofList (Action.payload ((Text.toList "“v”; ").map straightQuote)) = "v" := by
    decide +kernel
  rw [hvalue] at hheld
  exact ⟨rfl, hok, hheld⟩

/-- Blanks before the semicolon keep the quotes, and a lone quote is dropped. -/
theorem quotes_kept_before_blank_and_lone_quote_dropped :
    let s : Session := { interpreters := #[{}] }
    let stored := fun text =>
      ((s.executeLines Disk.blank 0 { base := {} } [{ text }]).2.interpreter 0).store.value? "n"
    (stored "@VAL n = \"v\" ;" = some ("\"v\" " : Text) ∧
      Action.barePayload (Text.toList "\"v\" ;") = Text.toList "v") ∧
    (stored "@VAL n = \"" = some ("" : Text) ∧ Action.barePayload (Text.toList "\"") =
      Text.toList "\"") := by
  decide +kernel

end LineScript
