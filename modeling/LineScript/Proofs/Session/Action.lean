import LineScript.Session.Action

/-! # What actions rest on

`Action.of` decides what a statement does. `Founded` lists what each action rests on: a definition
on a measured value that the budget takes, a release on a variable that there is, a nested
activation on a depth below the limit.
-/

namespace LineScript

/-- A statement that asks for a nested activation: a call, or the run of an external script, in its
written form. -/
inductive Statement.Nests (statement : Statement) : Prop
  | call {name : List CodePoint} {inside : Option (List CodePoint)} (hc : statement.command = .call)
      (hform : Text.search Action.callForm? statement.text.toList = some (name, inside))
  | external {word path : Text} (hc : statement.command = .external)
      (hform : statement.words = [word, "RUN", path])

/-- What an action of a statement rests on. -/
inductive Action.Founded (config : Config) (frame : Frame) (store : Store)
    (statement : Statement) : Action → Prop
  | skip : Founded config frame store statement .skip
  | print (text : Text) : Founded config frame store statement (.print text)
  | clearOutput : Founded config frame store statement .clearOutput
  | clearDebug : Founded config frame store statement .clearDebug
  | update (text : Text) : Founded config frame store statement (.update text)
  | define {definition : Definition} {name value : List CodePoint} {size : Int} {store' : Store}
      (hd : definition? statement = some (definition, name, value))
      (hsize : valueSize config.valueOverhead config.codec (Text.ofList value) = .ok size)
      (hstore : store.allocate? size = some store') :
      Founded config frame store statement
        (.define definition (Text.ofList name) (Text.ofList value) size)
  | overBudget {definition : Definition} {name value : List CodePoint} {size : Int}
      {budget : Budget}
      (hd : definition? statement = some (definition, name, value))
      (hsize : valueSize config.valueOverhead config.codec (Text.ofList value) = .ok size)
      (hbudget : store.budget = some budget) (hover : budget.ceiling < budget.used + size) :
      Founded config frame store statement (.overBudget (Text.ofList name) size budget)
  | setBudget (ceiling : Nat) : Founded config frame store statement (.setBudget ceiling)
  | free {name value : Text} (hfound : store.value? name = some value) :
      Founded config frame store statement (.free name ((store.size? name).getD 0))
  | call (name : Text) (arguments : List Text) (hnests : statement.Nests)
      (hdepth : frame.depth < config.depthLimit) :
      Founded config frame store statement (.call name arguments)
  | external (path : Text) (hnests : statement.Nests)
      (hdepth : frame.depth < config.depthLimit) :
      Founded config frame store statement (.external path)
  | refuse (problem : Problem) : Founded config frame store statement (.refuse problem)
  | fail {fault : Fault} (hroom : fault ≠ .stackExhausted) :
      Founded config frame store statement (.fail fault)

namespace Action

variable {config : Config} {frame : Frame} {store : Store} {statement : Statement}

theorem ofClear_ne {action other : Action} (h : action ≠ other) (hskip : .skip ≠ other) :
    ofClear statement action ≠ other := by
  unfold ofClear
  split
  · exact h
  · exact hskip

theorem founded_ofPrint : Founded config frame store statement (ofPrint frame store statement) := by
  unfold ofPrint
  repeat' split
  all_goals constructor

theorem founded_ofDefinition {definition : Definition} {name value : List CodePoint}
    (hd : definition? statement = some (definition, name, value)) :
    Founded config frame store statement (ofDefinition config store definition name value) := by
  simp only [ofDefinition]
  split
  · exact .fail Fault.noConfusion
  · exact .fail Fault.noConfusion
  · rename_i size hsize
    split
    · rename_i hbudget
      exact .define hd hsize (Store.allocate?_of_none hbudget size)
    · rename_i budget hbudget
      split
      · rename_i hfit
        exact .overBudget hd hsize hbudget (Budget.allocate?_eq_none.1 hfit)
      · rename_i hfit
        exact .define hd hsize (Store.allocate?_of_some hbudget hfit)

theorem founded_ofDefining (problem : Problem) :
    Founded config frame store statement (ofDefining config store statement problem) := by
  unfold ofDefining
  split
  · exact .refuse problem
  · rename_i hd
    exact founded_ofDefinition hd

theorem founded_ofMaxMemory : Founded config frame store statement (ofMaxMemory statement) := by
  unfold ofMaxMemory
  split
  · exact .refuse _
  · split
    · exact .refuse _
    · split
      · exact .setBudget _
      · exact .fail Fault.noConfusion

theorem founded_ofFree : Founded config frame store statement (ofFree store statement) := by
  unfold ofFree
  split
  · simp only
    split
    · rename_i hfound
      exact .free hfound
    · exact .refuse _
  · exact .refuse _

theorem founded_nested {action : Action}
    (h : frame.depth < config.depthLimit → Founded config frame store statement action) :
    Founded config frame store statement (nested config frame action) := by
  unfold nested
  split
  · exact .refuse _
  · exact h (by omega)

theorem externalWord?_eq_some {word : Text} :
    externalWord? statement = some word ↔
      ∃ first : Text, statement.words = [first, "RUN", word] := by
  unfold externalWord?
  constructor
  · intro h
    split at h
    · rename_i first verb other hwords
      split at h
      · rename_i hverb
        cases h
        exact ⟨first, hverb ▸ hwords⟩
      · cases h
    · cases h
  · rintro ⟨first, hwords⟩
    rw [hwords]
    rfl

theorem founded_ofExternal (hc : statement.command = .external) :
    Founded config frame store statement (ofExternal config frame statement) := by
  unfold ofExternal
  split
  · exact .refuse _
  · rename_i hword
    obtain ⟨first, hform⟩ := externalWord?_eq_some.1 hword
    exact founded_nested fun hdepth => .external _ (.external hc hform) hdepth

theorem founded_ofCall (hc : statement.command = .call) :
    Founded config frame store statement (ofCall config frame statement) := by
  unfold ofCall
  split
  · exact .refuse _
  · rename_i hform
    exact founded_nested fun hdepth => .call _ _ (.call hc hform) hdepth

theorem founded_ofUpdate : Founded config frame store statement (ofUpdate statement) := by
  unfold ofUpdate
  repeat' split
  all_goals constructor

theorem founded_ofClear {action : Action}
    (h : Founded config frame store statement action) :
    Founded config frame store statement (ofClear statement action) := by
  unfold ofClear
  split
  · exact h
  · exact .skip

theorem founded_of (config : Config) (frame : Frame) (store : Store) (statement : Statement) :
    Founded config frame store statement (of config frame store statement) := by
  unfold of
  split
  · exact .skip
  · cases hc : statement.command with
    | print => exact founded_ofPrint
    | string => exact founded_ofDefining _
    | value => exact founded_ofDefining _
    | maxMemory => exact founded_ofMaxMemory
    | free => exact founded_ofFree
    | output => exact founded_ofClear .clearOutput
    | debug => exact founded_ofClear .clearDebug
    | external => exact founded_ofExternal hc
    | call => exact founded_ofCall hc
    | updateWindow => exact founded_ofUpdate
    | unknown => exact .refuse _
    | _ => exact .skip

theorem of_command {line : Line} {command : Command}
    (hc : (Statement.ofLine line).command = command) (hknown : command ≠ .unknown := by decide) :
    of config frame store (.ofLine line) =
      ofCommand config frame store (.ofLine line) command := by
  have hwords : (Statement.ofLine line).words ≠ [] := Statement.words_ne_nil (hc ▸ hknown)
  rw [of, if_neg hwords, hc]

/-! ## Definitions -/

theorem command_ne_unknown {definition : Definition} {name value : List CodePoint}
    (h : definition? statement = some (definition, name, value)) :
    statement.command ≠ .unknown := by
  intro hc
  simp [definition?, hc] at h

theorem of_definition {line : Line} {definition : Definition} {name value : List CodePoint}
    (h : definition? (.ofLine line) = some (definition, name, value)) :
    of config frame store (.ofLine line) = ofDefinition config store definition name value := by
  have hdefining : ∀ problem, ofDefining config store (.ofLine line) problem =
      ofDefinition config store definition name value := by
    intro problem
    rw [ofDefining, h]
  cases hc : (Statement.ofLine line).command with
  | string => exact (of_command hc).trans (hdefining _)
  | value => exact (of_command hc).trans (hdefining _)
  | _ => simp [definition?, hc] at h

theorem ofDefinition_over {definition : Definition} {name value : List CodePoint} {size : Int}
    {budget : Budget}
    (hsize : valueSize config.valueOverhead config.codec (Text.ofList value) = .ok size)
    (hbudget : store.budget = some budget) (hover : budget.ceiling < budget.used + size) :
    ofDefinition config store definition name value =
      .overBudget (Text.ofList name) size budget := by
  simp [ofDefinition, hsize, hbudget, Budget.allocate?_eq_none.2 hover]

theorem ofDefinition_fits {definition : Definition} {name value : List CodePoint} {size : Int}
    (hsize : valueSize config.valueOverhead config.codec (Text.ofList value) = .ok size)
    (hfits : ∀ budget, store.budget = some budget → budget.used + size ≤ budget.ceiling) :
    ofDefinition config store definition name value =
      .define definition (Text.ofList name) (Text.ofList value) size := by
  cases hbudget : store.budget with
  | none => simp [ofDefinition, hsize, hbudget]
  | some budget =>
      have hcharged := Budget.allocate?_eq_some.2 ⟨hfits budget hbudget, rfl⟩
      simp [ofDefinition, hsize, hbudget, hcharged]

/-! ## Nested activations -/

theorem of_eq_call {name : Text} {arguments : List Text}
    (h : of config frame store statement = .call name arguments) :
    statement.Nests ∧ frame.depth < config.depthLimit := by
  have hfounded := founded_of config frame store statement
  rw [h] at hfounded
  cases hfounded with
  | call _ _ hnests hdepth => exact ⟨hnests, hdepth⟩

theorem of_eq_external {path : Text}
    (h : of config frame store statement = .external path) :
    statement.Nests ∧ frame.depth < config.depthLimit := by
  have hfounded := founded_of config frame store statement
  rw [h] at hfounded
  cases hfounded with
  | external _ hnests hdepth => exact ⟨hnests, hdepth⟩

/-- At the depth limit a nested activation is refused, whatever the store holds. -/
theorem of_nests_at_limit {line : Line} (hnests : (Statement.ofLine line).Nests)
    (hdepth : config.depthLimit ≤ frame.depth) :
    of config frame store (.ofLine line) = .refuse (.depthExceeded config.depthLimit) := by
  cases hnests with
  | call hc hform => simp [of_command hc, ofCommand, ofCall, hform, nested, hdepth]
  | external hc hform =>
      simp [of_command hc, ofCommand, ofExternal, externalWord?_eq_some.2 ⟨_, hform⟩,
        nested, hdepth]

theorem of_eq_external_iff {line : Line} {path : Text} :
    of config frame store (.ofLine line) = .external path ↔
      (Statement.ofLine line).command = .external ∧ frame.depth < config.depthLimit ∧
        ∃ first word : Text, (Statement.ofLine line).words = [first, "RUN", word] ∧
          path = Text.ofList (word.toList.filter (· ≠ CodePoint.char '"')) := by
  constructor
  · intro ha
    have hfounded := founded_of config frame store (.ofLine line)
    rw [ha] at hfounded
    cases hfounded with
    | external _ hnests hdepth =>
        cases hnests with
        | call hc hform =>
            rw [of_command hc, ofCommand, ofCall, hform] at ha
            simp only [nested, if_neg (Int.not_le.2 hdepth)] at ha
            cases ha
        | external hc hform =>
            rw [of_command hc, ofCommand, ofExternal, externalWord?_eq_some.2 ⟨_, hform⟩] at ha
            simp only [nested, if_neg (Int.not_le.2 hdepth)] at ha
            cases ha
            exact ⟨hc, hdepth, _, _, hform, rfl⟩
  · rintro ⟨hc, hdepth, first, word, hform, rfl⟩
    rw [of_command hc, ofCommand, ofExternal, externalWord?_eq_some.2 ⟨first, hform⟩]
    simp only [nested, if_neg (Int.not_le.2 hdepth)]

/-! ## What an action does not rest on -/

/-- A statement does the same thing wherever its line comes from. -/
theorem of_ofLine_congr {line line' : Line} (h : line'.text = line.text) :
    of config frame store (.ofLine line') = of config frame store (.ofLine line) := by
  have htext : (Statement.ofLine line').text = (Statement.ofLine line).text := by
    simp only [Statement.text, Statement.ofLine, h]
  have hwords : (Statement.ofLine line').words = (Statement.ofLine line).words := by
    simp only [Statement.ofLine, h]
  have hcommand : (Statement.ofLine line').command = (Statement.ofLine line).command := by
    simp only [Statement.ofLine, h]
  generalize Statement.ofLine line = statement at htext hwords hcommand
  generalize Statement.ofLine line' = statement' at htext hwords hcommand
  have hword : statement'.word? = statement.word? := by
    funext index
    simp only [Statement.word?, hwords]
  have hprint : ofPrint frame store statement' = ofPrint frame store statement := by
    simp only [ofPrint, hword, htext]
  have hdefining : ofDefining config store statement' = ofDefining config store statement := by
    funext problem
    simp only [ofDefining, definition?, hcommand, htext]
  have hclear : ofClear statement' = ofClear statement := by
    funext action
    simp only [ofClear, hword]
  have hupdate : ofUpdate statement' = ofUpdate statement := by
    simp only [ofUpdate, hword, htext]
  have hdone : ofCommand config frame store statement' =
    ofCommand config frame store statement := by
    funext command
    cases command <;>
      simp only [ofCommand, hprint, hdefining, ofMaxMemory, ofFree, hclear, ofExternal,
        externalWord?, ofCall, hupdate, htext, hwords, Statement.commandWord]
  simp only [of, hwords, hcommand, hdone]

theorem nested_congr {other : Frame}
    (h : config.depthLimit ≤ other.depth ↔ config.depthLimit ≤ frame.depth) (action : Action) :
    nested config other action = nested config frame action := by
  simp only [nested, h]

theorem nested_of_lt (h : frame.depth < config.depthLimit) (action : Action) :
    nested config frame action = action :=
  if_neg (Int.not_le.2 h)

/-- Of the settings only what values cost counts, and of a frame only the arguments. For a nested
activation it also counts whether the limit is reached, and which one it is. -/
theorem of_congr {config' : Config} {other : Frame}
    (hoverhead : config'.valueOverhead = config.valueOverhead)
    (hcodec : config'.codec = config.codec)
    (harguments : other.arguments = frame.arguments)
    (hnested : statement.Nests → ∀ action, nested config' other action =
      nested config frame action) :
    of config' other store statement = of config frame store statement := by
  have hdefining : ofDefining config' store statement = ofDefining config store statement := by
    funext problem
    simp only [ofDefining, ofDefinition, hoverhead, hcodec]
  have hexternal : statement.command = .external →
      ofExternal config' other statement = ofExternal config frame statement := by
    intro hc
    unfold ofExternal
    split
    · rfl
    · rename_i hword
      obtain ⟨first, hform⟩ := externalWord?_eq_some.1 hword
      exact hnested (.external hc hform) _
  have hcall : statement.command = .call →
      ofCall config' other statement = ofCall config frame statement := by
    intro hc
    unfold ofCall
    split
    · rfl
    · rename_i hform
      exact hnested (.call hc hform) _
  unfold of
  split
  · rfl
  · cases hc : statement.command with
    | print => simp only [ofCommand, ofPrint, harguments]
    | string => exact congrFun hdefining _
    | value => exact congrFun hdefining _
    | external => exact hexternal hc
    | call => exact hcall hc
    | _ => rfl

theorem of_frame_congr {other : Frame} (harguments : other.arguments = frame.arguments)
    (hdepth : statement.Nests →
      (config.depthLimit ≤ other.depth ↔ config.depthLimit ≤ frame.depth)) :
    of config other store statement = of config frame store statement :=
  of_congr rfl rfl harguments fun hnests => nested_congr (hdepth hnests)

end Action

theorem Statement.Nests.command_ne_unknown {statement : Statement} (h : statement.Nests) :
    statement.command ≠ .unknown := by
  cases h with
  | call hc hform => simp [hc]
  | external hc hform => simp [hc]

end LineScript
