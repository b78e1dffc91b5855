import LineScript.Proofs.Script.QuoteStyle
import LineScript.Proofs.Session.Action
import Mathlib.Data.List.TakeWhile

/-! # The forms of statements

Definitions and calls have a written form each, and their recognisers find it exactly where it
stands. From this follows what the statements do that are written in the plainest way: one space
between the parts, and nothing before or after them.
-/

namespace LineScript

namespace Action

/-! ## Written forms -/

def StringForm (cs name value : List CodePoint) : Prop :=
  ∃ gap left right rest, Text.IsGap gap ∧ Text.IsName name ∧
    (∀ c ∈ left, Text.isBlank c = true) ∧ (∀ c ∈ right, Text.isBlank c = true) ∧
    (∀ c ∈ value, c ≠ '"' ∧ c ≠ '\n') ∧
    cs = Text.toList "string" ++
      (gap ++ (name ++ (left ++ .char '=' :: (right ++ .char '"' :: (value ++ .char '"' :: rest)))))

/-- The text starts with a value definition, whose payload reaches to the end of the line. -/
def ValueForm (cs name payload : List CodePoint) : Prop :=
  ∃ gap left right rest, Text.IsGap gap ∧ Text.IsName name ∧
    (∀ c ∈ left, Text.isBlank c = true) ∧ (∀ c ∈ right, Text.isBlank c = true) ∧
    Text.Stops Text.isBlank rest ∧ payload = rest.takeWhile (· ≠ CodePoint.char '\n') ∧
    cs = Text.toList "@VAL" ++ (gap ++ (name ++ (left ++ .char '=' :: (right ++ rest))))

/-- The text starts with the keyword of calls, in either case, a gap and a name. -/
def CallForm (cs name rest : List CodePoint) : Prop :=
  ∃ keyword gap, keyword.map CodePoint.toLower = Text.toList "call" ∧ Text.IsGap gap ∧
    Text.IsName name ∧
    Text.Stops Text.isWordChar rest ∧ cs = keyword ++ (gap ++ (name ++ rest))

section

variable {cs name value payload rest : List CodePoint}

/-- Names are as long as possible in front of an equals sign. -/
theorem stops_equals {left : List CodePoint} (hleft : ∀ c ∈ left, Text.isBlank c = true)
    (rest : List CodePoint) : Text.Stops Text.isWordChar (left ++ .char '=' :: rest) := by
  cases left with
  | nil => exact .cons (by decide) _
  | cons c left =>
      refine .cons ?_ _
      rw [← Bool.not_eq_true]
      intro hc
      have hblank := hleft c List.mem_cons_self
      rw [Text.isBlank_of_isWordChar hc] at hblank
      cases hblank

theorem stringDefinition?_eq_some :
    stringDefinition? cs = some (name, value) ↔ StringForm cs name value := by
  unfold stringDefinition? StringForm
  simp only [Option.bind_eq_bind, Option.bind_eq_some_iff, Option.pure_def, Option.some.injEq,
    Prod.mk.injEq]
  constructor
  · rintro ⟨inner, hinner, more, hmore, ⟨found, after⟩, hfound, tail, htail, text, htext, rfl, rfl⟩
    obtain ⟨gap, hgap, hname, -, rfl⟩ :=
      Text.named_eq_some.1 (Option.bind_eq_some_iff.2 ⟨more, hmore, hfound⟩)
    obtain ⟨left, right, hleft, hright, -, rfl⟩ := Text.afterEquals?_eq_some.1 htail
    obtain ⟨rest, hvalue, rfl⟩ := Text.quoted?_eq_some.1 htext
    exact ⟨gap, left, right, rest, hgap, hname, hleft, hright, hvalue, Text.after?_eq_some.1 hinner⟩
  · rintro ⟨gap, left, right, rest, hgap, hname, hleft, hright, hvalue, hcs⟩
    obtain ⟨more, hmore, hfound⟩ := Option.bind_eq_some_iff.1
      (Text.named_eq_some.2 ⟨gap, hgap, hname, stops_equals hleft _, rfl⟩)
    refine ⟨_, Text.after?_eq_some.2 hcs, more, hmore, (name, _), hfound, _,
      Text.afterEquals?_eq_some.2 ⟨left, right, hleft, hright, ?_, rfl⟩, value,
      Text.quoted?_eq_some.2 ⟨rest, hvalue, rfl⟩, rfl, rfl⟩
    exact .cons (by decide) _

theorem valueDefinition?_eq_some :
    valueDefinition? cs = some (name, payload) ↔ ValueForm cs name payload := by
  unfold valueDefinition? ValueForm
  simp only [Option.bind_eq_bind, Option.bind_eq_some_iff, Option.pure_def, Option.some.injEq,
    Prod.mk.injEq]
  constructor
  · rintro ⟨inner, hinner, more, hmore, ⟨found, after⟩, hfound, tail, htail, rfl, rfl⟩
    obtain ⟨gap, hgap, hname, -, rfl⟩ :=
      Text.named_eq_some.1 (Option.bind_eq_some_iff.2 ⟨more, hmore, hfound⟩)
    obtain ⟨left, right, hleft, hright, hstops, rfl⟩ := Text.afterEquals?_eq_some.1 htail
    exact ⟨gap, left, right, tail, hgap, hname, hleft, hright, hstops, rfl,
      Text.after?_eq_some.1 hinner⟩
  · rintro ⟨gap, left, right, rest, hgap, hname, hleft, hright, hstops, rfl, hcs⟩
    obtain ⟨more, hmore, hfound⟩ := Option.bind_eq_some_iff.1
      (Text.named_eq_some.2 ⟨gap, hgap, hname, stops_equals hleft _, rfl⟩)
    exact ⟨_, Text.after?_eq_some.2 hcs, more, hmore, (name, _), hfound, rest,
      Text.afterEquals?_eq_some.2 ⟨left, right, hleft, hright, hstops, rfl⟩, rfl, rfl⟩

theorem callForm?_eq_some {inside : Option (List CodePoint)} :
    callForm? cs = some (name, inside) ↔
      ∃ rest, CallForm cs name rest ∧ inside = bracketed? rest := by
  unfold callForm? CallForm
  simp only [Option.bind_eq_bind, Option.bind_eq_some_iff, Option.pure_def, Option.some.injEq,
    Prod.mk.injEq]
  constructor
  · rintro ⟨inner, hinner, more, hmore, ⟨found, rest⟩, hfound, rfl, rfl⟩
    obtain ⟨keyword, hkeyword, rfl⟩ := Text.afterAnyCase?_eq_some.1 hinner
    obtain ⟨gap, hgap, hname, hstops, rfl⟩ :=
      Text.named_eq_some.1 (Option.bind_eq_some_iff.2 ⟨more, hmore, hfound⟩)
    exact ⟨rest, ⟨keyword, gap, hkeyword, hgap, hname, hstops, rfl⟩, rfl⟩
  · rintro ⟨rest, ⟨keyword, gap, hkeyword, hgap, hname, hstops, hcs⟩, rfl⟩
    obtain ⟨more, hmore, hfound⟩ := Option.bind_eq_some_iff.1
      (Text.named_eq_some.2 ⟨gap, hgap, hname, hstops, rfl⟩)
    exact ⟨_, Text.afterAnyCase?_eq_some.2 ⟨keyword, hkeyword, hcs⟩, more, hmore, (name, rest),
      hfound, rfl, rfl⟩

end

/-- How quotes are written does not matter to the form of calls. -/
theorem callForm_straight {cs : List CodePoint} :
    (∃ name rest, CallForm (cs.map straightQuote) name rest) ↔
      ∃ name rest, CallForm cs name rest := by
  have hblanks : ∀ mark ∈ quoteMarks, Text.isBlank mark = false := by decide
  have hletters : ∀ mark ∈ quoteMarks, (Text.toList "call").contains mark.toLower = false := by
    decide
  have hkeyword {keyword : List CodePoint}
      (h : keyword.map CodePoint.toLower = Text.toList "call") :
      ∀ c ∈ keyword, (Text.toList "call").contains c.toLower = true := by
    intro c hc
    rw [← h, List.contains_iff_mem]
    exact List.mem_map_of_mem hc
  constructor
  · rintro ⟨name, rest, keyword, gap, hcall, hgap, hname, hstops, hcs⟩
    obtain ⟨front, cs, rfl, hfront, hcs⟩ := List.map_eq_append_iff.1 hcs
    obtain ⟨middle, cs, rfl, hmiddle, hcs⟩ := List.map_eq_append_iff.1 hcs
    obtain ⟨word, tail, rfl, hword, rfl⟩ := List.map_eq_append_iff.1 hcs
    rw [map_straightQuote_eq_iff hletters (hkeyword hcall)] at hfront
    rw [map_straightQuote_eq_iff hblanks hgap.2] at hmiddle
    rw [map_straightQuote_eq_iff isWordChar_quoteMarks hname.2] at hword
    subst hfront hmiddle hword
    refine ⟨word, tail, front, middle, hcall, hgap, hname, ?_, rfl⟩
    intro c hc
    rw [← kind_straightQuote isWordChar_quoteMarks]
    exact hstops _ (by simp [Option.mem_def.1 hc])
  · rintro ⟨name, rest, keyword, gap, hcall, hgap, hname, hstops, rfl⟩
    refine ⟨name, rest.map straightQuote, keyword, gap, hcall, hgap, hname, ?_, ?_⟩
    · intro c hc
      rw [List.head?_map, Option.mem_def, Option.map_eq_some_iff] at hc
      obtain ⟨d, hd, rfl⟩ := hc
      rw [kind_straightQuote isWordChar_quoteMarks]
      exact hstops d hd
    · rw [List.map_append, List.map_append, List.map_append,
        (map_straightQuote_eq_iff hletters (hkeyword hcall)).2 rfl,
        (map_straightQuote_eq_iff hblanks hgap.2).2 rfl,
        (map_straightQuote_eq_iff isWordChar_quoteMarks hname.2).2 rfl]

end Action

/-! ## Statements as they are written -/

theorem Statement.ofLine_word {line : Line} {word rest : List CodePoint} {b : CodePoint}
    (hword : word ≠ []) (hplain : ∀ c ∈ word, Text.isBlank c = false) (hb : Text.isBlank b = true)
    (htext : line.text.toList = word ++ b :: rest)
    (hlast : ∀ c ∈ line.text.toList.getLast?, Text.isBlank c = false) :
    (ofLine line).text = line.text ∧
      (ofLine line).words = Text.ofList word :: (Text.words rest).map Text.ofList ∧
      (ofLine line).command = .ofWord (Text.ofList word) := by
  have hfirst : ∀ c ∈ line.text.toList.head?, Text.isBlank c = false := by
    rw [htext]
    cases word with
    | nil => exact absurd rfl hword
    | cons d word => simpa using hplain d List.mem_cons_self
  have htrimmed : Text.trimmed line.text = line.text := by
    rw [Text.trimmed, Text.trim_eq_self hfirst hlast, Text.ofList_toList]
  have hwords : Text.wordsOf line.text =
      Text.ofList word :: (Text.words rest).map Text.ofList := by
    rw [Text.wordsOf, htext, Text.words_append_blank hword hplain hb, List.map_cons]
  simp only [text, ofLine, htrimmed, hwords, and_self]

/-- A value definition as a statement: it ends where what is written in it is trimmed, which may be
right after the equals sign. -/
theorem Statement.ofLine_value {line : Line} {name written : List CodePoint}
    (htext : line.text.toList = Text.toList "@VAL " ++ name ++ Text.toList " = " ++ written) :
    (ofLine line).command = .value ∧
      (ofLine line).text.toList =
        Text.toList "@VAL" ++
          .char ' ' :: (name ++ Text.toList " =" ++ Text.trimRight (.char ' ' :: written)) := by
  have hsplit : line.text.toList =
      (Text.toList "@VAL " ++ name ++ [.char ' '] ++ [.char '=']) ++ .char ' ' :: written := by
    rw [htext]
    simp
  have hleft : Text.trimLeft line.text.toList = line.text.toList := by
    rw [htext]
    rfl
  have htrim : Text.trim line.text.toList =
      Text.toList "@VAL" ++
        .char ' ' :: (name ++ Text.toList " =" ++ Text.trimRight (.char ' ' :: written)) := by
    rw [Text.trim, hleft, hsplit, Text.trimRight_append (by simp)]
    · simp
    · rw [List.getLast?_concat]
      decide
  have hwords : Text.words (Text.trim line.text.toList) =
      Text.toList "@VAL" :: Text.words
        (name ++ Text.toList " =" ++ Text.trimRight (.char ' ' :: written)) := by
    rw [htrim, Text.words_append_blank (by simp) (by decide) (by decide)]
  constructor
  · simp only [ofLine, Text.wordsOf, Text.trimmed, Text.toList_ofList, hwords, List.map_cons]
    rfl
  · simp only [text, ofLine, Text.trimmed, Text.toList_ofList, htrim]

namespace Action

variable {config : Config} {frame : Frame} {store : Store} {line : Line}
  {name value rest : List CodePoint}

theorem definition?_string (hname : Text.IsName name)
    (hvalue : ∀ c ∈ value, c ≠ '"' ∧ c ≠ '\n') (hstraight : ∀ c ∈ value, straightQuote c = c)
    (hlast : value.getLast? ≠ some (.char ';'))
    (htext : line.text.toList = Text.toList "string " ++ name ++ Text.toList " = \"" ++ value ++
      [.char '"']) :
    definition? (.ofLine line) = some (.string, name, value) := by
  have hends : ∀ c ∈ line.text.toList.getLast?, Text.isBlank c = false := by
    rw [htext, List.getLast?_concat]
    decide
  have hparts : line.text.toList =
      Text.toList "string" ++ .char ' ' :: (name ++ Text.toList " = \"" ++ value ++
        [.char '"']) := by
    rw [htext]
    simp
  obtain ⟨hline, -, hcommand⟩ :=
    Statement.ofLine_word (by simp) (by decide) (by decide) hparts hends
  have hquotes : straightQuotes line.text = line.text := by
    apply straightQuotes_eq_self
    rw [htext]
    simp only [List.forall_mem_append]
    exact ⟨⟨⟨⟨by decide, hname.straight⟩, by decide⟩, hstraight⟩, by decide⟩
  have hform : StringForm line.text.toList name value := by
    refine ⟨[.char ' '], [.char ' '], [.char ' '], [], by decide, hname, by decide,
      by decide, hvalue, ?_⟩
    rw [htext]
    simp
  have hfound : Text.search stringDefinition? line.text.toList = some (name, value) :=
    Text.search_of_start (stringDefinition?_eq_some.2 hform)
  have hkept : Text.dropLastIf ';' value = value := if_neg hlast
  simp only [definition?, hcommand, hline, hquotes, hfound, Option.map_some, hkept]
  rfl

theorem payload_quoted {ending : List CodePoint} (hending : ending = [] ∨ ending = [.char ';']) :
    payload ((.char '"' :: value ++ [.char '"']) ++ ending) = value := by
  have htrim : Text.trim ((.char '"' :: value ++ [.char '"']) ++ ending) =
      (.char '"' :: value ++ [.char '"']) ++ ending := by
    apply Text.trim_eq_self
    · exact Text.Stops.cons (by decide) _
    · rcases hending with rfl | rfl
      · rw [List.append_nil, List.getLast?_concat]
        decide
      · rw [List.getLast?_concat]
        decide
  have hcore : Text.dropLastIf ';' ((.char '"' :: value ++ [.char '"']) ++ ending) =
    .char '"' :: value ++ [.char '"'] := by
    rcases hending with rfl | rfl
    · rw [List.append_nil]
      exact Text.dropLastIf_append_of_ne (by decide) _
    · exact Text.dropLastIf_append_mark ';' _
  have hlast : (CodePoint.char '"' :: value ++ [CodePoint.char '"']).getLast? = some (.char '"') :=
    List.getLast?_concat
  simp only [payload, htrim, hcore, hlast]
  simp

theorem payload_congr {cs ds : List CodePoint} (h : Text.trim cs = Text.trim ds) :
    payload cs = payload ds := by
  simp only [payload, h]

/-- A value definition holds the payload of what is written after the equals sign, with straight
quotes. -/
theorem definition?_payload {written : List CodePoint} (hname : Text.IsName name)
    (hwritten : .char '\n' ∉ written)
    (htext : line.text.toList = Text.toList "@VAL " ++ name ++ Text.toList " = " ++ written) :
    definition? (.ofLine line) = some (.value, name, payload (written.map straightQuote)) := by
  obtain ⟨hcommand, hended⟩ := Statement.ofLine_value htext
  have htail : .char '\n' ∉ Text.trimRight (.char ' ' :: written) := by
    intro hmem
    have hmem := Text.mem_of_mem_trimRight hmem
    simp only [List.mem_cons, hwritten, or_false] at hmem
    cases hmem
  generalize htailed : Text.trimRight (.char ' ' :: written) = tail at hended htail
  have hstraight : (straightQuotes (Statement.ofLine line).text).toList =
      Text.toList "@VAL" ++
        ([.char ' '] ++ (name ++ ([.char ' '] ++ .char '=' :: tail.map straightQuote))) := by
    simp only [toList_straightQuotes, hended, List.map_append, List.map_cons,
      (map_straightQuote_eq_iff isWordChar_quoteMarks hname.2).2 rfl]
    simp [straightQuote]
  have hline : .char '\n' ∉ Text.trimLeft (tail.map straightQuote) := by
    intro hmem
    have hmem := List.dropWhile_subset _ hmem
    obtain ⟨c, hc, heq⟩ := List.mem_map.1 hmem
    rw [straightQuote_eq_iff (by decide)] at heq
    exact htail (heq ▸ hc)
  obtain ⟨right, hright, hblank⟩ := Text.trimLeft_parts (tail.map straightQuote)
  have hform : ValueForm (straightQuotes (Statement.ofLine line).text).toList name
      (Text.trimLeft (tail.map straightQuote)) := by
    refine ⟨[.char ' '], [.char ' '], right, Text.trimLeft (tail.map straightQuote),
      by decide, hname,
      by decide, hblank, Text.stops_dropWhile _ _, ?_, ?_⟩
    · refine (List.takeWhile_eq_self_iff.2 fun c hc => ?_).symm
      simpa using fun heq : c = '\n' => hline (heq ▸ hc)
    · rw [hstraight, ← hright]
  have hpayload : payload (Text.trimLeft (tail.map straightQuote)) =
      payload (written.map straightQuote) := by
    apply payload_congr
    rw [Text.trim_trimLeft, ← htailed, ← Text.trimRight_straight, Text.trim_trimRight]
    have hspace : ∀ c ∈ [.char ' '], Text.isBlank c = true := by decide
    exact Text.trim_append_left hspace
  have hfound : Text.search valueDefinition? (straightQuotes (Statement.ofLine line).text).toList =
      some (name, Text.trimLeft (tail.map straightQuote)) :=
    Text.search_of_start (valueDefinition?_eq_some.2 hform)
  simp only [definition?, hcommand, hfound, Option.map_some, hpayload]

theorem definition?_value (hname : Text.IsName name) (hvalue : ∀ c ∈ value, c ≠ '\n')
    (hstraight : ∀ c ∈ value, straightQuote c = c) {ending : List CodePoint}
    (hending : ending = [] ∨ ending = [.char ';'])
    (htext : line.text.toList =
      Text.toList "@VAL " ++ name ++ Text.toList " = \"" ++ value ++ [.char '"'] ++ ending) :
    definition? (.ofLine line) = some (.value, name, value) := by
  have hwritten : .char '\n' ∉ (.char '"' :: value ++ [.char '"']) ++ ending := by
    intro hmem
    have hmem : .char '\n' ∈ value ∨ .char '\n' ∈ ending := by simpa using hmem
    rcases hmem with hmem | hmem
    · exact hvalue _ hmem rfl
    · rcases hending with rfl | rfl <;> simp at hmem
  have hmap : ((CodePoint.char '"' :: value ++ [CodePoint.char '"']) ++ ending).map straightQuote =
      (.char '"' :: value ++ [.char '"']) ++ ending := by
    have hends : ending.map straightQuote = ending := by
      rcases hending with rfl | rfl <;> rfl
    have hself : value.map straightQuote = value := by
      rw [List.map_congr_left hstraight]
      exact List.map_id' value
    rw [List.map_append, List.map_append, List.map_cons, hends, hself]
    rfl
  rw [definition?_payload hname hwritten (by rw [htext]; simp), hmap, payload_quoted hending]

/-! ### Printing -/

/-- A statement that prints, by what comes after its keyword. -/
theorem ofLine_print {argument : List CodePoint} {word : Text} {more : List Text}
    (htext : line.text.toList = Text.toList "print " ++ argument)
    (hlast : ∀ c ∈ line.text.toList.getLast?, Text.isBlank c = false)
    (hwords : (Text.words argument).map Text.ofList = word :: more) :
    (Statement.ofLine line).command = .print ∧ (Statement.ofLine line).text = line.text ∧
      (Statement.ofLine line).word? 1 = some word := by
  have hparts : line.text.toList = Text.toList "print" ++ .char ' ' :: argument := by
    rw [htext]
    simp
  obtain ⟨hline, hall, hcommand⟩ :=
    Statement.ofLine_word (by simp) (by decide) (by decide) hparts hlast
  refine ⟨hcommand, hline, ?_⟩
  rw [Statement.word?, hall, hwords]
  rfl

/-- Names have no dots, so none is taken for an argument. -/
theorem after?_arguments_name (hname : Text.IsName name) :
    Text.after? (Text.toList "@ARGUMENTS.") (.char '@' :: name) = none := by
  rw [Option.eq_none_iff_forall_ne_some]
  intro rest hrest
  have hdot : .char '.' ∈ .char '@' :: name := by
    rw [Text.after?_eq_some.1 hrest]
    exact List.mem_append_left _ (by decide)
  have hdot : .char '.' ∈ name := by simpa using hdot
  have hword : Text.isWordChar '.' = false := by decide +kernel
  rw [hname.2 '.' hdot] at hword
  cases hword

theorem of_print_variable {text : Text} (hname : Text.IsName name)
    (hvalue : store.value? (Text.ofList name) = some text)
    (htext : line.text.toList = Text.toList "print @" ++ name) :
    of config frame store (.ofLine line) = .print text := by
  have hplain : ∀ c ∈ .char '@' :: name, Text.isBlank c = false :=
    List.forall_mem_cons.2 ⟨by decide, fun c hc => Text.isBlank_of_isWordChar (hname.2 c hc)⟩
  have hends : ∀ c ∈ line.text.toList.getLast?, Text.isBlank c = false := by
    intro c hc
    rw [htext, List.getLast?_append, Option.or_of_isSome (by simpa using hname.1)] at hc
    exact hplain c (List.mem_cons_of_mem _ (List.mem_of_getLast? hc))
  have hwords : (Text.words (.char '@' :: name)).map Text.ofList =
    [Text.ofList (.char '@' :: name)] := by
    rw [Text.words_plain (by simp) hplain, List.map_singleton]
  have hparts : line.text.toList = Text.toList "print " ++ .char '@' :: name := by
    rw [htext]
    simp
  obtain ⟨hcommand, -, hword⟩ := ofLine_print hparts hends hwords
  simp only [of_command hcommand, ofCommand, ofPrint, hword, after?_arguments_name hname,
    hvalue]

theorem of_print_text {text : List CodePoint}
    (htext : line.text.toList = Text.toList "print \"" ++ text ++ [.char '"']) :
    of config frame store (.ofLine line) = .print (Text.ofList text) := by
  have hends : ∀ c ∈ line.text.toList.getLast?, Text.isBlank c = false := by
    rw [htext, List.getLast?_concat]
    decide
  obtain ⟨word, more, hwords⟩ := Text.words_cons (c := '"') (by decide) (text ++ [.char '"'])
  have hparts : line.text.toList = Text.toList "print " ++ .char '"' :: (text ++ [.char '"']) := by
    rw [htext]
    simp
  obtain ⟨hcommand, hline, hword⟩ := ofLine_print hparts hends (by rw [hwords, List.map_cons])
  have hbetween : Text.between? '"' '"' line.text.toList = some text := by
    rw [htext]
    simp [Text.between?, Text.beforeLast?_append_mark]
  have hargument : Text.after? (Text.toList "@ARGUMENTS.") (.char '"' :: word) = none := rfl
  simp only [of_command hcommand, ofCommand, ofPrint, hword, hargument, hline, hbetween]

theorem of_print_argument {first : Text} {more : List Text}
    (harguments : frame.arguments = first :: more)
    (htext : line.text.toList = Text.toList "print @ARGUMENTS.STRING") :
    of config frame store (.ofLine line) = .print first := by
  have hends : ∀ c ∈ line.text.toList.getLast?, Text.isBlank c = false := by
    rw [htext]
    decide
  have hparts : line.text.toList = Text.toList "print " ++ Text.toList "@ARGUMENTS.STRING" := by
    rw [htext]
    rfl
  have hwords : (Text.words (Text.toList "@ARGUMENTS.STRING")).map Text.ofList =
      [.ofString "@ARGUMENTS.STRING"] := by decide
  obtain ⟨hcommand, -, hword⟩ := ofLine_print hparts hends hwords
  have hargument : Text.after? (Text.toList "@ARGUMENTS.") (Text.toList "@ARGUMENTS.STRING") =
      some (Text.toList "STRING") := by decide
  simp only [of_command hcommand, ofCommand, ofPrint, hword, hargument, harguments, if_true]

/-! ### Calls -/

theorem of_written_call (hname : Text.IsName name) (hstops : Text.Stops Text.isWordChar rest)
    (hlast : ∀ c ∈ rest.getLast?, Text.isBlank c = false)
    (htext : line.text.toList = Text.toList "call " ++ name ++ rest) :
    of config frame store (.ofLine line) =
      nested config frame
        (.call (Text.ofList name) (callArguments ((bracketed? rest).map Text.ofList))) := by
  have hparts : line.text.toList = Text.toList "call" ++ .char ' ' :: (name ++ rest) := by
    rw [htext]
    simp
  have hends : ∀ c ∈ line.text.toList.getLast?, Text.isBlank c = false := by
    intro c hc
    cases rest with
    | nil =>
        rw [htext, List.append_nil, List.getLast?_append,
          Option.or_of_isSome (by simpa using hname.1)] at hc
        exact Text.isBlank_of_isWordChar (hname.2 c (List.mem_of_getLast? hc))
    | cons d rest =>
        rw [htext, List.getLast?_append, Option.or_of_isSome (by simp)] at hc
        exact hlast c hc
  obtain ⟨hline, -, hword⟩ :=
    Statement.ofLine_word (by simp) (by decide) (by decide) hparts hends
  have hcommand : (Statement.ofLine line).command = .call := hword
  have hform : CallForm line.text.toList name rest :=
    ⟨Text.toList "call", [.char ' '], by decide, by decide, hname, hstops, by rw [hparts]; simp⟩
  have hfound : Text.search callForm? line.text.toList = some (name, bracketed? rest) :=
    Text.search_of_start (callForm?_eq_some.2 ⟨rest, hform, rfl⟩)
  rw [of_command hcommand, ofCommand, ofCall, hline, hfound]

theorem bracketed?_brackets {inside : List CodePoint} (h : .char '\n' ∉ inside) :
    bracketed? (.char '[' :: (inside ++ [.char ']'])) = some inside := by
  have hline : (inside ++ [CodePoint.char ']']).takeWhile (· ≠ CodePoint.char '\n') =
      inside ++ [.char ']'] := by
    rw [List.takeWhile_eq_self_iff]
    intro c hc
    rcases List.mem_append.1 hc with hc | hc
    · simpa using fun heq : c = '\n' => h (heq ▸ hc)
    · rw [List.mem_singleton.1 hc]
      decide
  have hafter : Text.after? [.char '['] (.char '[' :: (inside ++ [.char ']'])) =
    some (inside ++ [.char ']']) :=
    Text.after?_eq_some.2 rfl
  simp only [bracketed?, hafter, hline, Option.bind_eq_bind, Option.bind_some,
    Text.beforeLast?_append_mark]

end Action

end LineScript
