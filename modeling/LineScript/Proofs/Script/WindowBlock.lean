import LineScript.Proofs.Text.Recognition
import LineScript.Script.Window
import Mathlib.Data.List.Infix

/-! # The entries of a window block

The entries of a window block are looked for one by one in the joined lines of its body. A search
passes a line that cannot hold what it looks for, so title and button are found wherever they stand;
what a line could be mistaken for is decided by the texts that stand in quotes on it. The text entry
is looked for up to the first closing brace only, and a button brings a closing brace with it.
-/

namespace LineScript

namespace Text

variable {text more : List CodePoint}

theorem quoted?_closed (hquote : .char '"' ∉ text) (hline : .char '\n' ∉ text)
    (rest : List CodePoint) :
    quoted? (.char '"' :: (text ++ .char '"' :: rest)) = some text := by
  refine quoted?_eq_some.2 ⟨rest, fun c hc => ⟨?_, ?_⟩, rfl⟩
  · rintro rfl
    exact hquote hc
  · rintro rfl
    exact hline hc

theorem quoted?_unclosed (h : .char '"' ∉ more.takeWhile (· ≠ CodePoint.char '\n')) :
    quoted? (.char '"' :: more) = none := by
  rw [Option.eq_none_iff_forall_ne_some]
  intro text htext
  obtain ⟨rest, hplain, heq⟩ := quoted?_eq_some.1 htext
  obtain ⟨-, rfl⟩ := List.cons.inj heq
  apply h
  rw [List.takeWhile_append_of_pos fun c hc => by simpa using (hplain c hc).2]
  simp

end Text

def Button.trimmed (button : Button) : Button :=
  { label := Text.trimmed button.label, statement := Text.trimmed button.statement }

namespace Window

variable {keyword : Text} {cs block text more : List CodePoint}

/-! ## Recognisers of entries -/

/-- The start of an entry: its keyword and an equals sign with blanks around it. -/
def Opening (keyword : Text) (cs : List CodePoint) : Prop :=
  ∃ left right, (∀ c ∈ left, Text.isBlank c = true) ∧ (∀ c ∈ right, Text.isBlank c = true) ∧
    cs = keyword.toList ++ (left ++ .char '=' :: right)

theorem Opening.not_mem (h : Opening keyword cs) {mark : CodePoint}
    (hkeyword : mark ∉ keyword.toList)
    (hblank : Text.isBlank mark = false) (hequals : mark ≠ '=') : mark ∉ cs := by
  obtain ⟨left, right, hleft, hright, rfl⟩ := h
  have hnot : ∀ blanks : List CodePoint, (∀ c ∈ blanks, Text.isBlank c = true) → mark ∉ blanks := by
    intro blanks hblanks hmem
    rw [hblanks mark hmem] at hblank
    cases hblank
  simp [hkeyword, hnot left hleft, hnot right hright, hequals]

/-- An entry up to a mark that comes after its equals sign. -/
theorem opened_eq_some {mark : CodePoint} (hmark : Text.isBlank mark = false)
    {rest : List CodePoint} :
    ((Text.after? keyword.toList cs).bind Text.afterEquals?).bind (Text.after? [mark]) = some rest ↔
      ∃ opening, Opening keyword opening ∧ cs = opening ++ mark :: rest := by
  simp only [Option.bind_eq_some_iff]
  constructor
  · rintro ⟨inner, ⟨tail, htail, hinner⟩, hrest⟩
    obtain rfl := Text.after?_eq_some.1 htail
    obtain ⟨left, right, hleft, hright, -, rfl⟩ := Text.afterEquals?_eq_some.1 hinner
    obtain rfl := Text.after?_eq_some.1 hrest
    exact ⟨_, ⟨left, right, hleft, hright, rfl⟩, by simp⟩
  · rintro ⟨_, ⟨left, right, hleft, hright, rfl⟩, rfl⟩
    refine ⟨mark :: rest, ⟨left ++ .char '=' :: (right ++ mark :: rest),
      Text.after?_eq_some.2 (by simp),
      Text.afterEquals?_eq_some.2 ⟨left, right, hleft, hright, .cons hmark _, rfl⟩⟩,
      Text.after?_eq_some.2 rfl⟩

/-- An entry whose part after the mark is left to another recogniser. -/
theorem opened_bind_eq_some {α : Type} {mark : CodePoint} (hmark : Text.isBlank mark = false)
    (recognise : List CodePoint → Option α) {found : α} :
    (((Text.after? keyword.toList cs).bind Text.afterEquals?).bind (Text.after? [mark])).bind
        recognise = some found ↔
      ∃ opening more, Opening keyword opening ∧ cs = opening ++ mark :: more ∧
        recognise more = some found := by
  rw [Option.bind_eq_some_iff]
  simp only [opened_eq_some hmark]
  constructor
  · rintro ⟨more, ⟨opening, hopening, hcs⟩, hmore⟩
    exact ⟨opening, more, hopening, hcs, hmore⟩
  · rintro ⟨opening, more, hopening, hcs, hmore⟩
    exact ⟨more, ⟨opening, hopening, hcs⟩, hmore⟩

theorem assigned?_eq_some :
    assigned? keyword cs = some text ↔
      ∃ opening more, Opening keyword opening ∧ cs = opening ++ .char '"' :: more ∧
        Text.quoted? (.char '"' :: more) = some text := by
  rw [← opened_bind_eq_some (by decide) fun more => Text.quoted? (.char '"' :: more),
    Option.bind_assoc, Option.bind_assoc]
  have hquoted : ∀ rest, Text.quoted? rest =
      (Text.after? [.char '"'] rest).bind fun more => Text.quoted? (.char '"' :: more) := by
    intro rest
    simp [Text.quoted?, Text.after?]
  simp only [assigned?, Option.bind_eq_bind, ← hquoted]

theorem contentStart?_eq_some :
    contentStart? cs = some block ↔
      ∃ opening, Opening "@Content" opening ∧ cs = opening ++ .char '{' :: block := by
  rw [← opened_eq_some (by decide), Option.bind_assoc]
  rfl

theorem boundButton?_eq_some {found : List CodePoint × List CodePoint} :
    boundButton? cs = some found ↔
      ∃ opening more, Opening "BUTTON" opening ∧ cs = opening ++ .char '"' :: more ∧
        labelled? more = some found := by
  rw [← opened_bind_eq_some (by decide) labelled?, Option.bind_assoc, Option.bind_assoc]
  rfl

/-! ## Keywords lead their entries -/

theorem Opening.starts (h : Opening keyword cs) (rest : List CodePoint) :
    keyword.toList <+: cs ++ rest := by
  obtain ⟨left, right, -, -, rfl⟩ := h
  exact ⟨left ++ .char '=' :: right ++ rest, by simp⟩

theorem led_assigned? (keyword : Text) : Text.Led keyword.toList (assigned? keyword) := by
  intro cs hsome
  obtain ⟨text, htext⟩ := Option.isSome_iff_exists.1 hsome
  obtain ⟨opening, more, hopening, rfl, -⟩ := assigned?_eq_some.1 htext
  exact hopening.starts _

theorem led_contentStart? : Text.Led (Text.toList "@Content") contentStart? := by
  intro cs hsome
  obtain ⟨block, hblock⟩ := Option.isSome_iff_exists.1 hsome
  obtain ⟨opening, hopening, rfl⟩ := contentStart?_eq_some.1 hblock
  exact hopening.starts _

theorem led_boundButton? : Text.Led (Text.toList "BUTTON") boundButton? := by
  intro cs hsome
  obtain ⟨found, hfound⟩ := Option.isSome_iff_exists.1 hsome
  obtain ⟨opening, more, hopening, rfl, -⟩ := boundButton?_eq_some.1 hfound
  exact hopening.starts _

/-! ## Texts in quotes -/

/-- The text ends with the start of an entry. -/
def LeavesOpen (keyword : Text) (text : List CodePoint) : Prop :=
  ∃ opening, opening <:+ text ∧ Opening keyword opening

/-- The end of the label is read as the start of an entry that a quote in the statement ends. -/
def Misread (keyword : Text) (button : Button) : Prop :=
  LeavesOpen keyword button.label.toList ∧ .char '"' ∈ button.statement.toList

/-- In a text in quotes an entry starts only if the text ends with its start: the quote that closes
the text is then read as the one that opens the entry, which has to be closed once more on the line.
-/
theorem passes_assigned?_text (hkeyword : .char '"' ∉ keyword.toList) (htext : .char '"' ∉ text)
    (hsafe : ¬ (LeavesOpen keyword text ∧ .char '"' ∈ more.takeWhile (· ≠ CodePoint.char '\n'))) :
    Text.Passes (assigned? keyword) text (.char '"' :: more) := by
  intro back hback _
  rw [Option.eq_none_iff_forall_ne_some]
  intro found hfound
  obtain ⟨opening, rest, hopening, hcs, hrest⟩ := assigned?_eq_some.1 hfound
  have hplain : ∀ cs : List CodePoint, .char '"' ∉ cs → ∀ c ∈ cs, decide (c ≠ '"') = true := by
    intro cs hcs c hc
    simpa using fun heq : c = '"' => hcs (heq ▸ hc)
  obtain ⟨rfl, htail⟩ := Text.append_stops_inj
    (hplain back fun hmem => htext (hback.subset hmem))
    (hplain opening (hopening.not_mem hkeyword (by decide) (by decide)))
    (.cons (by decide) more) (.cons (by decide) rest) hcs
  obtain ⟨-, rfl⟩ := List.cons.inj htail
  refine hsafe ⟨⟨back, hback, hopening⟩, Decidable.byContradiction fun hunclosed => ?_⟩
  rw [Text.quoted?_unclosed hunclosed] at hrest
  cases hrest

/-- A text in quotes without a brace does not start the content block. -/
theorem passes_contentStart?_text (htext : .char '"' ∉ text) (hbrace : .char '{' ∉ text) :
    Text.Passes contentStart? text (.char '"' :: more) := by
  intro back hback _
  rw [Option.eq_none_iff_forall_ne_some]
  intro block hblock
  obtain ⟨opening, hopening, hcs⟩ := contentStart?_eq_some.1 hblock
  have hplain : ∀ cs : List CodePoint, .char '"' ∉ cs → .char '{' ∉ cs →
      ∀ c ∈ cs, (decide (c ≠ '"') && decide (c ≠ '{')) = true := by
    intro cs hquote hbrace c hc
    have hne : c ≠ '"' ∧ c ≠ '{' :=
      ⟨fun heq => hquote (heq ▸ hc), fun heq => hbrace (heq ▸ hc)⟩
    simp [hne]
  obtain ⟨-, htail⟩ := Text.append_stops_inj
    (hplain back (fun hmem => htext (hback.subset hmem)) fun hmem => hbrace (hback.subset hmem))
    (hplain opening (hopening.not_mem (by decide) (by decide) (by decide))
      (hopening.not_mem (by decide) (by decide) (by decide)))
    (.cons (by decide) more) (.cons (by decide) block) hcs
  cases htail

/-- A line with a text in quotes, up to the text. -/
theorem passes_assigned?_quotation {front : List CodePoint} (hkeyword : .char '"' ∉ keyword.toList)
    (hfront : ¬ keyword.toList <:+: front) (htext : .char '"' ∉ text)
    (hsafe : ¬ (LeavesOpen keyword text ∧ .char '"' ∈ more.takeWhile (· ≠ CodePoint.char '\n'))) :
    Text.Passes (assigned? keyword) (front ++ .char '"' :: text) (.char '"' :: more) := by
  have hopened := (led_assigned? keyword).passes_concat hfront hkeyword (text ++ .char '"' :: more)
  have hpassed := hopened.append (passes_assigned?_text hkeyword htext hsafe)
  rwa [List.append_assoc] at hpassed

/-! ## Lines -/

def bodyText (body : List Text) : List CodePoint :=
  (Text.intercalate "\n" body).toList

theorem bodyText_singleton (line : Text) : bodyText [line] = line.toList := by
  rw [bodyText, Text.intercalate_singleton]

theorem bodyText_cons (line : Text) {body : List Text} (hne : body ≠ []) :
    bodyText (line :: body) = line.toList ++ .char '\n' :: bodyText body := by
  cases body with
  | nil => exact absurd rfl hne
  | cons next body =>
      rw [bodyText, bodyText, Text.intercalate_cons_cons]
      simp

/-- Nothing is recognised on the line, whatever comes after it. -/
def PassesLine {α : Type} (recognise : List CodePoint → Option α) (line : Text) : Prop :=
  ∀ rest, Text.Passes recognise (line.toList ++ [.char '\n']) rest

variable {α : Type} {recognise : List CodePoint → Option α}

/-- A search starts at the first line that it does not pass. -/
theorem search_bodyText {before after : List Text}
    (hbefore : ∀ line ∈ before, PassesLine recognise line) (hne : after ≠ []) :
    Text.search recognise (bodyText (before ++ after)) =
      Text.search recognise (bodyText after) := by
  induction before with
  | nil => rfl
  | cons line before ih =>
      obtain ⟨hline, hbefore⟩ := List.forall_mem_cons.1 hbefore
      rw [List.cons_append, bodyText_cons line (by simp [hne]), List.append_cons,
        Text.search_append_of_passes (hline _), ih hbefore]

theorem bodyText_starts (line : Text) (body : List Text) :
    line.toList <+: bodyText (line :: body) := by
  cases body with
  | nil => rw [bodyText_singleton]
  | cons next body =>
      rw [bodyText_cons line (by simp)]
      exact List.prefix_append _ _

theorem search_bodyText_found {before after : List Text} {line : Text} {found : α}
    (hbefore : ∀ line ∈ before, PassesLine recognise line)
    (hline : ∀ rest, recognise (line.toList ++ rest) = some found) :
    Text.search recognise (bodyText (before ++ line :: after)) = some found := by
  obtain ⟨rest, hrest⟩ := bodyText_starts line after
  rw [search_bodyText hbefore (by simp), ← hrest]
  exact Text.search_of_start (hline rest)

theorem exists_line_of_infix {keyword : List CodePoint} (hne : keyword ≠ [])
    (hkeyword : .char '\n' ∉ keyword)
    {body : List Text} (h : keyword <:+: bodyText body) :
    ∃ line ∈ body, keyword <:+: line.toList := by
  induction body with
  | nil => exact absurd (List.infix_nil.1 h) hne
  | cons line body ih =>
      by_cases hbody : body = []
      · subst hbody
        exact ⟨line, List.mem_cons_self, bodyText_singleton line ▸ h⟩
      · rw [bodyText_cons line hbody, Text.infix_append_cons hkeyword] at h
        rcases h with hline | hrest
        · exact ⟨line, List.mem_cons_self, hline⟩
        · obtain ⟨found, hfound, hinfix⟩ := ih hrest
          exact ⟨found, List.mem_cons_of_mem _ hfound, hinfix⟩

theorem passesLine_of_led {keyword : List CodePoint} (hled : Text.Led keyword recognise)
    (hkeyword : .char '\n' ∉ keyword) {line : Text} (hline : ¬ keyword <:+: line.toList) :
    PassesLine recognise line :=
  fun rest => hled.passes_concat hline hkeyword rest

/-! ## Windows that can be written -/

/-- A text without line breaks and braces. -/
def IsInline (s : Text) : Prop :=
  ∀ c ∈ s.toList, Text.isLineBreak c = false ∧ c ≠ '{' ∧ c ≠ '}'

instance (s : Text) : Decidable (IsInline s) :=
  inferInstanceAs (Decidable (∀ c ∈ s.toList, _))

theorem IsInline.not_mem {s : Text} (h : IsInline s) :
    .char '\n' ∉ s.toList ∧ .char '{' ∉ s.toList ∧ .char '}' ∉ s.toList := by
  refine ⟨fun hmem => ?_, fun hmem => (h _ hmem).2.1 rfl, fun hmem => (h _ hmem).2.2 rfl⟩
  have hbreak := (h _ hmem).1
  revert hbreak
  decide

/-- A text without line breaks, braces and double quotes. -/
def IsQuotable (s : Text) : Prop :=
  IsInline s ∧ .char '"' ∉ s.toList

instance (s : Text) : Decidable (IsQuotable s) :=
  inferInstanceAs (Decidable (_ ∧ _))

/-- The parts of the window can be written into a block. A title or a text with the keyword of
buttons in it could be mistaken for one. -/
structure Writable (w : Window) : Prop where
  title : IsQuotable w.title
  content : IsQuotable w.content
  label : ∀ button ∈ w.button, IsQuotable button.label
  statement : ∀ button ∈ w.button, IsInline button.statement
  buttonless : ∀ text ∈ [w.title, w.content], ¬ (Text.toList "BUTTON") <:+: text.toList

/-! ## Entries as they are written -/

def contentLine : Text :=
  "@Content = \x7b"

def closingLine : Text :=
  "\x7d"

def titleLine (title : Text) : Text :=
  "@Title = \"" ++ title ++ "\""

def textLine (text : Text) : Text :=
  "TEXT = \"" ++ text ++ "\""

def buttonFront (button : Button) : Text :=
  "BUTTON = \"" ++ button.label ++ "\": \x7b " ++ button.statement ++ " "

def buttonLine (button : Button) : Text :=
  buttonFront button ++ "\x7d"

def entries (w : Window) (textFirst : Bool) : List Text :=
  if textFirst then textLine w.content :: w.button.toList.map buttonLine
  else w.button.toList.map buttonLine ++ [textLine w.content]

/-- The body of a block that declares a window: the title before the content block or after it, and
in the content block the text before the button or after it. -/
def body (w : Window) (titleFirst textFirst : Bool) : List Text :=
  let content := contentLine :: w.entries textFirst ++ [closingLine]
  if titleFirst then titleLine w.title :: content else content ++ [titleLine w.title]

/-- The content block from its opening brace up to the first closing one. -/
def contentPart (w : Window) (textFirst : Bool) : List CodePoint :=
  .char '\n' :: match w.button with
    | none => (textLine w.content).toList ++ [.char '\n']
    | some button =>
        if textFirst then (textLine w.content).toList ++ .char '\n' :: (buttonFront button).toList
        else (buttonFront button).toList

theorem bodyText_entries (w : Window) (textFirst : Bool) (rest : List Text) :
    ∃ more, .char '\n' :: bodyText (w.entries textFirst ++ closingLine :: rest) =
      w.contentPart textFirst ++ .char '}' :: more := by
  have hclosing : ∃ more, bodyText (closingLine :: rest) = .char '}' :: more := by
    cases rest with
    | nil => exact ⟨[], rfl⟩
    | cons next rest => exact ⟨_, bodyText_cons closingLine (by simp)⟩
  obtain ⟨more, hmore⟩ := hclosing
  unfold entries contentPart
  cases w.button with
  | none =>
      refine ⟨more, ?_⟩
      cases textFirst <;> simp [bodyText_cons, hmore]
  | some button =>
      cases textFirst with
      | true =>
          refine ⟨.char '\n' :: .char '}' :: more, ?_⟩
          simp [bodyText_cons, hmore, buttonLine]
      | false =>
          refine ⟨.char '\n' :: (textLine w.content).toList ++ .char '\n' :: .char '}' :: more, ?_⟩
          simp [bodyText_cons, hmore, buttonLine]

/-! ## Entries are found -/

theorem assigned?_written (keyword : Text) (hquote : .char '"' ∉ text) (hline : .char '\n' ∉ text)
    (rest : List CodePoint) :
    assigned? keyword (keyword.toList ++ Text.toList " = \"" ++ text ++ .char '"' :: rest) =
      some text := by
  refine assigned?_eq_some.2 ⟨keyword.toList ++ ([.char ' '] ++ .char '=' :: [.char ' ']),
    text ++ .char '"' :: rest,
    ⟨[.char ' '], [.char ' '], by decide, by decide, rfl⟩, by simp,
      Text.quoted?_closed hquote hline rest⟩

theorem boundStatement?_written {statement : List CodePoint} (hbrace : .char '}' ∉ statement)
    (rest : List CodePoint) :
    boundStatement? (Text.toList ": \x7b " ++ statement ++ Text.toList " \x7d" ++ rest) =
      some (.char ' ' :: statement ++ [.char ' ']) := by
  have hplain :
      ∀ c ∈ .char ' ' :: statement ++ [.char ' '], (!(c == CodePoint.char '}')) = true := by
    intro c hc
    simp only [List.cons_append, List.mem_cons, List.mem_append, List.not_mem_nil, or_false] at hc
    rcases hc with rfl | hc | rfl
    · decide
    · simpa using fun heq : c = '}' => hbrace (heq ▸ hc)
    · decide
  have hsplit : (Text.toList ": \x7b ") ++ statement ++ Text.toList " \x7d" ++ rest =
      .char ':' :: .char ' ' :: .char '{' :: ((.char ' ' :: statement ++ [.char ' ']) ++
        .char '}' :: rest) := by simp
  have hstops : Text.Stops (fun c => !(c == '}')) (.char '}' :: rest) := .cons (by decide) rest
  have hcolon : ∀ cs, Text.after? [.char ':'] (Text.trimLeft (.char ':' :: cs)) = some cs :=
    fun _ => rfl
  have hbrace : ∀ cs, Text.after? [.char '{'] (Text.trimLeft (.char ' ' :: .char '{' :: cs)) =
    some cs := fun _ => rfl
  simp only [boundStatement?, hsplit, hcolon, hbrace, Option.bind_eq_bind, Option.bind_some,
    Text.upTo, Text.takeWhile_append_stops hplain hstops,
    Text.dropWhile_append_stops hplain hstops]
  rfl

theorem labelled?_written {label statement rest : List CodePoint} (hquote : .char '"' ∉ label)
    (hrest : boundStatement? rest = some statement) :
    labelled? (label ++ .char '"' :: rest) = some (label, statement) := by
  induction label with
  | nil => simp [labelled?, hrest]
  | cons c label ih =>
      simp only [List.mem_cons, not_or] at hquote
      simp [labelled?, Ne.symm hquote.1, ih hquote.2]

theorem boundButton?_written {button : Button} (hquote : .char '"' ∉ button.label.toList)
    (hbrace : .char '}' ∉ button.statement.toList) (rest : List CodePoint) :
    boundButton? ((buttonLine button).toList ++ rest) =
      some (button.label.toList, .char ' ' :: button.statement.toList ++ [.char ' ']) := by
  refine boundButton?_eq_some.2 ⟨Text.toList "BUTTON" ++ ([.char ' '] ++ .char '=' :: [.char ' ']),
    button.label.toList ++
      .char '"' :: (Text.toList ": \x7b " ++ button.statement.toList ++
        Text.toList " \x7d" ++ rest),
    ⟨[.char ' '], [.char ' '], by decide, by decide, rfl⟩, ?_,
    labelled?_written hquote (boundStatement?_written hbrace rest)⟩
  simp [buttonLine, buttonFront]

theorem contentStart?_written {body : List Text} (hne : body ≠ []) :
    contentStart? (bodyText (contentLine :: body)) = some (.char '\n' :: bodyText body) := by
  refine contentStart?_eq_some.2
    ⟨Text.toList "@Content" ++ ([.char ' '] ++ .char '=' :: [.char ' ']),
    ⟨[.char ' '], [.char ' '], by decide, by decide, rfl⟩, ?_⟩
  rw [bodyText_cons contentLine hne]
  rfl

/-! ## Lines that are passed -/

theorem passesLine_textLine {text : Text} (hquote : .char '"' ∉ text.toList) :
    PassesLine (assigned? "@Title") (textLine text) := by
  intro rest
  have hfront : ¬ (Text.toList "@Title") <:+: (Text.toList "TEXT = ") := by decide
  have hquotation : Text.Passes (assigned? "@Title")
    (Text.toList "TEXT = " ++ .char '"' :: text.toList)
      (.char '"' :: .char '\n' :: rest) :=
    passes_assigned?_quotation (by decide) hfront hquote (by simp)
  have hends : Text.Passes (assigned? "@Title") [.char '"', .char '\n'] rest :=
    (led_assigned? "@Title").passes_foreign (by decide) (by decide) rest
  have hline : (textLine text).toList ++ [.char '\n'] =
      (Text.toList "TEXT = " ++ .char '"' :: text.toList) ++ [.char '"', .char '\n'] := by
        simp [textLine]
  rw [hline]
  exact hquotation.append hends

theorem passes_buttonFront {button : Button} {rest : List CodePoint}
    (hkeyword : keyword ∈ (["@Title", "TEXT"] : List Text))
    (hlabel : .char '"' ∉ button.label.toList)
    (hunbroken : .char '\n' ∉ button.statement.toList)
    (hstatement : ¬ keyword.toList <:+: button.statement.toList)
    (hsafe : ¬ Misread keyword button)
    (hrest : .char '"' ∉ rest.takeWhile (· ≠ CodePoint.char '\n')) :
    Text.Passes (assigned? keyword) (buttonFront button).toList rest := by
  have hforeign : ∀ keyword ∈ (["@Title", "TEXT"] : List Text), .char '"' ∉ keyword.toList ∧
    .char ' ' ∉ keyword.toList ∧
      ¬ keyword.toList <:+: (Text.toList "BUTTON = ") ∧
      ¬ keyword.toList <:+: (Text.toList "\": \x7b") := by decide
  obtain ⟨hquote, hspace, hfirst, hmiddle⟩ := hforeign keyword hkeyword
  have hquotation : Text.Passes (assigned? keyword)
      (Text.toList "BUTTON = " ++ .char '"' :: button.label.toList)
      (.char '"' :: (Text.toList ": \x7b " ++ button.statement.toList ++ [.char ' '] ++ rest)) := by
    refine passes_assigned?_quotation hquote hfirst hlabel fun hmistaken => hsafe ⟨hmistaken.1, ?_⟩
    -- the rest of the line has a quote only if the statement has one
    have hline : ∀ c ∈ Text.toList ": \x7b " ++ button.statement.toList ++ [.char ' '],
        decide (c ≠ CodePoint.char '\n') = true := by
      simp only [List.forall_mem_append]
      refine ⟨⟨by decide, fun c hc => ?_⟩, by decide⟩
      simpa using fun heq : c = '\n' => hunbroken (heq ▸ hc)
    have hmem := hmistaken.2
    rw [List.takeWhile_append_of_pos hline, List.mem_append] at hmem
    simpa using hmem.resolve_right hrest
  have hends : Text.Passes (assigned? keyword)
      ((Text.toList "\": \x7b" ++ .char ' ' :: button.statement.toList) ++ [.char ' ']) rest := by
    refine (led_assigned? keyword).passes_concat ?_ hspace rest
    rw [Text.infix_append_cons hspace]
    exact not_or.2 ⟨hmiddle, hstatement⟩
  have hfront : (buttonFront button).toList =
      (Text.toList "BUTTON = " ++ .char '"' :: button.label.toList) ++
        ((Text.toList "\": \x7b" ++ .char ' ' :: button.statement.toList) ++ [.char ' ']) := by
    simp [buttonFront]
  rw [hfront]
  refine Text.Passes.append ?_ hends
  simpa using hquotation

theorem passesLine_buttonLine {button : Button} (hlabel : .char '"' ∉ button.label.toList)
    (hunbroken : .char '\n' ∉ button.statement.toList)
    (hstatement : ¬ (Text.toList "@Title") <:+: button.statement.toList)
    (hsafe : ¬ Misread "@Title" button) :
    PassesLine (assigned? "@Title") (buttonLine button) := by
  intro rest
  have hfront : Text.Passes (assigned? "@Title") (buttonFront button).toList
      ([.char '}', .char '\n'] ++ rest) :=
    passes_buttonFront (by decide) hlabel hunbroken hstatement hsafe (by simp)
  have hends : Text.Passes (assigned? "@Title") [.char '}', .char '\n'] rest :=
    (led_assigned? "@Title").passes_foreign (by decide) (by decide) rest
  have hline : (buttonLine button).toList ++ [.char '\n'] =
      (buttonFront button).toList ++ [.char '}', .char '\n'] := by simp [buttonLine]
  rw [hline]
  exact hfront.append hends

theorem passesLine_titleLine {title : Text} (hquote : .char '"' ∉ title.toList)
    (hbrace : .char '{' ∉ title.toList) : PassesLine contentStart? (titleLine title) := by
  intro rest
  have hfront : ¬ (Text.toList "@Content") <:+: (Text.toList "@Title = ") := by decide
  have hstarts : Text.Passes contentStart? (Text.toList "@Title = " ++ [.char '"'])
      (title.toList ++ .char '"' :: .char '\n' :: rest) :=
    led_contentStart?.passes_concat hfront (by decide) _
  have hends : Text.Passes contentStart? [.char '"', .char '\n'] rest :=
    led_contentStart?.passes_foreign (by decide) (by decide) rest
  have hline : (titleLine title).toList ++ [.char '\n'] =
      (Text.toList "@Title = " ++ [.char '"']) ++ title.toList ++ [.char '"', .char '\n'] := by
        simp [titleLine]
  rw [hline]
  exact (hstarts.append (passes_contentStart?_text hquote hbrace)).append hends

/-! ## What is read -/

/-- What has no quote does not close one, so it can be left off at the end. -/
theorem assigned?_append (keyword : Text) (cs : List CodePoint) {right : List CodePoint}
    (hright : .char '"' ∉ right) : assigned? keyword (cs ++ right) = assigned? keyword cs := by
  apply Option.ext
  intro text
  rw [assigned?_eq_some, assigned?_eq_some]
  constructor
  · rintro ⟨opening, more, hopening, hcs, hmore⟩
    obtain ⟨rest, hplain, heq⟩ := Text.quoted?_eq_some.1 hmore
    obtain ⟨-, rfl⟩ := List.cons.inj heq
    -- the closing quote stands in `cs`
    have hentry : (opening ++ .char '"' :: (text ++ [.char '"'])) ++ rest = cs ++ right :=
      by simp [hcs]
    rcases List.append_eq_append_iff.1 hentry with ⟨tail, rfl, -⟩ | ⟨tail, htail, rfl⟩
    · exact ⟨opening, text ++ .char '"' :: tail, hopening, by simp,
        Text.quoted?_eq_some.2 ⟨tail, hplain, rfl⟩⟩
    · rcases List.eq_nil_or_concat tail with rfl | ⟨front, last, rfl⟩
      · exact ⟨opening, text ++ [.char '"'], hopening, by simpa using htail.symm,
          Text.quoted?_eq_some.2 ⟨[], hplain, rfl⟩⟩
      · have hlast := congrArg List.getLast? htail
        simp only [List.concat_eq_append, ← List.append_assoc, ← List.cons_append,
          List.getLast?_concat, Option.some.injEq] at hlast
        exact absurd (by simp [← hlast]) hright
  · rintro ⟨opening, more, hopening, rfl, hmore⟩
    obtain ⟨rest, hplain, heq⟩ := Text.quoted?_eq_some.1 hmore
    obtain ⟨-, rfl⟩ := List.cons.inj heq
    exact ⟨opening, text ++ .char '"' :: (rest ++ right), hopening, by simp,
      Text.quoted?_eq_some.2 ⟨rest ++ right, hplain, rfl⟩⟩

/-- Blanks around the content block make no difference to its text entry. -/
theorem contentText?_eq (inner : List CodePoint) :
    contentText? inner = firstAssigned? "TEXT" inner := by
  obtain ⟨left, right, hinner, hleft, hright⟩ := Text.trim_parts inner
  have hforeign : ∀ blanks : List CodePoint, (∀ c ∈ blanks, Text.isBlank c = true) →
      ∀ rest, Text.Passes (assigned? "TEXT") blanks rest := by
    intro blanks hblanks
    refine (led_assigned? "TEXT").passes_foreign (by decide) fun c hc hmem => ?_
    have hplain : ∀ c ∈ Text.toList "TEXT", Text.isBlank c = false := by decide
    have hblank := hblanks c hc
    rw [hplain c hmem] at hblank
    cases hblank
  have hclosed : .char '"' ∉ right := fun hmem => by cases hright _ hmem
  have hends : ∀ cs, Text.search (assigned? "TEXT") (cs ++ right) =
      Text.search (assigned? "TEXT") cs := by
    intro cs
    induction cs with
    | nil =>
        have hpassed := Text.search_append_of_passes (hforeign right hright [])
        rwa [List.append_nil] at hpassed
    | cons c cs ih =>
        rw [List.cons_append, Text.search, Text.search, ← List.cons_append,
          assigned?_append "TEXT" (c :: cs) hclosed, ih]
  have hsearch : Text.search (assigned? "TEXT") inner =
      Text.search (assigned? "TEXT") (Text.trim inner) :=
    calc Text.search (assigned? "TEXT") inner
        = Text.search (assigned? "TEXT") (left ++ (Text.trim inner ++ right)) := by
          rw [← List.append_assoc, ← hinner]
      _ = Text.search (assigned? "TEXT") (Text.trim inner ++ right) :=
          Text.search_append_of_passes (hforeign left hleft _)
      _ = Text.search (assigned? "TEXT") (Text.trim inner) := hends _
  unfold contentText? firstAssigned?
  rw [hsearch]

/-- What a body comes to whose content block ends at its first closing brace. -/
theorem ofBody_eq {body : List Text} {inner rest : List CodePoint} (defaultTitle : Text)
    (hblock : Text.search contentStart? (bodyText body) = some (inner ++ .char '}' :: rest))
    (hinner : .char '}' ∉ inner) :
    ofBody body defaultTitle =
      { title := (firstAssigned? "@Title" (bodyText body)).getD defaultTitle
        content := (firstAssigned? "TEXT" inner).getD ""
        button := button? (bodyText body) } := by
  have hplain : ∀ c ∈ inner, (!(c == CodePoint.char '}')) = true := by
    intro c hc
    simpa using fun heq : c = '}' => hinner (heq ▸ hc)
  have hcut : (Text.upTo (· == CodePoint.char '}') (inner ++ .char '}' :: rest)).1 = inner :=
    Text.takeWhile_append_stops hplain (.cons (by decide) rest)
  have hclosed : (inner ++ .char '}' :: rest).contains '}' = true := by simp
  simp only [bodyText] at hblock
  simp only [ofBody, bodyText, hblock, if_pos hclosed, hcut, contentText?_eq]

variable {w : Window} {button : Button}

/-- The content block of a body that declares a window starts after its title, if that comes first,
and its first closing brace is the one of the button, if there is one. -/
theorem search_contentStart?_body (h : w.Writable) (titleFirst textFirst : Bool) :
    ∃ more, Text.search contentStart? (bodyText (w.body titleFirst textFirst)) =
      some (w.contentPart textFirst ++ .char '}' :: more) := by
  have hsplit : ∃ before after, (∀ line ∈ before, PassesLine contentStart? line) ∧
      w.body titleFirst textFirst =
        before ++ contentLine :: (w.entries textFirst ++ closingLine :: after) := by
    cases titleFirst with
    | true =>
        refine ⟨[titleLine w.title], [], ?_, by simp [body]⟩
        simpa using passesLine_titleLine h.title.2 h.title.1.not_mem.2.1
    | false => exact ⟨[], [titleLine w.title], by simp, by simp [body]⟩
  obtain ⟨before, after, hbefore, hbody⟩ := hsplit
  obtain ⟨more, hmore⟩ := bodyText_entries w textFirst after
  refine ⟨more, ?_⟩
  rw [hbody, search_bodyText hbefore (by simp), ← hmore]
  exact Text.search_of_start (contentStart?_written (by simp))

theorem not_mem_contentPart (h : w.Writable) (textFirst : Bool) :
    .char '}' ∉ w.contentPart textFirst := by
  have htext : .char '}' ∉ (textLine w.content).toList := by
    simp [textLine, h.content.1.not_mem.2.2]
  have hbutton : ∀ button ∈ w.button, .char '}' ∉ (buttonFront button).toList := by
    intro button hbutton
    simp [buttonFront, (h.label button hbutton).1.not_mem.2.2,
      (h.statement button hbutton).not_mem.2.2]
  unfold contentPart
  cases hw : w.button with
  | none => simp [htext]
  | some button => cases textFirst <;> simp [htext, hbutton button hw]

theorem buttonless_line (h : w.Writable) {line : Text}
    (hline : line ∈ [titleLine w.title, contentLine, textLine w.content, closingLine]) :
    ¬ (Text.toList "BUTTON") <:+: line.toList := by
  have hquotation : ∀ front : List CodePoint, ¬ (Text.toList "BUTTON") <:+: front →
      ∀ text ∈ [w.title, w.content],
        ¬ (Text.toList "BUTTON") <:+: front ++ .char '"' :: (text.toList ++ .char '"' :: []) := by
    intro front hfront text htext
    rw [Text.infix_append_cons (by decide), Text.infix_append_cons (by decide)]
    exact not_or.2 ⟨hfront, not_or.2 ⟨h.buttonless text htext, by decide⟩⟩
  have htitle : ¬ (Text.toList "BUTTON") <:+: (Text.toList "@Title = ") := by decide
  have htext : ¬ (Text.toList "BUTTON") <:+: (Text.toList "TEXT = ") := by decide
  simp only [List.mem_cons, List.not_mem_nil, or_false] at hline
  rcases hline with rfl | rfl | rfl | rfl
  · simpa [titleLine] using hquotation _ htitle w.title (by simp)
  · decide
  · simpa [textLine] using hquotation _ htext w.content (by simp)
  · decide

theorem button?_body (h : w.Writable) (titleFirst textFirst : Bool) :
    button? (bodyText (w.body titleFirst textFirst)) = w.button.map Button.trimmed := by
  cases hw : w.button with
  | none =>
      have hnone : ¬ (Text.toList "BUTTON") <:+: bodyText (w.body titleFirst textFirst) := by
        intro hinfix
        obtain ⟨line, hmem, hline⟩ := exists_line_of_infix (by decide) (by decide) hinfix
        refine buttonless_line h ?_ hline
        cases titleFirst <;> cases textFirst <;> simp [body, entries, hw] at hmem ⊢ <;> tauto
      rw [button?, led_boundButton?.search_eq_none hnone]
      rfl
  | some button =>
      have hsplit : ∃ before after,
          w.body titleFirst textFirst = before ++ buttonLine button :: after ∧
          before ⊆ [titleLine w.title, contentLine, textLine w.content, closingLine] := by
        have hentries : w.entries textFirst =
            if textFirst then [textLine w.content, buttonLine button]
            else [buttonLine button, textLine w.content] := by
          simp [entries, hw]
        cases titleFirst <;> cases textFirst <;> simp only [body, hentries]
        · exact ⟨[contentLine], [textLine w.content, closingLine, titleLine w.title], rfl, by simp⟩
        · exact ⟨[contentLine, textLine w.content], [closingLine, titleLine w.title], rfl, by simp⟩
        · exact ⟨[titleLine w.title, contentLine], [textLine w.content, closingLine], rfl, by simp⟩
        · exact ⟨[titleLine w.title, contentLine, textLine w.content], [closingLine], rfl, by simp⟩
      obtain ⟨before, after, hbody, hbefore⟩ := hsplit
      have hpassed : ∀ line ∈ before, PassesLine boundButton? line := fun line hline =>
        passesLine_of_led led_boundButton? (by decide) (buttonless_line h (hbefore hline))
      have hfound : Text.search boundButton? (bodyText (before ++ buttonLine button :: after)) =
          some (button.label.toList, .char ' ' :: button.statement.toList ++ [.char ' ']) :=
        search_bodyText_found hpassed
          (boundButton?_written (h.label button hw).2 (h.statement button hw).not_mem.2.2)
      have htrim : Text.trim (.char ' ' :: button.statement.toList ++ [.char ' ']) =
          Text.trim button.statement.toList := by
        rw [Text.trim_append_right (by decide), ← List.singleton_append,
          Text.trim_append_left (by decide)]
      rw [button?, hbody, hfound]
      simp only [Option.map_some, htrim]
      rfl

theorem ofBody_body (h : w.Writable) (titleFirst textFirst : Bool) (defaultTitle : Text) :
    ofBody (w.body titleFirst textFirst) defaultTitle =
      { title :=
          (firstAssigned? "@Title" (bodyText (w.body titleFirst textFirst))).getD defaultTitle
        content := (firstAssigned? "TEXT" (w.contentPart textFirst)).getD ""
        button := w.button.map Button.trimmed } := by
  obtain ⟨more, hblock⟩ := search_contentStart?_body h titleFirst textFirst
  rw [ofBody_eq defaultTitle hblock (not_mem_contentPart h textFirst), button?_body h]

theorem title_found (h : w.Writable) {before : List Text} (after : List Text)
    (hbefore : ∀ line ∈ before, PassesLine (assigned? "@Title") line) :
    firstAssigned? "@Title" (bodyText (before ++ titleLine w.title :: after)) =
      some (Text.trimmed w.title) := by
  have hline : ∀ rest, assigned? "@Title" ((titleLine w.title).toList ++ rest) =
      some w.title.toList := by
    intro rest
    simpa [titleLine] using assigned?_written "@Title" h.title.2 h.title.1.not_mem.1 rest
  rw [firstAssigned?, search_bodyText_found hbefore hline]
  rfl

theorem title_body_first (h : w.Writable) (textFirst : Bool) :
    firstAssigned? "@Title" (bodyText (w.body true textFirst)) = some (Text.trimmed w.title) := by
  have hbody : w.body true textFirst =
      [] ++ titleLine w.title :: (contentLine :: w.entries textFirst ++ [closingLine]) := rfl
  rw [hbody]
  exact title_found h _ (List.forall_mem_nil _)

theorem title_body_last (h : w.Writable) (textFirst : Bool)
    (hstatement : ∀ button ∈ w.button, ¬ (Text.toList "@Title") <:+: button.statement.toList)
    (hsafe : ∀ button ∈ w.button, ¬ Misread "@Title" button) :
    firstAssigned? "@Title" (bodyText (w.body false textFirst)) = some (Text.trimmed w.title) := by
  have hfixed : ∀ line ∈ [contentLine, closingLine], ¬ (Text.toList "@Title") <:+: line.toList := by
    decide
  have hpassed : ∀ line ∈ contentLine :: w.entries textFirst ++ [closingLine],
      PassesLine (assigned? "@Title") line := by
    intro line hline
    have hline : line ∈ [contentLine, closingLine] ∨ line = textLine w.content ∨
        ∃ button ∈ w.button, buttonLine button = line := by
      cases textFirst <;> simp [entries] at hline ⊢ <;> tauto
    rcases hline with hline | rfl | ⟨button, hbutton, rfl⟩
    · exact passesLine_of_led (led_assigned? "@Title") (by decide) (hfixed line hline)
    · exact passesLine_textLine h.content.2
    · exact passesLine_buttonLine (h.label button hbutton).2 (h.statement button hbutton).not_mem.1
        (hstatement button hbutton) (hsafe button hbutton)
  have hbody : w.body false textFirst =
      contentLine :: w.entries textFirst ++ [closingLine] ++ titleLine w.title :: [] := rfl
  rw [hbody]
  exact title_found h [] hpassed

theorem text_contentPart_first (h : w.Writable) :
    firstAssigned? "TEXT" (w.contentPart true) = some (Text.trimmed w.content) := by
  have hpart : ∃ rest, w.contentPart true =
    [.char '\n'] ++ ((textLine w.content).toList ++ rest) := by
    unfold contentPart
    cases w.button with
    | none => exact ⟨[.char '\n'], rfl⟩
    | some button => exact ⟨.char '\n' :: (buttonFront button).toList, rfl⟩
  obtain ⟨rest, hpart⟩ := hpart
  have hline : assigned? "TEXT" ((textLine w.content).toList ++ rest) = some w.content.toList := by
    simpa [textLine] using assigned?_written "TEXT" h.content.2 h.content.1.not_mem.1 rest
  have hfeed : Text.Passes (assigned? "TEXT") [.char '\n'] ((textLine w.content).toList ++ rest) :=
    (led_assigned? "TEXT").passes_foreign (by decide) (by decide) _
  rw [firstAssigned?, hpart, Text.search_append_of_passes hfeed, Text.search_of_start hline]
  rfl

/-- The closing brace of a button that comes first cuts the text entry off. -/
theorem text_contentPart_last (h : w.Writable) (hbutton : w.button = some button)
    (hstatement : ¬ (Text.toList "TEXT") <:+: button.statement.toList)
    (hsafe : ¬ Misread "TEXT" button) :
    firstAssigned? "TEXT" (w.contentPart false) = none := by
  have hpart : w.contentPart false = [.char '\n'] ++ ((buttonFront button).toList ++ []) := by
    simp [contentPart, hbutton]
  have hfeed : Text.Passes (assigned? "TEXT") [.char '\n'] ((buttonFront button).toList ++ []) :=
    (led_assigned? "TEXT").passes_foreign (by decide) (by decide) _
  have hfront : Text.Passes (assigned? "TEXT") (buttonFront button).toList [] :=
    passes_buttonFront (by decide) (h.label button hbutton).2 (h.statement button hbutton).not_mem.1
      hstatement hsafe (by simp)
  rw [firstAssigned?, hpart, Text.search_append_of_passes hfeed,
    Text.search_append_of_passes hfront]
  rfl

def trimmed (w : Window) : Window :=
  { title := Text.trimmed w.title
    content := Text.trimmed w.content
    button := w.button.map Button.trimmed }

theorem ofBody_body_first (h : w.Writable) (defaultTitle : Text) :
    ofBody (w.body true true) defaultTitle = w.trimmed := by
  rw [ofBody_body h, title_body_first h, text_contentPart_first h]
  rfl

/-- Title and button of a window are the same wherever they stand, and its text if it comes before
the button; the braces of a button that comes before the text end the content block, which is then
left without a text. -/
theorem entries_in_any_order (h : w.Writable) (hbutton : w.button = some button)
    (hstatement : ∀ keyword ∈ (["@Title", "TEXT"] : List Text),
      ¬ keyword.toList <:+: button.statement.toList)
    (defaultTitle : Text) :
    let read := fun titleFirst textFirst => ofBody (w.body titleFirst textFirst) defaultTitle
    (∀ titleFirst textFirst, (read titleFirst textFirst).button = some button.trimmed) ∧
    (∀ titleFirst textFirst, titleFirst = true ∨ ¬ Misread "@Title" button →
      (read titleFirst textFirst).title = Text.trimmed w.title) ∧
    (∀ titleFirst, (read titleFirst true).content = Text.trimmed w.content) ∧
    (∀ titleFirst, (read titleFirst false).content = (read true false).content) ∧
    (¬ Misread "TEXT" button → ∀ titleFirst, (read titleFirst false).content = "") := by
  have honly : ∀ {p : Button → Prop}, p button → ∀ other ∈ w.button, p other := by
    intro p hp other hother
    rw [hbutton, Option.mem_some_iff] at hother
    exact hother ▸ hp
  intro read
  simp only [read, ofBody_body h, hbutton]
  refine ⟨fun _ _ => rfl, ?_, ?_, fun _ => trivial, ?_⟩
  · intro titleFirst textFirst hfound
    have htitle : firstAssigned? "@Title" (bodyText (w.body titleFirst textFirst)) =
        some (Text.trimmed w.title) := by
      cases titleFirst with
      | true => exact title_body_first h textFirst
      | false =>
          exact title_body_last h textFirst (honly (hstatement "@Title" (by decide)))
            (honly (hfound.resolve_left (by decide)))
    rw [htitle, Option.getD_some]
  · intro _
    rw [text_contentPart_first h, Option.getD_some]
  · intro hsafe _
    rw [text_contentPart_last h hbutton (hstatement "TEXT" (by decide)) hsafe, Option.getD_none]

/-- A label that ends like the start of an entry does no harm without a quote in the statement. -/
theorem entries_in_any_order_of_label :
    let w : Window :=
      { title := " Greeter", content := "hi ", button := some ⟨"TEXT =", "call greet"⟩ }
    let read := fun titleFirst textFirst => ofBody (w.body titleFirst textFirst) "Window"
    w.Writable ∧ LeavesOpen "TEXT" (Text.toList "TEXT =") ∧
    (∀ titleFirst textFirst, (read titleFirst textFirst).title = "Greeter" ∧
      (read titleFirst textFirst).button = some ⟨"TEXT =", "call greet"⟩) ∧
    ∀ titleFirst, (read titleFirst true).content = "hi" ∧ (read titleFirst false).content = "" := by
  intro w read
  have hwritable : w.Writable :=
    { title := by decide
      content := by decide
      label := by simp only [w, Option.mem_some_iff, forall_eq']; decide
      statement := by simp only [w, Option.mem_some_iff, forall_eq']; decide
      buttonless := by decide }
  have hsafe : ∀ keyword, ¬ Misread keyword ⟨"TEXT =", "call greet"⟩ :=
    fun keyword h => absurd h.2 (by decide)
  have htrimmed : Text.trimmed w.title = "Greeter" ∧ Text.trimmed w.content = "hi" ∧
      Button.trimmed ⟨"TEXT =", "call greet"⟩ = ⟨"TEXT =", "call greet"⟩ := by decide +kernel
  obtain ⟨hbutton, htitle, hfirst, -, hlast⟩ :=
    entries_in_any_order hwritable rfl (by decide) "Window"
  rw [htrimmed.1] at htitle
  rw [htrimmed.2.1] at hfirst
  rw [htrimmed.2.2] at hbutton
  exact ⟨hwritable, ⟨Text.toList "TEXT =", List.suffix_rfl, [.char ' '], [], by decide,
    by decide, rfl⟩,
    fun titleFirst textFirst =>
      ⟨htitle titleFirst textFirst (.inr (hsafe "@Title")), hbutton titleFirst textFirst⟩,
    fun titleFirst => ⟨hfirst titleFirst, hlast (hsafe "TEXT") titleFirst⟩⟩

/-- The text of a window is lost behind its button; a title that comes last is lost if the label of
the button ends like the start of one. -/
theorem entry_lost_behind_button :
    let greeter : Window := { title := "T", content := "hi", button := some ⟨"Go", "print \"x\""⟩ }
    let misleading : Window :=
      { title := "T", content := "hi", button := some ⟨"@Title =", "print \"x\""⟩ }
    (ofBody (greeter.body true true) "Window").content = "hi" ∧
    (ofBody (greeter.body true false) "Window").content = "" ∧
    (ofBody (misleading.body true true) "Window").title = "T" ∧
    (ofBody (misleading.body false true) "Window").title ≠ "T" := by
  decide +kernel

end Window

end LineScript
