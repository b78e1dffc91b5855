import LineScript.Proofs.Session.Printing

/-! # Values that are printed again

A value passes through the cutting of the script into lines, the trimming of the lines, the reading
of quotes, the recogniser of its definition and the look-up by name before it is printed. The main
result is that it comes out as it went in.
-/

namespace LineScript

theorem Text.IsName.unbroken {name : List CodePoint} (h : Text.IsName name) :
    ∀ c ∈ name, Text.isLineBreak c = false := by
  intro c hc
  rw [← Bool.not_eq_true]
  intro hbreak
  have hblank := Text.isBlank_of_isLineBreak hbreak
  rw [Text.isBlank_of_isWordChar (h.2 c hc)] at hblank
  cases hblank

namespace Line

theorem IsText.of_ends {text : Text} {c : CodePoint} (hhead : text.toList.head? = some c)
    (hfirst : Text.isBlank c = false)
    (hlast : ∀ d ∈ text.toList.getLast?, Text.isBlank d = false)
    (hunbroken : ∀ d ∈ text.toList, Text.isLineBreak d = false) : IsText text where
  ne_nil := by
    intro hnil
    rw [hnil] at hhead
    cases hhead
  trimmed := by
    refine Text.trim_eq_self ?_ hlast
    rw [hhead]
    simpa using hfirst
  unbroken := hunbroken

theorem isText_print_variable {name : Text} (hname : Text.IsName name.toList) :
    IsText ("print @" ++ name) := by
  have hlist : ("print @" ++ name).toList = Text.toList "print @" ++ name.toList := by simp
  refine .of_ends (by rw [hlist]; rfl) (c := 'p') (by decide) ?_ ?_
  · intro c hc
    rw [hlist, List.getLast?_append, Option.or_of_isSome (by simpa using hname.1)] at hc
    exact Text.isBlank_of_isWordChar (hname.2 c (List.mem_of_getLast? hc))
  · rw [hlist]
    exact List.forall_mem_append.2 ⟨by decide, hname.unbroken⟩

/-- A line that ends with a text in quotes, or with a semicolon after it. -/
theorem isText_quoted {text : Text} {c : CodePoint} {front value ending : List CodePoint}
    (htext : text.toList = front ++ value ++ [.char '"'] ++ ending) (hhead : front.head? = some c)
    (hfirst : Text.isBlank c = false) (hending : ending = [] ∨ ending = [.char ';'])
    (hfront : ∀ d ∈ front, Text.isLineBreak d = false)
    (hvalue : ∀ d ∈ value, Text.isLineBreak d = false) : IsText text := by
  have hend : ∀ d ∈ [.char '"'] ++ ending, Text.isLineBreak d = false := by
    rcases hending with rfl | rfl <;> decide
  rw [List.append_assoc] at htext
  refine .of_ends (by rw [htext]; simp [hhead]) hfirst ?_ ?_
  · rw [htext, List.getLast?_append, Option.or_of_isSome (by simp)]
    rcases hending with rfl | rfl <;> decide
  · rw [htext]
    exact List.forall_mem_append.2 ⟨List.forall_mem_append.2 ⟨hfront, hvalue⟩, hend⟩

end Line

namespace Exec

open Session

variable {disk : Disk} {id : Nat} {s t : Session}

/-- The functions of a script are all that its preparation puts into the store. -/
theorem foldl_taking_statements (i : Interpreter) (ls : List Line) :
    (ls.map Segment.statement).foldl Interpreter.taking i = i := by
  induction ls with
  | nil => rfl
  | cons line ls ih => exact ih

/-- A script of statements prints what the statements print one after another, from a session in
which nothing has changed so far that they depend on. -/
theorem runPrints_statements {texts shown : List Text} (hid : id < s.interpreters.size)
    (hhost : s.host.isSome) (htexts : ∀ text ∈ texts, Line.IsText text)
    (hplain : ∀ text ∈ texts, Segment.isFunctionHeader text.toList = false ∧
      Segment.isWindowHeader text.toList = false) (base : Path) (file : Option Text)
    (hshown : ∀ (t : Session) (frame : Frame) (ls : List Line), Prints s t [] →
      (t.interpreter id).store = (s.interpreter id).store → ls.map (·.text) = texts →
      ∃ u, each (executeLine disk (say disk s.reactions.length)
          (lines disk (say disk s.reactions.length)
            (2 * (s.interpreter id).config.depthLimit.toNat)) id
          frame) ls t = (.ok (), u) ∧ Prints t u shown) :
    s.RunPrints disk id (Text.intercalate "\n" texts) base file shown := by
  have hscan := Line.map_text_scan_intercalate htexts file
  have hsegments := Segment.ofLines_statements fun line hline =>
    hplain line.text (by rw [← hscan]; exact List.mem_map_of_mem hline)
  have hquiet : ∀ segment ∈ Segment.ofLines (Line.scan (Text.intercalate "\n" texts) file),
      segment.window? = none ∧ segment.diagnostic? = none := by
    rw [hsegments]
    intro segment hsegment
    obtain ⟨line, -, rfl⟩ := List.mem_map.1 hsegment
    exact ⟨rfl, rfl⟩
  obtain ⟨script, t, hp, hprepared, hstatements, -, hfirst, hstore⟩ :=
    prints_prepare hid hhost hquiet base
  rw [hsegments, foldl_taking_statements] at hstore
  have hlines : script.statements.map (·.text) = texts := by
    rw [hstatements, hsegments, List.filterMap_map]
    simpa [Function.comp_def, Segment.statement?] using hscan
  have hentered := interpreter_content_congr (content_enter t id script.frame) id
  have hkept : ((t.enter id script.frame).interpreter id).store = (s.interpreter id).store :=
    (congrArg (·.2.1) hentered).trans hstore
  obtain ⟨u, hexecuted, hprinted⟩ :=
    hshown _ script.frame _ (hprepared.trans (.enter t id script.frame)) hkept hlines
  exact run_prints hp hprepared hfirst hexecuted hprinted

/-- A definition that the budget takes, and a statement that prints the variable. -/
theorem runPrints_definition {definition : Definition} {text name value : Text} {size : Int}
    (hid : id < s.interpreters.size) (hhost : s.host.isSome) (htext : Line.IsText text)
    (hplain : Segment.isFunctionHeader text.toList = false ∧
      Segment.isWindowHeader text.toList = false)
    (hdefinition : ∀ line : Line, line.text = text →
      Action.definition? (.ofLine line) = some (definition, name.toList, value.toList))
    (hname : Text.IsName name.toList)
    (hsize : valueSize (s.interpreter id).config.valueOverhead (s.interpreter id).config.codec
      value = .ok size)
    (hfits : ∀ budget, (s.interpreter id).store.budget = some budget →
      budget.used + size ≤ budget.ceiling)
    (hquiet : takeReaction? value s.reactions = none) (disk : Disk) (base : Path)
    (file : Option Text) :
    s.RunPrints disk id (Text.intercalate "\n" [text, "print @" ++ name]) base file [value] := by
  have hprint := Line.isText_print_variable hname
  refine runPrints_statements hid hhost
    (List.forall_mem_cons.2 ⟨htext, List.forall_mem_singleton.2 hprint⟩)
    (List.forall_mem_cons.2 ⟨hplain, List.forall_mem_singleton.2 (by simp; exact ⟨rfl, rfl⟩)⟩)
    base file ?_
  intro t frame ls hprepared hstore htexts
  obtain ⟨defining, rest, rfl, hdefining, hrest⟩ := List.map_eq_cons_iff.1 htexts
  obtain ⟨printing, rfl, hprinting⟩ := List.map_eq_singleton_iff.1 hrest
  have haction : t.actionOf id frame defining = .define definition name value size := by
    rw [actionOf, (hprepared.interpreter_eq id).1, hstore,
      Action.of_definition (hdefinition _ hdefining),
      Action.ofDefinition_fits (by rw [Text.ofList_toList]; exact hsize) hfits,
      Text.ofList_toList, Text.ofList_toList]
  obtain ⟨u, hstep, hdefined, hvalue⟩ := prints_step_define (hprepared.size_eq ▸ hid)
    (hprepared.isSome_host.trans hhost) haction disk (Exec.say disk s.reactions.length)
  have hbefore := hprepared.trans hdefined
  have haction' : u.actionOf id frame printing = .print value := by
    refine Action.of_print_variable hname ?_ (by rw [hprinting]; simp)
    rw [Text.ofList_toList]
    exact hvalue
  obtain ⟨v, hstep', hprinted⟩ := prints_step_print (hbefore.isSome_host.trans hhost)
    (by rw [hbefore.reactions]; exact hquiet) haction' disk s.reactions.length
  refine ⟨v, ?_, hdefined.trans hprinted⟩
  rw [each_cons, bind_apply, executeLine_of_opened_none _ hstep, each_cons]
  simp only [bind_apply, executeLine_of_opened_none _ hstep']
  rfl

theorem runPrints_text {text : Text} (hid : id < s.interpreters.size) (hhost : s.host.isSome)
    (hunbroken : ∀ c ∈ text.toList, Text.isLineBreak c = false)
    (hquiet : takeReaction? text s.reactions = none) (disk : Disk) (base : Path)
    (file : Option Text) :
    s.RunPrints disk id ("print \"" ++ text ++ "\"") base file [text] := by
  have hlist : ("print \"" ++ text ++ "\"").toList =
      Text.toList "print \"" ++ text.toList ++ [.char '"'] ++ [] := by simp
  have hline : Line.IsText ("print \"" ++ text ++ "\"") :=
    Line.isText_quoted hlist rfl (by decide) (.inl rfl) (by decide) hunbroken
  rw [← Text.intercalate_singleton "\n" ("print \"" ++ text ++ "\"")]
  refine runPrints_statements hid hhost (List.forall_mem_singleton.2 hline)
    (List.forall_mem_singleton.2 (by rw [hlist]; exact ⟨rfl, rfl⟩)) base file ?_
  intro t frame ls hprepared _ htexts
  obtain ⟨printing, rfl, hprinting⟩ := List.map_eq_singleton_iff.1 htexts
  have haction : t.actionOf id frame printing = .print text := by
    rw [List.append_nil] at hlist
    rw [actionOf, Action.of_print_text (hprinting ▸ hlist), Text.ofList_toList]
  obtain ⟨u, hstep, hprinted⟩ := prints_step_print (hprepared.isSome_host.trans hhost)
    (by rw [hprepared.reactions]; exact hquiet) haction disk s.reactions.length
  refine ⟨u, ?_, hprinted⟩
  rw [each_cons, bind_apply, executeLine_of_opened_none _ hstep]
  rfl

end Exec

open Session in
/-- Whatever state a session is in, a value that is defined and then printed comes out as it is, and
nothing else is printed or reported. The value has to fit into the encoding and the budget, and the
application must not react to the line. In a string definition, it must not have a double quote nor
a semicolon at its end; in a value definition, with or without a semicolon after it, it may have
both. A text between double quotes is printed as it is, whatever quotes it has inside. -/
theorem definitions_print_back (s : Session) (disk : Disk) (id : Nat) (base : Path)
    (file : Option Text) (hid : id < s.interpreters.size) (hhost : s.host.isSome) :
    (∀ (name value : Text) (size : Int), Text.IsName name.toList →
      (∀ c ∈ value.toList, Text.isLineBreak c = false ∧ straightQuote c = c) →
      valueSize (s.interpreter id).config.valueOverhead (s.interpreter id).config.codec value =
        .ok size →
      (∀ budget, (s.interpreter id).store.budget = some budget →
        budget.used + size ≤ budget.ceiling) →
      takeReaction? value s.reactions = none →
      (.char '"' ∉ value.toList → value.toList.getLast? ≠ some (.char ';') →
        s.RunPrints disk id
          (Text.intercalate "\n" ["string " ++ name ++ " = \"" ++ value ++ "\"", "print @" ++ name])
          base file [value]) ∧
      ∀ ending ∈ (["", ";"] : List Text),
        s.RunPrints disk id
          (Text.intercalate "\n"
            ["@VAL " ++ name ++ " = \"" ++ value ++ "\"" ++ ending, "print @" ++ name])
          base file [value]) ∧
    ∀ text : Text, (∀ c ∈ text.toList, Text.isLineBreak c = false) →
      takeReaction? text s.reactions = none →
      s.RunPrints disk id ("print \"" ++ text ++ "\"") base file [text] := by
  refine ⟨?_, fun text hunbroken hquiet =>
    Exec.runPrints_text hid hhost hunbroken hquiet disk base file⟩
  intro name value size hname hvalue hsize hfits hquiet
  have hunbroken : ∀ c ∈ value.toList, Text.isLineBreak c = false := fun c hc => (hvalue c hc).1
  have hstraight : ∀ c ∈ value.toList, straightQuote c = c := fun c hc => (hvalue c hc).2
  have hnewline : ∀ c ∈ value.toList, c ≠ '\n' := by
    rintro c hc rfl
    cases hunbroken _ hc
  have hfront (keyword : List CodePoint) (hkeyword : ∀ c ∈ keyword, Text.isLineBreak c = false) :
      ∀ c ∈ keyword ++ name.toList ++ Text.toList " = \"", Text.isLineBreak c = false :=
    List.forall_mem_append.2 ⟨List.forall_mem_append.2 ⟨hkeyword, hname.unbroken⟩, by decide⟩
  constructor
  · intro hquotes hlast
    have hlist : ("string " ++ name ++ " = \"" ++ value ++ "\"").toList =
        Text.toList "string " ++ name.toList ++ Text.toList " = \"" ++ value.toList ++
          [.char '"'] := by simp
    have hinner : ∀ c ∈ value.toList, c ≠ '"' ∧ c ≠ '\n' :=
      fun c hc => ⟨fun heq => hquotes (heq ▸ hc), hnewline c hc⟩
    have hline : Line.IsText ("string " ++ name ++ " = \"" ++ value ++ "\"") :=
      Line.isText_quoted (by rw [hlist, List.append_nil]) rfl (by decide) (.inl rfl)
        (hfront _ (by decide)) hunbroken
    have hdefinition (line : Line)
        (htext : line.text = "string " ++ name ++ " = \"" ++ value ++ "\"") :
        Action.definition? (.ofLine line) = some (.string, name.toList, value.toList) :=
      Action.definition?_string hname hinner hstraight hlast (by rw [htext, hlist])
    exact Exec.runPrints_definition hid hhost hline (by rw [hlist]; exact ⟨rfl, rfl⟩) hdefinition
      hname hsize hfits hquiet disk base file
  · intro ending hending
    have hends : ending.toList = [] ∨ ending.toList = [.char ';'] := by
      rcases List.mem_pair.1 hending with rfl | rfl <;> decide
    have hlist : ("@VAL " ++ name ++ " = \"" ++ value ++ "\"" ++ ending).toList =
        Text.toList "@VAL " ++ name.toList ++ Text.toList " = \"" ++ value.toList ++ [.char '"'] ++
          ending.toList := by simp
    have hline : Line.IsText ("@VAL " ++ name ++ " = \"" ++ value ++ "\"" ++ ending) :=
      Line.isText_quoted hlist rfl (by decide) hends (hfront _ (by decide)) hunbroken
    have hdefinition (line : Line)
        (htext : line.text = "@VAL " ++ name ++ " = \"" ++ value ++ "\"" ++ ending) :
        Action.definition? (.ofLine line) = some (.value, name.toList, value.toList) :=
      Action.definition?_value hname hnewline hstraight hends (by rw [htext, hlist])
    exact Exec.runPrints_definition hid hhost hline (by rw [hlist]; exact ⟨rfl, rfl⟩) hdefinition
      hname hsize hfits hquiet disk base file

/-- Values with blanks at their ends, quotes and semicolons, in the middle of a run, with a budget
and a reaction to another line. -/
theorem definitions_print_back_of_quotes :
    let s : Session :=
      { host := some { surface := .buffer {}, executing := [0] }
        interpreters := #[{ store := ({} : Store).setBudget 40, depth := 3, activeRuns := 1 }]
        reactions := [("a", .reset)] }
    (0 < s.interpreters.size ∧ s.host.isSome ∧ Text.IsName (Text.toList "x") ∧
      (∀ value ∈ ([" a; ", " \"a\";"] : List Text),
        (∀ c ∈ value.toList, Text.isLineBreak c = false ∧
        straightQuote c = c) ∧ Session.takeReaction? value s.reactions = none)) ∧
    s.RunPrints Disk.blank 0 (Text.intercalate "\n" ["string x = \" a; \"", "print @x"]) {} none
      [" a; "] ∧
    s.RunPrints Disk.blank 0 (Text.intercalate "\n" ["@VAL x = \" \"a\";\";", "print @x"]) {} none
      [" \"a\";"] ∧
    s.RunPrints Disk.blank 0 "print \" \"a\";\"" {} none [" \"a\";"] := by
  intro s
  have hvalues : ∀ value ∈ ([" a; ", " \"a\";"] : List Text),
    (∀ c ∈ value.toList, Text.isLineBreak c = false ∧
      straightQuote c = c) ∧ Session.takeReaction? value s.reactions = none := by decide +kernel
  obtain ⟨hplain, hreaction⟩ := hvalues _ List.mem_cons_self
  obtain ⟨hquoted, hreaction'⟩ := hvalues _ (List.mem_cons_of_mem _ List.mem_cons_self)
  have hname : Text.IsName (Text.toList "x") := by decide +kernel
  have hsize : valueSize (s.interpreter 0).config.valueOverhead (s.interpreter 0).config.codec
      " a; " = .ok 20 := by decide +kernel
  have hsize' : valueSize (s.interpreter 0).config.valueOverhead (s.interpreter 0).config.codec
      " \"a\";" = .ok 21 := by decide +kernel
  have hbudget : (s.interpreter 0).store.budget = some { ceiling := 40 } := rfl
  obtain ⟨hdefinitions, htexts⟩ :=
    definitions_print_back s Disk.blank 0 {} none (by decide) (by decide)
  obtain ⟨hstring, -⟩ := hdefinitions "x" " a; " 20 hname hplain hsize
    (by rw [hbudget]; rintro _ ⟨⟩; decide) hreaction
  obtain ⟨-, hvalue⟩ := hdefinitions "x" " \"a\";" 21 hname hquoted hsize'
    (by rw [hbudget]; rintro _ ⟨⟩; decide) hreaction'
  have hprinted := htexts " \"a\";" (fun c hc => (hquoted c hc).1) hreaction'
  have hdefined := hstring (by decide) (by decide)
  have hdefined' := hvalue ";" (by decide)
  simp only [Text.ofString_append, String.reduceAppend] at hdefined hdefined' hprinted
  exact ⟨⟨by decide, rfl, hname, hvalues⟩, hdefined, hdefined', hprinted⟩

end LineScript
