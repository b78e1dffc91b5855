import LineScript.Proofs.Script.Header
import LineScript.Proofs.Session.RoundTrip

/-! # Arguments of calls

The arguments of a call are written between brackets, with a comma and a space between them. They
are bound in the frame of the call, and each activation has its own frame. So a body sees the
arguments of its own call, before and after the calls that it makes itself.
-/

namespace LineScript

/-! ## Reading arguments back -/

/-- What holds of the characters of the separator and the pieces holds of those of the joined
text. -/
theorem forall_mem_intercalate {P : CodePoint → Prop} {separator : Text} {pieces : List Text}
    (hseparator : ∀ c ∈ separator.toList, P c)
    (hpieces : ∀ piece ∈ pieces, ∀ c ∈ piece.toList, P c) :
    ∀ c ∈ (separator.intercalate pieces).toList, P c := by
  induction pieces with
  | nil => simp
  | cons piece pieces ih =>
      obtain ⟨hpiece, hrest⟩ := List.forall_mem_cons.1 hpieces
      cases pieces with
      | nil => rwa [Text.intercalate_singleton]
      | cons next pieces =>
          rw [Text.intercalate_cons_cons, Text.toList_append, Text.toList_append]
          exact List.forall_mem_append.2 ⟨List.forall_mem_append.2 ⟨hpiece, hseparator⟩, ih hrest⟩

/-- Pieces that are joined with commas and spaces are cut apart at the commas. The spaces stay. -/
theorem Text.splitAt_intercalate {first : List CodePoint} {more : List (List CodePoint)}
    (h : ∀ piece ∈ first :: more, .char ',' ∉ piece) :
    Text.splitAt (.char ',') ((Text.toList ", ").intercalate (first :: more)) =
      first :: more.map (.char ' ' :: ·) := by
  induction more generalizing first with
  | nil =>
      rw [List.intercalate_singleton]
      exact Text.splitAt_of_not_mem (h first List.mem_cons_self)
  | cons next more ih =>
      obtain ⟨hfirst, hrest⟩ := List.forall_mem_cons.1 h
      have hjoined : (Text.toList ", ").intercalate (first :: next :: more) =
          first ++ .char ',' :: .char ' ' :: (Text.toList ", ").intercalate (next :: more) := by
        rw [List.intercalate_cons_cons]
        simp
      rw [hjoined, Text.splitAt_append_separator hfirst, Text.splitAt, if_neg (by decide), ih hrest]
      rfl

namespace Action

/-- A text that can be written as an argument: trimmed, without commas, double quotes, other ways to
write quotes, and line breaks. -/
structure IsArgument (argument : Text) : Prop where
  trimmed : Text.trim argument.toList = argument.toList
  noComma : .char ',' ∉ argument.toList
  noQuote : .char '"' ∉ argument.toList
  straight : ∀ c ∈ argument.toList, straightQuote c = c
  unbroken : ∀ c ∈ argument.toList, Text.isLineBreak c = false

variable {first : Text} {more : List Text}

theorem IsArgument.read {argument : Text} (h : IsArgument argument) (left : List CodePoint)
    (hleft : ∀ c ∈ left, Text.isBlank c = true) :
    Text.ofList ((Text.trim (left ++ argument.toList)).filter (· ≠ CodePoint.char '"')) =
      argument := by
  rw [Text.trim_append_left hleft, h.trimmed, List.filter_eq_self.2, Text.ofList_toList]
  intro c hc
  simpa using fun heq : c = '"' => h.noQuote (heq ▸ hc)

theorem not_isBlankText_arguments (harguments : ∀ argument ∈ first :: more, IsArgument argument)
    (hne : first :: more ≠ [.ofString ""]) :
    Text.isBlankText (Text.intercalate ", " (first :: more)) = false := by
  rw [← Bool.not_eq_true, Text.isBlankText, Text.toList_intercalate, List.all_eq_true]
  intro hblank
  cases more with
  | nil =>
      apply hne
      have hfirst : Text.trim first.toList = [] := by
        apply Text.trim_eq_nil.2
        simpa using hblank
      rw [(harguments first List.mem_cons_self).trimmed] at hfirst
      rw [Text.toList_eq_nil.1 hfirst]
  | cons next more =>
      have hcomma : Text.isBlank ',' = true := by
        apply hblank
        rw [List.map_cons, List.map_cons, List.intercalate_cons_cons]
        simp
      cases hcomma

theorem callArguments_intercalate (harguments : ∀ argument ∈ first :: more, IsArgument argument)
    (hne : first :: more ≠ [.ofString ""]) :
    callArguments (some (Text.intercalate ", " (first :: more))) = first :: more := by
  have hstraight : straightQuotes (Text.intercalate ", " (first :: more)) =
      Text.intercalate ", " (first :: more) := by
    apply straightQuotes_eq_self
    exact forall_mem_intercalate (by decide) fun argument h => (harguments argument h).straight
  have hcommas : ∀ piece ∈ first.toList :: more.map Text.toList, .char ',' ∉ piece := by
    intro piece hpiece
    obtain ⟨argument, hargument, rfl⟩ := List.mem_map.1 (by simpa using hpiece :
      piece ∈ (first :: more).map Text.toList)
    exact (harguments argument hargument).noComma
  obtain ⟨hfirst, hmore⟩ := List.forall_mem_cons.1 harguments
  simp only [callArguments, not_isBlankText_arguments harguments hne, hstraight,
    Text.toList_intercalate, List.map_cons, Text.splitAt_intercalate hcommas, List.map_map]
  refine congrArg₂ List.cons (hfirst.read [] (by simp)) ?_
  calc more.map _ = more.map id :=
        List.map_congr_left fun argument hargument =>
          (hmore argument hargument).read [.char ' '] (by decide)
    _ = more := List.map_id more

theorem unbroken_arguments (harguments : ∀ argument ∈ first :: more, IsArgument argument) :
    ∀ c ∈ (Text.intercalate ", " (first :: more)).toList, Text.isLineBreak c = false :=
  forall_mem_intercalate (by decide) fun argument h => (harguments argument h).unbroken

/-- A call with its arguments binds them, below the depth limit. -/
theorem of_call_arguments {config : Config} {frame : Frame} {store : Store} {line : Line}
    {name : Text} (hname : Text.IsName name.toList)
    (harguments : ∀ argument ∈ first :: more, IsArgument argument)
    (hne : first :: more ≠ [.ofString ""])
    (htext : line.text = "call " ++ name ++ "[" ++ Text.intercalate ", " (first :: more) ++ "]") :
    of config frame store (.ofLine line) = nested config frame (.call name (first :: more)) := by
  have hlist : line.text.toList = Text.toList "call " ++ name.toList ++
      .char '[' :: ((Text.intercalate ", " (first :: more)).toList ++ [.char ']']) := by
    rw [htext]
    simp
  have hends : ∀ c ∈ (.char '[' :: ((Text.intercalate ", " (first :: more)).toList ++
    [.char ']'])).getLast?,
      Text.isBlank c = false := by
    rw [← List.cons_append, List.getLast?_concat]
    decide
  have hunbroken : .char '\n' ∉ (Text.intercalate ", " (first :: more)).toList := by
    intro hbreak
    cases unbroken_arguments harguments _ hbreak
  rw [of_written_call hname (.cons (by decide) _) hends hlist, bracketed?_brackets hunbroken,
    Option.map_some, Text.ofList_toList, Text.ofList_toList,
    callArguments_intercalate harguments hne]

end Action

/-! ## Activations have their own arguments -/

namespace Exec

open Session

variable {disk : Disk} {say : Text → Exec Unit} {id : Nat} {s t : Session}

/-- Places inside an activation lie deeper, so those at the level of some lines share their
frame. -/
theorem Reaches.frame_eq {around : List Opening} {frame : Frame} {ls : List Line} {p : Place}
    (h : Reaches disk say around id frame ls s p) :
    around.length ≤ p.around.length ∧ (p.around.length = around.length → p.frame = frame) := by
  induction h with
  | here => exact ⟨Nat.le_refl _, fun _ => rfl⟩
  | plain _ _ ih => exact ih
  | inside _ _ ih =>
      rw [List.length_cons] at ih
      exact ⟨by omega, fun hlevel => by omega⟩
  | past _ _ _ _ ih => exact ih

theorem frame_of_openCall {name : Text} {arguments : List Text} {frame : Frame}
    {opening : Opening} (h : openCall id name arguments frame s = (.ok opening, t)) :
    opening.frame = frame.enter name arguments := by
  unfold openCall at h
  obtain ⟨i, u, -, h⟩ := bind_ok h
  split at h
  · cases h
    rfl
  · cases h
    rfl

theorem frame_of_call {p : Place} {opening : Opening} {name : Text} {arguments : List Text}
    (haction : p.action = Action.nested (p.session.interpreter p.interpreter).config p.frame
      (.call name arguments))
    (hstep : stepAt disk say p = (.ok (some opening), t)) :
    opening.frame = p.frame.enter name arguments := by
  unfold Action.nested at haction
  split at haction
  · obtain ⟨u, hrefused, -⟩ := step_refused disk say haction
    cases hrefused.symm.trans hstep
  · rw [stepAt_eq, haction] at hstep
    obtain ⟨found, u, hopened, hfound⟩ := bind_ok hstep
    cases hfound
    exact frame_of_openCall hopened

theorem prints_executeLine_call {frame : Frame} {line : Line} {opening : Opening} {u : Session}
    {levels : Nat} {shown : List Text}
    (hstep : step disk say id frame line s = (.ok (some opening), t))
    (hcall : opening.script = none) (hstepped : Prints s t [])
    (hbody : each (executeLine disk say (lines disk say levels) opening.interpreter opening.frame)
      opening.lines (t.enter opening.interpreter opening.frame) = (.ok (), u))
    (hprints : Prints (t.enter opening.interpreter opening.frame) u shown) :
    ∃ v, executeLine disk say (lines disk say (levels + 1)) id frame line s = (.ok (), v) ∧
      Prints s v shown := by
  refine ⟨u.leave opening.interpreter (t.interpreter opening.interpreter).depth, ?_, ?_⟩
  · rw [executeLine, bind_apply, hstep]
    simp only [complete, hcall, lines]
    rw [activation_apply, hbody]
  · have hentered := hstepped.trans (.enter t opening.interpreter opening.frame)
    simpa using (hentered.trans hprints).trans (.leave u opening.interpreter _)

end Exec

/-! ## A function that prints its argument -/

/-- The lines that define a function which prints its first argument, and a call of it. -/
def echoScript (name : Text) (arguments : List Text) : List Text :=
  ["function " ++ name ++ " \x7b", "print @ARGUMENTS.STRING", "\x7d",
    "call " ++ name ++ "[" ++ Text.intercalate ", " arguments ++ "]"]

section Echo

variable {name first : Text} {more : List Text} (hname : Text.IsName name.toList)
  (harguments : ∀ argument ∈ first :: more, Action.IsArgument argument)

include hname

theorem Segment.declaredName?_written :
    Segment.declaredName? ("function " ++ name ++ " \x7b") = some name := by
  rw [Segment.declaredName?_eq_some]
  refine ⟨_, .start ⟨name.toList, ?_⟩, ?_⟩
  all_goals
    refine ⟨[.char ' '], Text.toList " \x7b", by decide, hname, by decide, ?_⟩
    simp

include harguments

theorem isText_echoScript : ∀ text ∈ echoScript name (first :: more), Line.IsText text := by
  have hheader : Line.IsText ("function " ++ name ++ " \x7b") := by
    have hlist : ("function " ++ name ++ " \x7b").toList =
        Text.toList "function " ++ name.toList ++ [.char ' '] ++ [.char '\x7b'] := by simp
    refine .of_ends (by rw [hlist]; rfl) (c := 'f') (by decide) ?_ ?_
    · rw [hlist, List.getLast?_concat]
      decide
    · rw [hlist]
      simp only [List.forall_mem_append]
      exact ⟨⟨⟨by decide, hname.unbroken⟩, by decide⟩, by decide⟩
  have hcall : Line.IsText
      ("call " ++ name ++ "[" ++ Text.intercalate ", " (first :: more) ++ "]") := by
    have hlist : ("call " ++ name ++ "[" ++ Text.intercalate ", " (first :: more) ++ "]").toList =
        Text.toList "call " ++ name.toList ++ [.char '['] ++
          (Text.intercalate ", " (first :: more)).toList ++
          [.char ']'] := by simp
    refine .of_ends (by rw [hlist]; rfl) (c := 'c') (by decide) ?_ ?_
    · rw [hlist, List.getLast?_concat]
      decide
    · rw [hlist]
      simp only [List.forall_mem_append]
      exact ⟨⟨⟨⟨by decide, hname.unbroken⟩, by decide⟩, Action.unbroken_arguments harguments⟩,
        by decide⟩
  simp only [echoScript, List.forall_mem_cons]
  refine ⟨hheader, ⟨by decide, by decide, by decide⟩, ⟨by decide, by decide, by decide⟩, hcall, ?_⟩
  simp

omit harguments in
theorem Segment.ofLines_echoScript {ls : List Line}
    (h : ls.map (·.text) = echoScript name (first :: more)) :
    ∃ header body closing call : Line, body.text = "print @ARGUMENTS.STRING" ∧
      call.text = "call " ++ name ++ "[" ++ Text.intercalate ", " (first :: more) ++ "]" ∧
      Segment.ofLines ls = [.function header name [body] closing, .statement call] := by
  obtain ⟨header, rest, rfl, hheader, h⟩ := List.map_eq_cons_iff.1 h
  obtain ⟨body, rest, rfl, hbody, h⟩ := List.map_eq_cons_iff.1 h
  obtain ⟨closing, rest, rfl, hclosing, h⟩ := List.map_eq_cons_iff.1 h
  obtain ⟨call, rfl, hcall⟩ := List.map_eq_singleton_iff.1 h
  refine ⟨header, body, closing, call, hbody, hcall, ?_⟩
  have hblock : (Segment.function header name [body] closing).Fits [call] := by
    refine .function ?_ ?_ ?_ ?_ ?_
    · rw [hheader]
      simp only [Text.toList_append]
      rfl
    · rw [hheader]
      exact Segment.declaredName?_written hname
    · rw [hheader]
      simp
    · simp [Segment.isClosing, hbody]
    · simp [Segment.isClosing, hclosing]
  have hstatement : (Segment.statement call).Fits [] := by
    refine .statement ?_ ?_
    all_goals
      rw [hcall]
      simp only [Text.toList_append]
      rfl
  have hcut : Segmentation [header, body, closing, call]
      [.function header name [body] closing, .statement call] :=
    .cons hblock (.cons hstatement .nil)
  exact hcut.eq_ofLines.symm

end Echo

namespace Exec

open Session

variable {s : Session} {id : Nat} {name first : Text} {more : List Text}

theorem prints_call_echo {frame : Frame} {call body : Line} {routine : Routine}
    (hhost : s.host.isSome) (hquiet : takeReaction? first s.reactions = none)
    (hroutine : (s.interpreter id).store.functions.get? name = some routine)
    (hlines : routine.body = [body]) (hbody : body.text = "print @ARGUMENTS.STRING")
    (haction : s.actionOf id frame call = .call name (first :: more)) (disk : Disk)
    (count levels : Nat) :
    ∃ t, executeLine disk (say disk count) (lines disk (say disk count) (levels + 1)) id frame call
        s = (.ok (), t) ∧ Prints s t [first] := by
  let inner := frame.enter name (first :: more)
  have hstep := step_call disk (say disk count) hroutine haction
  have hcalled := Prints.traced_act s id frame call (.call name (first :: more))
  generalize (s.traced id call).act id frame call (.call name (first :: more)) = t at hstep hcalled
  have hinside := hcalled.trans (.enter t id inner)
  have hprint : (t.enter id inner).actionOf id inner body = .print first :=
    Action.of_print_argument rfl (by rw [hbody])
  obtain ⟨u, hprinted, hshown⟩ := prints_step_print (hinside.isSome_host.trans hhost)
    (by rw [hinside.reactions]; exact hquiet) hprint disk count
  refine prints_executeLine_call hstep rfl hcalled ?_ hshown
  rw [hlines, each_cons, bind_apply, executeLine_of_opened_none _ hprinted]
  rfl

theorem runPrints_echo (hid : id < s.interpreters.size) (hhost : s.host.isSome)
    (hidle : (s.interpreter id).activeRuns = 0)
    (hdepth : 1 ≤ (s.interpreter id).config.maxCallDepth) (hname : Text.IsName name.toList)
    (harguments : ∀ argument ∈ first :: more, Action.IsArgument argument)
    (hne : first :: more ≠ [.ofString ""]) (hquiet : takeReaction? first s.reactions = none)
    (disk : Disk)
    (base : Path) (file : Option Text) :
    s.RunPrints disk id (Text.intercalate "\n" (echoScript name (first :: more))) base file
      [first] := by
  have hscan := Line.map_text_scan_intercalate (isText_echoScript hname harguments) file
  obtain ⟨header, body, closing, call, hbody, hcall, hsegments⟩ :=
    Segment.ofLines_echoScript hname hscan
  have hplain : ∀ segment ∈ Segment.ofLines
      (Line.scan (Text.intercalate "\n" (echoScript name (first :: more))) file),
      segment.window? = none ∧ segment.diagnostic? = none := by
    rw [hsegments]
    simp [Segment.window?, Segment.diagnostic?]
  obtain ⟨script, t, hp, hprepared, hstatements, hframe, hfirst, hstore⟩ :=
    prints_prepare hid hhost hplain base
  rw [hsegments] at hstatements hstore
  have hlines : script.statements = [call] := hstatements
  have hbefore := hprepared.trans (.enter t id script.frame)
  have hroutine : ((t.enter id script.frame).interpreter id).store.functions.get? name =
      some { name, body := [body], location := header.location } := by
    have hcontent := interpreter_content_congr (content_enter t id script.frame) id
    rw [show ((t.enter id script.frame).interpreter id).store = (t.interpreter id).store from
      congrArg (·.2.1) hcontent, hstore]
    simp [Interpreter.taking, Segment.function?, Segment.diagnostic?, Store.addFunction,
      Table.get?_put]
  have hlimit : 0 < (s.interpreter id).config.depthLimit := by
    unfold Config.depthLimit Config.depthCap
    omega
  have haction : (t.enter id script.frame).actionOf id script.frame call =
      .call name (first :: more) := by
    rw [actionOf, Action.of_call_arguments hname harguments hne hcall, Action.nested_of_lt]
    rw [(hbefore.interpreter_eq id).1, hframe, if_pos hidle]
    exact hlimit
  obtain ⟨levels, hlevels⟩ : ∃ levels, 2 * (s.interpreter id).config.depthLimit.toNat =
    levels + 1 :=
    ⟨2 * (s.interpreter id).config.depthLimit.toNat - 1, by omega⟩
  obtain ⟨u, hexecuted, hshown⟩ := prints_call_echo (hbefore.isSome_host.trans hhost)
    (by rw [hbefore.reactions]; exact hquiet) hroutine rfl hbody haction disk s.reactions.length
    levels
  refine run_prints hp hprepared hfirst ?_ hshown
  rw [hlines, hlevels, each_cons, bind_apply, hexecuted]
  rfl

end Exec

open Exec in
/-- The arguments of a call are read back as they were written, and the body of the function sees
them. In detail: the inside of the brackets is cut into the arguments it was joined from, unless it
is empty. A function that prints its first argument prints just that, from every state in which no
run is going on and one call is allowed, if the application does not react to the line. And whatever
the body of a function does, calls other functions or runs scripts: each of its own statements that
prints the first argument, before and after, prints that of the call that it belongs to. -/
theorem arguments_reach_body :
    (∀ arguments : List Text, (∀ argument ∈ arguments, Action.IsArgument argument) →
      arguments ≠ [] →
      arguments ≠ [.ofString ""] → Action.callArguments (some (Text.intercalate ", " arguments)) =
        arguments) ∧
    (∀ (s : Session) (disk : Disk) (id : Nat) (base : Path) (file : Option Text) (name : Text)
      (first : Text) (more : List Text), id < s.interpreters.size → s.host.isSome →
      (s.interpreter id).activeRuns = 0 → 1 ≤ (s.interpreter id).config.maxCallDepth →
      Text.IsName name.toList → (∀ argument ∈ first :: more, Action.IsArgument argument) →
      first :: more ≠ [.ofString ""] → Session.takeReaction? first s.reactions = none →
      s.RunPrints disk id (Text.intercalate "\n" (echoScript name (first :: more))) base
        file [first]) ∧
    ∀ (disk : Disk) (say : Text → Exec Unit) (q p : Place) (opening : Opening) (t : Session)
      (name first : Text) (more : List Text), Text.IsName name.toList →
      (∀ argument ∈ first :: more, Action.IsArgument argument) → first :: more ≠ [.ofString ""] →
      q.line.text = "call " ++ name ++ "[" ++ Text.intercalate ", " (first :: more) ++ "]" →
      stepAt disk say q = (.ok (some opening), t) →
      Reaches disk say (opening :: q.around) opening.interpreter opening.frame opening.lines
        (t.enter opening.interpreter opening.frame) p →
      p.around = opening :: q.around → p.line.text = "print @ARGUMENTS.STRING" →
      p.action = .print first := by
  refine ⟨?_, ?_, ?_⟩
  · intro arguments harguments hnonempty hne
    cases arguments with
    | nil => exact absurd rfl hnonempty
    | cons first more => exact Action.callArguments_intercalate harguments hne
  · intro s disk id base file name first more hid hhost hidle hdepth hname harguments hne hquiet
    exact runPrints_echo hid hhost hidle hdepth hname harguments hne hquiet disk base file
  · intro disk say q p opening t name first more hname harguments hne hcall hstep hreaches haround
      htext
    have haction : q.action = Action.nested (q.session.interpreter q.interpreter).config q.frame
        (.call name (first :: more)) := by
      rw [q.action_eq]
      exact Action.of_call_arguments hname harguments hne hcall
    have hframe : p.frame = opening.frame := hreaches.frame_eq.2 (by rw [haround])
    have hbound : p.frame.arguments = first :: more := by
      rw [hframe, frame_of_call haction hstep]
      rfl
    have hlist : p.line.text.toList = Text.toList "print @ARGUMENTS.STRING" := by rw [htext]
    rw [p.action_eq]
    exact Action.of_print_argument hbound hlist

open Exec in
/-- Arguments with brackets and spaces, and a body that calls another function with an argument of
its own before it prints. -/
theorem arguments_reach_body_of_nested_call :
    let arguments : List Text := ["a [b", "c]", ""]
    let g : Routine :=
      { name := "g", body := [.ofStatement "print @ARGUMENTS.STRING"], location := {} }
    let f : Routine :=
      { name := "f", body := [.ofStatement "call g[z]", .ofStatement "print @ARGUMENTS.STRING"]
        location := {} }
    let s : Session :=
      { host := some { surface := .buffer {} }
        interpreters := #[{ config := { maxCallDepth := 2 }
                            store := (({} : Store).addFunction g).addFunction f }] }
    let q : Place :=
      { around := [], interpreter := 0, frame := { base := {} }
        line := .ofStatement "call f[a [b, c], ]", session := s }
    Action.callArguments (some "a [b, c], ") = arguments ∧
    s.RunPrints Disk.blank 0 (Text.intercalate "\n" (echoScript "h" arguments)) {} none ["a [b"] ∧
    ∃ opening t p, stepAt Disk.blank (Exec.say Disk.blank 0) q = (.ok (some opening), t) ∧
      Reaches Disk.blank (Exec.say Disk.blank 0) [opening] opening.interpreter opening.frame
        opening.lines (t.enter opening.interpreter opening.frame) p ∧
      opening.lines = [.ofStatement "call g[z]", p.line] ∧ p.action = .print "a [b" := by
  intro arguments g f s q
  obtain ⟨hread, hrun, hnested⟩ := arguments_reach_body
  have harguments : ∀ argument ∈ arguments, Action.IsArgument argument := by
    intro argument hargument
    simp only [arguments, List.mem_cons, List.not_mem_nil, or_false] at hargument
    rcases hargument with rfl | rfl | rfl
    all_goals exact ⟨by decide, by decide, by decide, by decide, by decide⟩
  have hjoined : Text.intercalate ", " arguments = "a [b, c], " := by decide
  have hline : q.line.text = "call " ++ "f" ++ "[" ++ Text.intercalate ", " arguments ++ "]" := by
    decide +kernel
  have hf : Text.IsName (Text.toList "f") := by decide +kernel
  have hh : Text.IsName (Text.toList "h") := by decide +kernel
  -- the call of the outer function, and inside it that of the inner one
  have houter := step_call Disk.blank (Exec.say Disk.blank 0)
    (show (s.interpreter 0).store.functions.get? "f" = some f from rfl)
    (show s.actionOf 0 q.frame q.line = .call "f" arguments by decide +kernel)
  let t := (s.traced 0 q.line).act 0 q.frame q.line (.call "f" arguments)
  let frame := q.frame.enter "f" arguments
  have hinner := step_call Disk.blank (Exec.say Disk.blank 0)
    (show ((t.enter 0 frame).interpreter 0).store.functions.get? "g" = some g from rfl)
    (show (t.enter 0 frame).actionOf 0 frame (.ofStatement "call g[z]") = .call "g" ["z"] by
      decide +kernel)
  let u := ((t.enter 0 frame).traced 0 (.ofStatement "call g[z]")).act 0 frame
    (.ofStatement "call g[z]") (.call "g" ["z"])
  have hprint : (u.enter 0 (frame.enter "g" ["z"])).actionOf 0 (frame.enter "g" ["z"])
      (.ofStatement "print @ARGUMENTS.STRING") = .print "z" :=
    Action.of_print_argument rfl (by decide)
  obtain ⟨v, hprinted, -⟩ := prints_step_print rfl rfl hprint Disk.blank 0
  let opening : Opening := { interpreter := 0, frame, lines := f.body }
  have hreaches : Reaches Disk.blank (Exec.say Disk.blank 0) [opening] 0 frame f.body
      (t.enter 0 frame)
      { around := [opening], interpreter := 0, frame
        line := .ofStatement "print @ARGUMENTS.STRING"
        session := v.leave 0 (u.interpreter 0).depth } :=
    .past hinner (.plain hprinted .done) rfl .here
  have htext : (Line.ofStatement "print @ARGUMENTS.STRING").text = "print @ARGUMENTS.STRING" := by
    decide
  have hlast := hnested Disk.blank (Exec.say Disk.blank 0) q _ opening t "f" _ _ hf harguments
    (by decide) hline houter hreaches rfl htext
  refine ⟨?_, ?_, opening, t, _, houter, hreaches, rfl, hlast⟩
  · rw [← hjoined]
    exact hread arguments harguments (by decide) (by decide)
  · exact hrun s Disk.blank 0 {} none "h" _ _ (by decide) rfl rfl (by decide) hh harguments
      (by decide) rfl

end LineScript
