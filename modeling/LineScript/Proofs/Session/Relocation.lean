import LineScript.Proofs.Script.Wording
import LineScript.Proofs.Session.Nesting
import LineScript.Proofs.Session.WritesFor
import LineScript.Proofs.Session.Outcome

/-! # Functions in another place

A script defines its functions before it executes its first statement, so it should not matter where
between the other segments they stand. What a move changes is the order of the function table and
the places that lines name. Sessions that differ in nothing else are akin, and executions in
sessions that are akin go the same way.
-/

namespace LineScript

def Store.bare (store : Store) : Store :=
  { store with functions := {} }

def Interpreter.bare (i : Interpreter) : Interpreter :=
  { i with store := i.store.bare }

theorem Store.bare_after (store : Store) (action : Action) :
    (store.after action).bare = store.bare.after action := by
  cases action with
  | define definition name value size =>
      have hallocate : store.bare.allocate? size = (store.allocate? size).map bare := by
        cases hbudget : store.budget with
        | none => simp [allocate?, bare, hbudget]
        | some budget =>
            simp only [allocate?, bare, hbudget, Option.map_map]
            rfl
      simp only [after, hallocate]
      cases store.allocate? size <;> rfl
  | _ => rfl

/-- The functions that there are have no part in what a statement does. -/
theorem Action.of_bare (config : Config) (frame : Frame) (store : Store) (statement : Statement) :
    of config frame store.bare statement = of config frame store statement :=
  rfl

namespace Session

def bare (s : Session) : Session :=
  { s with interpreters := s.interpreters.map Interpreter.bare }

def wordings (s : Session) : Array (Text → Option (List Text)) :=
  s.interpreters.map fun i => i.store.functions.wording?

/-- The sessions have the same outcome, apart from the order of the functions and the places of
their lines. -/
structure Akin (s t : Session) : Prop where
  outcome : t.bare.outcome = s.bare.outcome
  wordings : t.wordings = s.wordings

variable {s t : Session}

/-! ## Reading sessions that are akin -/

theorem interpreter_bare (s : Session) (id : Nat) :
    s.bare.interpreter id = (s.interpreter id).bare := by
  unfold interpreter bare
  rw [Array.getElem?_map]
  cases s.interpreters[id]? <;> rfl

theorem Akin.wording? (h : Akin s t) (id : Nat) (name : Text) :
    (t.interpreter id).store.functions.wording? name =
      (s.interpreter id).store.functions.wording? name :=
  congrFun (view_interpreter_congr (fun i => i.store.functions.wording?) h.wordings id) name

theorem config_bare_congr (h : t.bare.outcome = s.bare.outcome) (id : Nat) :
    (t.interpreter id).config = (s.interpreter id).config := by
  have hbare := config_outcome_congr h id
  rwa [interpreter_bare, interpreter_bare] at hbare

theorem Akin.store (h : Akin s t) (id : Nat) :
    (t.interpreter id).store.bare = (s.interpreter id).store.bare := by
  have hbare := store_outcome_congr h.outcome id
  rwa [interpreter_bare, interpreter_bare] at hbare

theorem Akin.codes (h : Akin s t) (id : Nat) :
    (t.interpreter id).report.codes = (s.interpreter id).report.codes := by
  have hbare := codes_outcome_congr h.outcome id
  rwa [interpreter_bare, interpreter_bare] at hbare

theorem Akin.known (h : Akin s t) (id : Nat) (name : Text) :
    (t.interpreter id).store.functions.contains name =
      (s.interpreter id).store.functions.contains name := by
  have hsome := congrArg Option.isSome (h.wording? id name)
  simpa [Table.wording?, Table.contains] using hsome

theorem Akin.body (h : Akin s t) (id : Nat) (name : Text) :
    List.Forall₂ (fun line line' => line'.text = line.text) ((s.interpreter id).store.body name)
      ((t.interpreter id).store.body name) := by
  have hwording := h.wording? id name
  unfold Table.wording? at hwording
  unfold Store.body
  cases hs : (s.interpreter id).store.functions.get? name <;>
    cases ht : (t.interpreter id).store.functions.get? name <;>
    simp only [hs, ht, Option.map_none, Option.map_some, Option.some.injEq, reduceCtorEq]
      at hwording ⊢
  · exact .nil
  · exact Line.forall₂_text hwording

/-! ## Changes on both sides -/

theorem bare_modifyInterpreter (s : Session) (id : Nat) {change change' : Interpreter → Interpreter}
    (h : ∀ i, (change i).bare = change' i.bare) :
    (s.modifyInterpreter id change).bare = s.bare.modifyInterpreter id change' := by
  unfold bare modifyInterpreter
  rw [map_modify s.interpreters id Interpreter.bare change change' h]

theorem bare_tell (s : Session) (notice : Notice) : (s.tell notice).bare = s.bare.tell notice := by
  unfold tell
  cases hhost : s.host <;> simp [bare, record, hhost]

theorem wordings_modifyInterpreter (s : Session) (id : Nat) {change : Interpreter → Interpreter}
    (h : ∀ i, (change i).store.functions = i.store.functions) :
    (s.modifyInterpreter id change).wordings = s.wordings :=
  map_modifyInterpreter s id fun i => congrArg Table.wording? (h i)

theorem wordings_tell (s : Session) (notice : Notice) : (s.tell notice).wordings = s.wordings := by
  unfold wordings
  rw [interpreters_tell]

theorem Akin.of_content {s' t' : Session} (h : Akin s t) (hs : s'.content = s.content)
    (ht : t'.content = t.content) : Akin s' t' := by
  have hbare : ∀ {u u' : Session}, u'.content = u.content → u'.bare.content = u.bare.content := by
    intro u u' hu
    have hread : ∀ u : Session, u.bare.content =
        { u.content with
          interpreters := u.content.interpreters.map fun found =>
            (found.1, found.2.1.bare, found.2.2) } := by
      intro u
      simp only [content, bare, Array.map_map]
      rfl
    rw [hread, hread, hu]
  have hwordings : ∀ {u u' : Session}, u'.content = u.content → u'.wordings = u.wordings := by
    intro u u' hu
    have hread : ∀ u : Session, u.wordings =
        u.content.interpreters.map fun found => found.2.1.functions.wording? := by
      intro u
      simp only [content, Session.wordings, Array.map_map]
      rfl
    rw [hread, hread, hu]
  constructor
  · rw [outcome_eq_of_content (hbare hs), outcome_eq_of_content (hbare ht), h.outcome]
  · rw [hwordings hs, hwordings ht, h.wordings]

theorem Akin.tell (notice : Notice) (h : Akin s t) : Akin (s.tell notice) (t.tell notice) where
  outcome := by
    rw [bare_tell, bare_tell]
    exact outcome_tell notice h.outcome
  wordings := by
    rw [wordings_tell, wordings_tell, h.wordings]

theorem snd_report (s : Session) (id : Nat) (d : Diagnostic) :
    (Exec.report id d s).2 =
      ((s.modifyInterpreter id fun i => { i with report := i.report.add d }).record
        (.logged .execution (d.format false))).tell (.debug (.diagnostic d)) :=
  rfl

theorem bare_report (s : Session) (id : Nat) (d : Diagnostic) :
    (Exec.report id d s).2.bare = (Exec.report id d s.bare).2 := by
  have hmodify : (s.modifyInterpreter id fun i => { i with report := i.report.add d }).bare =
      s.bare.modifyInterpreter id fun i => { i with report := i.report.add d } :=
    bare_modifyInterpreter s id fun _ => rfl
  rw [snd_report, snd_report, bare_tell, ← hmodify]
  rfl

theorem Akin.report {d d' : Diagnostic} (id : Nat) (hd : d'.unplaced = d.unplaced)
    (h : Akin s t) : Akin (Exec.report id d s).2 (Exec.report id d' t).2 := by
  have hwordings : ∀ (u : Session) (d : Diagnostic),
      (Exec.report id d u).2.wordings = u.wordings := by
    intro u d
    have hmodify : (u.modifyInterpreter id fun i => { i with report := i.report.add d }).wordings =
        u.wordings := wordings_modifyInterpreter u id fun _ => rfl
    rw [snd_report, wordings_tell]
    exact hmodify
  constructor
  · rw [bare_report, bare_report]
    exact outcome_report id hd h.outcome
  · rw [hwordings, hwordings, h.wordings]

theorem Akin.traced (h : Akin s t) (id : Nat) (line line' : Line) :
    Akin (s.traced id line) (t.traced id line') := by
  have hbare : ∀ (u : Session) (line : Line), (u.traced id line).bare.outcome = u.bare.outcome := by
    intro u line
    unfold Session.traced
    split
    · rw [bare_tell]
      exact outcome_debug u.bare _
    · rfl
  have hwordings : ∀ (u : Session) (line : Line), (u.traced id line).wordings = u.wordings := by
    intro u line
    unfold Session.traced
    split
    · exact wordings_tell u _
    · rfl
  constructor
  · rw [hbare, hbare, h.outcome]
  · rw [hwordings, hwordings, h.wordings]

theorem Akin.act (h : Akin s t) (id : Nat) (action : Action) :
    Akin (s.modifyInterpreter id fun i => { i with store := i.store.after action })
      (t.modifyInterpreter id fun i => { i with store := i.store.after action }) := by
  have hbare : ∀ u : Session,
      (u.modifyInterpreter id fun i => { i with store := i.store.after action }).bare =
        u.bare.modifyInterpreter id fun i => { i with store := i.store.after action } := by
    intro u
    refine bare_modifyInterpreter u id fun i => ?_
    simp only [Interpreter.bare, Store.bare_after]
  constructor
  · rw [hbare, hbare]
    exact outcome_store id (·.after action) h.outcome
  · rw [wordings_modifyInterpreter s id fun i => i.store.functions_after action,
      wordings_modifyInterpreter t id fun i => i.store.functions_after action, h.wordings]

theorem bare_addFunction (s : Session) (id : Nat) (routine : Routine) :
    (s.modifyInterpreter id fun i => { i with store := i.store.addFunction routine }).bare =
      s.bare := by
  have hsame : (s.modifyInterpreter id fun i =>
      { i with store := i.store.addFunction routine }).interpreters.map Interpreter.bare =
        s.interpreters.map Interpreter.bare := map_modifyInterpreter s id fun _ => rfl
  unfold bare
  rw [hsame]
  rfl

theorem Akin.addFunction (h : Akin s t) (id : Nat) (routine : Routine) :
    Akin (s.modifyInterpreter id fun i => { i with store := i.store.addFunction routine })
      (t.modifyInterpreter id fun i => { i with store := i.store.addFunction routine }) := by
  have hwordings : ∀ u : Session,
      (u.modifyInterpreter id fun i => { i with store := i.store.addFunction routine }).wordings =
        u.wordings.modify id fun found name =>
          if routine.name = name then some (routine.body.map (·.text)) else found name := by
    intro u
    refine map_modify u.interpreters id (fun i => i.store.functions.wording?)
      (fun i => { i with store := i.store.addFunction routine }) _ fun i => ?_
    funext name
    simp only [Table.wording?, Store.addFunction, Table.get?_put]
    split
    · rfl
    · rfl
  constructor
  · rw [bare_addFunction, bare_addFunction, h.outcome]
  · rw [hwordings, hwordings, h.wordings]

/-- Sessions that are akin are coupled, whatever places their lines name. -/
theorem akin_coupling : Coupling Akin fun line line' => line'.text = line.text where
  kin_refl _ := rfl
  kin_cited h := Statement.text_citedLine h
  host h := by
    have hbare := host_outcome_congr h.outcome
    exact hbare
  known h := h.known
  body h := h.body
  action h hline id frame _ := by
    unfold actionOf
    rw [config_bare_congr h.outcome, Action.of_ofLine_congr hline, ← Action.of_bare, h.store,
      Action.of_bare]
  codec h id := congrArg (·.codec) (config_bare_congr h.outcome id)
  title h id := congrArg (·.defaultWindowTitle) (config_bare_congr h.outcome id)
  told notice _ h := h.tell notice
  logged _ _ _ _ h := h.of_content (content_record _ rfl) (content_record _ rfl)
  sought _ h := h.of_content (content_record _ rfl) (content_record _ rfl)
  performed id f g action _ h := by
    apply Akin.act
    exact (h.traced id _ _).of_content (content_record _ rfl) (content_record _ rfl)
  added id routine h := h.addFunction id routine
  reported id d h := h.report id rfl
  refused id problem hline h := h.report id (problem.unplaced_on hline)
  entered id frame frame' h := h.of_content (content_enter _ id frame) (content_enter _ id frame')
  left id depth depth' h := h.of_content (content_leave _ id depth) (content_leave _ id depth')
  begun id h := h.of_content (content_beginRun _ id) (content_beginRun _ id)
  ended id h := h.of_content (content_endRun _ id) (content_endRun _ id)

theorem wordings_ext (hsize : t.interpreters.size = s.interpreters.size)
    (h : ∀ id name, (t.interpreter id).store.functions.wording? name =
      (s.interpreter id).store.functions.wording? name) : t.wordings = s.wordings := by
  apply Array.ext
  · simp [wordings, hsize]
  · intro id hid hid'
    simp only [wordings, Array.size_map] at hid hid'
    have hi := h id
    simp only [interpreter, Array.getElem?_eq_getElem hid, Array.getElem?_eq_getElem hid',
      Option.getD_some] at hi
    simp only [wordings, Array.getElem_map]
    exact funext hi

end Session

/-! ## The structural pass -/

/-- What the structural pass shows of a segment. A function shows nothing. -/
def Segment.shown? : Segment → Option Segment
  | .function _ _ _ _ => none
  | segment => some segment.unplaced

theorem Segment.shown?_unplaced (segment : Segment) : segment.unplaced.shown? = segment.shown? := by
  cases segment <;> simp [shown?, unplaced, Line.unplaced]

theorem Segment.map_text_statements (segments : List Segment) :
    ((segments.filterMap shown?).filterMap statement?).map (·.text) =
      (segments.filterMap statement?).map (·.text) := by
  rw [List.filterMap_filterMap, List.map_filterMap, List.map_filterMap]
  congr 1
  funext segment
  cases segment <;> rfl

namespace Exec

open Session

variable {id : Nat} {base : Path} {s t : Session}

theorem snd_takeSegments_cons (id : Nat) (base : Path) (segment : Segment)
    (segments : List Segment) (s : Session) :
    (takeSegments id base (segment :: segments) s).2 =
      (takeSegments id base segments (takeSegment id base segment s).2).2 := by
  obtain ⟨opened, t, ht, -⟩ := calm_takeSegment id base segment s
  obtain ⟨windows, u, hu, -⟩ := calm_takeSegments id base segments t
  simp only [takeSegments, bind_apply, ht, hu, pure_apply]

theorem bare_addFunction_apply (id : Nat) (routine : Routine) (s : Session) :
    ∃ t, addFunction id routine s = (.ok (), t) ∧ t.bare.outcome = s.bare.outcome := by
  unfold addFunction
  simp only [bind_apply, interpreter]
  split
  · exact ⟨_, rfl, (congrArg outcome (bare_addFunction _ id routine)).trans
      (outcome_eq_of_content (content_record s.bare rfl))⟩
  · exact ⟨_, rfl, congrArg outcome (bare_addFunction s id routine)⟩

theorem bare_takeSegment_function (header : Line) (name : Text) (body : List Line)
    (closing : Line) :
    (takeSegment id base (.function header name body closing) s).2.bare.outcome =
      s.bare.outcome := by
  obtain ⟨t, ht, hbare⟩ :=
    bare_addFunction_apply id { name, body, location := header.location } s
  simp only [takeSegment, bind_apply, ht]
  exact hbare

theorem bare_openWindow (body : List Text) (h : t.bare.outcome = s.bare.outcome) :
    (openWindow id base body t).2.bare.outcome = (openWindow id base body s).2.bare.outcome := by
  have hopened : ∀ u : Session, (openWindow id base body u).2.bare.outcome =
      (u.bare.tell (.opened
        { window := Window.ofBody body (u.interpreter id).config.defaultWindowTitle
          owner := id, base })).outcome := by
    intro u
    refine (congrArg outcome (bare_tell _ _)).trans (outcome_tell _ ?_)
    exact outcome_eq_of_content (content_record u.bare rfl)
  rw [hopened, hopened, config_bare_congr h]
  exact outcome_tell _ h

theorem bare_takeSegment_shown {segment segment' : Segment}
    (hshown : segment.shown? = some segment')
    (h : t.bare.outcome = s.bare.outcome) :
    (takeSegment id base segment' t).2.bare.outcome =
      (takeSegment id base segment s).2.bare.outcome := by
  cases segment with
  | function header name body closing => cases hshown
  | statement line =>
      cases hshown
      exact h
  | window header body closing =>
      cases hshown
      have htexts : (body.map Line.unplaced).map (·.text) = body.map (·.text) := by
        rw [List.map_map]
        rfl
      change (openWindow id base ((body.map Line.unplaced).map (·.text)) t).2.bare.outcome =
        (openWindow id base (body.map (·.text)) s).2.bare.outcome
      rw [htexts]
      exact bare_openWindow _ h
  | inlineWindow header body =>
      cases hshown
      exact bare_openWindow body h
  | rejected header problem =>
      cases hshown
      change (report id (problem.on header.unplaced) t).2.bare.outcome =
        (report id (problem.on header) s).2.bare.outcome
      rw [bare_report, bare_report]
      exact outcome_report id (problem.unplaced_on rfl) h

/-- Apart from the functions, the structural pass rests on what segments show. -/
theorem bare_takeSegments (segments : List Segment) (h : t.bare.outcome = s.bare.outcome) :
    (takeSegments id base (segments.filterMap Segment.shown?) t).2.bare.outcome =
      (takeSegments id base segments s).2.bare.outcome := by
  induction segments generalizing s t with
  | nil => exact h
  | cons segment segments ih =>
      rw [snd_takeSegments_cons]
      cases hshown : segment.shown? with
      | none =>
          rw [List.filterMap_cons_none hshown]
          cases segment with
          | function header name body closing =>
              apply ih
              rw [bare_takeSegment_function, h]
          | _ => cases hshown
      | some segment' =>
          rw [List.filterMap_cons_some hshown, snd_takeSegments_cons]
          exact ih (bare_takeSegment_shown hshown h)

theorem wording?_takeSegments {segments : List Segment} {windows : List OpenWindow}
    (hid : id < s.interpreters.size) (h : takeSegments id base segments s = (.ok windows, t))
    (other : Nat) (name : Text) :
    (t.interpreter other).store.functions.wording? name =
      if other = id then
        ((((Segment.wordings segments).filter (·.1 = name)).getLast?).map (·.2)).or
          ((s.interpreter id).store.functions.wording? name)
      else (s.interpreter other).store.functions.wording? name := by
  by_cases hother : other = id
  · obtain ⟨t', ht', hi⟩ := takeSegments_apply hid base segments
    obtain ⟨-, rfl⟩ := Prod.mk.inj (ht'.symm.trans h)
    rw [if_pos hother, hother, hi, ((s.interpreter id).foldl_taking segments).2.1,
      Table.wording?_foldl_put]
  · have hserved := (serves_takeSegments id base segments s).served
    rw [h] at hserved
    rw [if_neg hother, hserved.others other hother]

/-- Scripts that show the same and define functions of the same wording are taken alike. -/
theorem akin_takeSegments {segments segments' : List Segment} {windows windows' : List OpenWindow}
    {u : Session} (hid : id < s.interpreters.size)
    (hshown : segments'.filterMap Segment.shown? = segments.filterMap Segment.shown?)
    (hwordings : ∀ name, (Segment.wordings segments').filter (·.1 = name) =
      (Segment.wordings segments).filter (·.1 = name))
    (h : takeSegments id base segments s = (.ok windows, t))
    (h' : takeSegments id base segments' s = (.ok windows', u)) : Akin t u := by
  have hserved := (serves_takeSegments id base segments s).served
  have hserved' := (serves_takeSegments id base segments' s).served
  rw [h] at hserved
  rw [h'] at hserved'
  constructor
  · have hbare : ∀ segments : List Segment,
        (takeSegments id base (segments.filterMap Segment.shown?) s).2.bare.outcome =
          (takeSegments id base segments s).2.bare.outcome := fun segments =>
      bare_takeSegments segments rfl
    have hboth := hbare segments'
    rw [hshown, hbare segments, h, h'] at hboth
    exact hboth.symm
  · refine wordings_ext (hserved'.size.trans hserved.size.symm) fun other name => ?_
    rw [wording?_takeSegments hid h, wording?_takeSegments hid h', hwordings]

/-- Scripts that show the same and define functions of the same wording are run alike. -/
theorem match_run_alike {disk : Disk} {say : Text → Exec Unit}
    (hsay : ∀ text, Matches Akin Eq (say text) (say text))
    (hbalanced : ∀ text, Balanced (say text)) {source source' : Text} {file file' : Option Text}
    (hid : id < s.interpreters.size)
    (hshown : (Segment.ofLines (Line.scan source' file')).filterMap Segment.shown? =
      (Segment.ofLines (Line.scan source file)).filterMap Segment.shown?)
    (hwordings : ∀ name,
      (Segment.wordings (Segment.ofLines (Line.scan source' file'))).filter (·.1 = name) =
        (Segment.wordings (Segment.ofLines (Line.scan source file))).filter (·.1 = name)) :
    Match Akin (fun _ _ => True) (run disk say id source base file s)
      (run disk say id source' base file' s) := by
  obtain ⟨windows, t, htaken, -⟩ :=
    calm_takeSegments id base (Segment.ofLines (Line.scan source file)) s
  obtain ⟨windows', t', htaken', -⟩ :=
    calm_takeSegments id base (Segment.ofLines (Line.scan source' file')) s
  have hakin : Akin t t' := akin_takeSegments hid hshown hwordings htaken htaken'
  obtain ⟨script, script', u, v, hp, hp', hlines, hlines', hframe, hR, hnesting⟩ :=
    prepare_coupled akin_coupling rfl htaken htaken' hakin
  have htexts : script'.statements.map (·.text) = script.statements.map (·.text) := by
    rw [hlines, hlines', ← Segment.map_text_statements, hshown, Segment.map_text_statements]
  refine match_run akin_coupling hp hp' (fun _ _ _ => trivial) ?_
  rw [hframe]
  exact match_each_lines akin_coupling hsay hbalanced _ (Line.forall₂_text htexts)
    (akin_coupling.entered id _ _ hR) (nesting_enter_congr hnesting id _)

end Exec

open Exec in
/-- A function that alone has its name can stand anywhere between the segments of a script that
leaves no block open: the script that has it in another place is run alike, in any state of the
interpreter. Both runs return or break off with the same fault; they print the same lines, open and
update the same windows, leave the same variables, sizes and budget and functions with the same
bodies, and report the same, apart from the places that diagnostics name. -/
theorem run_agrees_after_moving_function (s : Session) (disk : Disk) (id : Nat)
    (source moved : Text) (base : Path) (file : Option Text)
    (before after left right : List Segment) (header closing : Line) (name : Text)
    (body : List Line) (hid : id < s.interpreters.size) (hplain : s.reactions = [])
    (hclosed : (Outline.ofLines (Line.scan source file)).Closed)
    (hsegments : Segment.ofLines (Line.scan source file) =
      before ++ .function header name body closing :: after)
    (honce : ∀ other ∈ (before ++ after).filterMap Segment.function?, other.name ≠ name)
    (hplace : left ++ right = before ++ after)
    (hmoved : (Line.scan moved file).map (·.text) =
      ((left ++ .function header name body closing :: right).flatMap Segment.lines).map (·.text)) :
    let ran := s.run disk id source base file
    let again := s.run disk id moved base file
    again.1.map (fun _ => ()) = ran.1.map (fun _ => ()) ∧
    again.2.bare.outcome = ran.2.bare.outcome ∧
    (∀ other name, (again.2.interpreter other).store.functions.wording? name =
      (ran.2.interpreter other).store.functions.wording? name) ∧
    ∀ other, (again.2.interpreter other).report.codes =
      (ran.2.interpreter other).report.codes := by
  intro ran again
  have hbalanced : ∀ text, Balanced (Exec.say disk 0 text) := within_say disk Session.books_law 0
  have hsay : ∀ text, Matches Session.Akin Eq (Exec.say disk 0 text) (Exec.say disk 0 text) :=
    fun text => matches_tell Session.akin_coupling _
  -- the moved script is cut into the same segments, apart from places
  have hsettled : ∀ segment ∈ left ++ .function header name body closing :: right,
      segment.Settled := by
    intro segment hsegment
    apply hclosed.settled
    rw [hsegments, List.perm_middle.mem_iff, ← hplace]
    exact List.perm_middle.mem_iff.1 hsegment
  have hcut := Segment.ofLines_of_texts hsettled hmoved
  have hshown := Segment.filterMap_move Segment.shown?_unplaced rfl hcut hplace
  have hwordings : ∀ other,
      (Segment.wordings (Segment.ofLines (Line.scan moved file))).filter (·.1 = other) =
        (Segment.wordings (Segment.ofLines (Line.scan source file))).filter (·.1 = other) := by
    intro other
    rw [← Segment.wordings_unplaced, hcut, Segment.wordings_unplaced, hsegments]
    exact Segment.filter_wordings_move rfl honce hplace other
  rw [← hsegments] at hshown
  have hmatch : Match Session.Akin (fun _ _ => True) ran again := by
    simp only [ran, again, Session.run_plain disk id _ base file hplain]
    exact match_run_alike hsay hbalanced hid hshown hwordings
  have hakin := hmatch.sessions
  exact ⟨hmatch.ends, hakin.outcome, hakin.wording?, hakin.codes⟩

/-- The function is called before it is defined, and takes the place of one that was there before.
It goes from between a statement and another function to the end of the script. -/
theorem run_agrees_after_moving_function_to_end :
    let disk : Disk := { Disk.blank with read := fun _ => .error .notFound }
    let f : Routine := { name := "f", body := [], location := {} }
    let s : Session :=
      { host := some { surface := .buffer {} }
        interpreters := #[{ store := ({} : Store).addFunction f }] }
    let source := "call f\nfunction f \x7b\nprint @y\n\x7d\nfunction g \x7b\n\x7d\nprint 1"
    let moved := "call f\nfunction g \x7b\n\x7d\nprint 1\nfunction f \x7b\nprint @y\n\x7d"
    let line (text : Text) (number : Nat) : Line :=
      { text, location := { line := some number }, sourceLine := some number }
    let before : List Segment := [.statement (line "call f" 1)]
    let after : List Segment :=
      [.function (line "function g \x7b" 5) "g" [] (line "\x7d" 6), .statement (line "print 1" 7)]
    let block : Segment :=
      .function (line "function f \x7b" 2) "f" [line "print @y" 3] (line "\x7d" 4)
    let ran := s.run disk 0 source {} none
    let again := s.run disk 0 moved {} none
    (0 < s.interpreters.size ∧ s.reactions = [] ∧ (Outline.ofLines (Line.scan source none)).Closed ∧
      Segment.ofLines (Line.scan source none) = before ++ block :: after ∧
      (∀ other ∈ (before ++ after).filterMap Segment.function?, other.name ≠ "f") ∧
      (before ++ after) ++ [] = before ++ after ∧
      (Line.scan moved none).map (·.text) =
        ((before ++ after ++ [block]).flatMap Segment.lines).map (·.text)) ∧
    again.2.bare.outcome = ran.2.bare.outcome ∧
    (again.2.interpreter 0).report.codes = (ran.2.interpreter 0).report.codes ∧
    (ran.2.interpreter 0).report.codes = ["E301", "E209"] := by
  intro disk f s source moved line before after block
  have hclosed : (Outline.ofLines (Line.scan source none)).Closed := by decide +kernel
  have hsegments : Segment.ofLines (Line.scan source none) = before ++ block :: after := by
    decide +kernel
  have honce : ∀ other ∈ (before ++ after).filterMap Segment.function?, other.name ≠ "f" := by
    decide +kernel
  have hmoved : (Line.scan moved none).map (·.text) =
      ((before ++ after ++ [block]).flatMap Segment.lines).map (·.text) := by decide +kernel
  obtain ⟨-, houtcome, -, hcodes⟩ := run_agrees_after_moving_function s disk 0 source moved {} none
    before after (before ++ after) [] (line "function f \x7b" 2) (line "\x7d" 4) "f"
    [line "print @y" 3] (by decide) rfl hclosed hsegments honce (List.append_nil _) hmoved
  exact ⟨⟨by decide, rfl, hclosed, hsegments, honce, List.append_nil _, hmoved⟩, houtcome,
    hcodes 0, by decide +kernel⟩

end LineScript
