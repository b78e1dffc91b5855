import LineScript.Proofs.Script.Concatenation

/-! # Scripts with the same wording

The structural pass looks at the texts of lines, and not at the places where they stand. So scripts
whose lines have the same texts are cut into segments that differ in places only, and the functions
that they define have the same wording.
-/

namespace LineScript

def Line.unplaced (line : Line) : Line :=
  { text := line.text }

theorem Line.map_unplaced {ls ls' : List Line} (h : ls'.map (·.text) = ls.map (·.text)) :
    ls'.map Line.unplaced = ls.map Line.unplaced := by
  have hread : ∀ ls : List Line,
      ls.map Line.unplaced = (ls.map (·.text)).map fun text => ({ text } : Line) := by
    intro ls
    rw [List.map_map]
    rfl
  rw [hread, hread, h]

namespace Segment

def unplaced : Segment → Segment
  | .statement line => .statement line.unplaced
  | .function header name body closing =>
    .function header.unplaced name (body.map Line.unplaced) closing.unplaced
  | .window header body closing =>
    .window header.unplaced (body.map Line.unplaced) closing.unplaced
  | .inlineWindow header body => .inlineWindow header.unplaced body
  | .rejected header problem => .rejected header.unplaced problem

theorem functionBody?_unplaced (ls : List Line) :
    functionBody? (ls.map Line.unplaced) =
      (functionBody? ls).map fun found => (found.1.map Line.unplaced, found.2.unplaced) := by
  induction ls with
  | nil => rfl
  | cons line ls ih =>
      rw [List.map_cons, functionBody?, functionBody?, ih]
      have hclosing : isClosing line.unplaced = isClosing line := rfl
      rw [hclosing]
      split
      · rfl
      · rw [Option.map_map, Option.map_map]
        rfl

theorem windowBody?_unplaced (depth : Nat) (ls : List Line) :
    windowBody? depth (ls.map Line.unplaced) =
      (windowBody? depth ls).map fun found => (found.1.map Line.unplaced, found.2.unplaced) := by
  induction ls generalizing depth with
  | nil => rfl
  | cons line ls ih =>
      have hclosing : isClosing line.unplaced = isClosing line := rfl
      have hopens : opensBlock line.unplaced.text = opensBlock line.text := rfl
      cases hline : isClosing line with
      | true =>
          cases depth with
          | zero => simp [windowBody?, hclosing, hline]
          | succ depth =>
              simp only [List.map_cons, windowBody?, hclosing, hline, if_true, ih, Option.map_map]
              rfl
      | false =>
          simp only [List.map_cons, windowBody?, hclosing, hopens, hline, Bool.false_eq_true,
            if_false, ih, Option.map_map]
          rfl

theorem starting_unplaced (line : Line) (rest : List Line) :
    starting line.unplaced (rest.map Line.unplaced) = (starting line rest).unplaced := by
  have htext : line.unplaced.text = line.text := rfl
  unfold starting ofFunctionHeader ofWindowHeader
  rw [htext, functionBody?_unplaced, windowBody?_unplaced]
  split
  · cases declaredName? line.text with
    | none => rfl
    | some name =>
        cases functionBody? rest <;> dsimp only [Option.map] <;> split <;> rfl
  · split
    · split
      · cases windowBody? 0 rest <;> rfl
      · cases inlineBody? line.text <;> rfl
    · rfl

theorem extra_unplaced (segment : Segment) : segment.unplaced.extra = segment.extra := by
  cases segment <;> simp [unplaced, extra]

/-- Lines are cut at the same places wherever they stand. -/
theorem ofLines_unplaced (ls : List Line) :
    ofLines (ls.map Line.unplaced) = (ofLines ls).map unplaced := by
  have hafter : ∀ skip, ofLinesAfter skip (ls.map Line.unplaced) =
      (ofLinesAfter skip ls).map unplaced := by
    induction ls with
    | nil => exact fun _ => rfl
    | cons line ls ih =>
        intro skip
        cases skip with
        | zero =>
            rw [List.map_cons, ofLinesAfter, ofLinesAfter, starting_unplaced, extra_unplaced, ih,
              List.map_cons]
        | succ skip => exact ih skip
  exact hafter 0

/-- A script whose lines have the texts of some settled segments is cut into these segments, apart
from the places. -/
theorem ofLines_of_texts {segments : List Segment} {ls : List Line}
    (hsettled : ∀ segment ∈ segments, segment.Settled)
    (h : ls.map (·.text) = (segments.flatMap Segment.lines).map (·.text)) :
    (ofLines ls).map unplaced = segments.map unplaced := by
  have hcut : ofLines (segments.flatMap Segment.lines) = segments := by
    have happend := ofLines_flatMap_append hsettled []
    rwa [List.append_nil, show ofLines [] = [] from rfl, List.append_nil] at happend
  rw [← ofLines_unplaced, Line.map_unplaced h, ofLines_unplaced, hcut]

/-- What is found in a script without regard to places, and not in one of its blocks, is found in
the same order when the block is moved. -/
theorem filterMap_move {β : Type} {f : Segment → Option β} {block : Segment}
    {segments before after left right : List Segment}
    (hplaced : ∀ segment, f segment.unplaced = f segment) (hblock : f block = none)
    (hmoved : segments.map unplaced = (left ++ block :: right).map unplaced)
    (hplace : left ++ right = before ++ after) :
    segments.filterMap f = (before ++ block :: after).filterMap f := by
  have hread : ∀ segments : List Segment,
      (segments.map unplaced).filterMap f = segments.filterMap f := by
    intro segments
    rw [List.filterMap_map]
    exact congrArg (List.filterMap · segments) (funext hplaced)
  have hskip : ∀ before after : List Segment,
      (before ++ block :: after).filterMap f = (before ++ after).filterMap f := by
    intro before after
    rw [List.filterMap_append, List.filterMap_cons_none hblock, List.filterMap_append]
  rw [← hread, hmoved, hread, hskip, hskip, hplace]

end Segment

/-! ## Functions -/

def Routine.wording (routine : Routine) : Text × List Text :=
  (routine.name, routine.body.map (·.text))

def Table.wording? (table : Table Routine) (name : Text) : Option (List Text) :=
  (table.get? name).map fun routine => routine.body.map (·.text)

def Segment.wordings (segments : List Segment) : List (Text × List Text) :=
  (segments.filterMap Segment.function?).map Routine.wording

theorem Segment.wordings_unplaced (segments : List Segment) :
    wordings (segments.map unplaced) = wordings segments := by
  unfold wordings
  rw [List.filterMap_map, List.map_filterMap, List.map_filterMap]
  congr 1
  funext segment
  cases segment with
  | function header name body closing =>
      simp [Function.comp_apply, unplaced, function?, Routine.wording, Line.unplaced]
  | statement line => rfl
  | window header body closing => rfl
  | inlineWindow header body => rfl
  | rejected header problem => rfl

/-- What is found under a name when functions are put into a table rests on their wording. -/
theorem Table.wording?_foldl_put (table : Table Routine) (segments : List Segment)
    (name : Text) :
    wording? ((segments.filterMap Segment.function?).foldl
        (fun table routine => table.put routine.name routine) table) name =
      ((((Segment.wordings segments).filter (·.1 = name)).getLast?).map (·.2)).or
        (table.wording? name) := by
  unfold wording? Segment.wordings
  rw [get?_foldl_put, List.filter_map, List.getLast?_map, Option.map_or, Option.map_map]
  rfl

/-- A function that alone has its name can stand anywhere among the others. -/
theorem Segment.filter_wordings_move {before after left right : List Segment} {block : Segment}
    {routine : Routine} (hblock : block.function? = some routine)
    (honce : ∀ other ∈ (before ++ after).filterMap Segment.function?, other.name ≠ routine.name)
    (hplace : left ++ right = before ++ after) (name : Text) :
    (wordings (left ++ block :: right)).filter (·.1 = name) =
      (wordings (before ++ block :: after)).filter (·.1 = name) := by
  have hsplit : ∀ before after : List Segment, wordings (before ++ block :: after) =
      wordings before ++ routine.wording :: wordings after := by
    intro before after
    simp [wordings, hblock]
  have happend : wordings left ++ wordings right = wordings before ++ wordings after := by
    simp only [wordings, ← List.map_append, ← List.filterMap_append, hplace]
  rw [hsplit, hsplit]
  by_cases hname : routine.name = name
  · -- no other function has the name, so only this one is found on both sides
    have hnone : ∀ found ∈ wordings before ++ wordings after, ¬ found.1 = name := by
      intro found hfound
      rw [wordings, wordings, ← List.map_append, ← List.filterMap_append] at hfound
      obtain ⟨other, hother, rfl⟩ := List.mem_map.1 hfound
      rw [← hname]
      exact honce other hother
    have halone : ∀ before after : List (Text × List Text),
        (∀ found ∈ before ++ after, ¬ found.1 = name) →
          (before ++ routine.wording :: after).filter (·.1 = name) = [routine.wording] := by
      intro before after hothers
      have hnothing : (before ++ after).filter (·.1 = name) = [] :=
        List.filter_eq_nil_iff.2 fun found hfound => by simpa using hothers found hfound
      rw [List.filter_append, List.append_eq_nil_iff] at hnothing
      simp [List.filter_append, hnothing, Routine.wording, hname]
    rw [halone _ _ hnone, halone _ _ (happend ▸ hnone)]
  · have hskip : ∀ before after : List (Text × List Text),
        (before ++ routine.wording :: after).filter (·.1 = name) =
          (before ++ after).filter (·.1 = name) := by
      intro before after
      simp [Routine.wording, hname]
    rw [hskip, hskip, happend]

end LineScript
