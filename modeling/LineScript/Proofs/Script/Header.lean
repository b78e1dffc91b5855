import LineScript.Proofs.Script.Concatenation
import LineScript.Proofs.Text.Recognition

/-! # The names that headers declare

The name of a function is looked for all over its header. So the header declares the name after the
first keyword that a gap and a name follow, which is not always the keyword that the header starts
with. The main result says under which names functions are registered, and which headers are
rejected because they declare none.
-/

namespace LineScript

namespace Segment

/-- The text starts with the keyword of function blocks, a gap and a name. The name is as long as
possible. -/
def Declares (cs name : List CodePoint) : Prop :=
  ∃ gap rest, Text.IsGap gap ∧ Text.IsName name ∧ Text.Stops Text.isWordChar rest ∧
    cs = Text.toList "function" ++ (gap ++ (name ++ rest))

/-- The name stands after the first keyword of the header that a gap and a name follow. -/
def DeclaredAs (text name : Text) : Prop :=
  ∃ place, Text.FirstPlace (fun cs => ∃ found, Declares cs found) text.toList place ∧
    Declares place name.toList

theorem functionName?_eq_some {cs name : List CodePoint} :
    functionName? cs = some name ↔ Declares cs name := by
  unfold functionName? Declares
  simp only [Option.bind_eq_bind, Option.bind_eq_some_iff, Option.pure_def, Option.some.injEq]
  constructor
  · rintro ⟨inner, hinner, more, hmore, ⟨found, rest⟩, hfound, rfl⟩
    obtain ⟨gap, hgap, hname, hrest, rfl⟩ :=
      Text.named_eq_some.1 (Option.bind_eq_some_iff.2 ⟨more, hmore, hfound⟩)
    exact ⟨gap, rest, hgap, hname, hrest, Text.after?_eq_some.1 hinner⟩
  · rintro ⟨gap, rest, hgap, hname, hrest, hcs⟩
    obtain ⟨more, hmore, hfound⟩ := Option.bind_eq_some_iff.1
      (Text.named_eq_some.2 ⟨gap, hgap, hname, hrest, rfl⟩)
    exact ⟨_, Text.after?_eq_some.2 hcs, more, hmore, (name, rest), hfound, rfl⟩

theorem isSome_functionName? {cs : List CodePoint} :
    (functionName? cs).isSome ↔ ∃ name, Declares cs name := by
  simp only [Option.isSome_iff_exists, functionName?_eq_some]

theorem declaredName?_eq_none {text : Text} :
    declaredName? text = none ↔ ∀ place, place <:+ text.toList → ¬ ∃ name, Declares place name := by
  unfold declaredName?
  rw [Option.map_eq_none_iff]
  exact Text.search_eq_none_iff_form fun cs => by simp only [functionName?_eq_some]

theorem declaredName?_eq_some {text name : Text} :
    declaredName? text = some name ↔ DeclaredAs text name := by
  unfold declaredName? DeclaredAs
  rw [Option.map_eq_some_iff]
  constructor
  · rintro ⟨found, hfound, rfl⟩
    obtain ⟨place, hfirst, hplace⟩ := Text.search_eq_some.1 hfound
    refine ⟨place, hfirst.congr fun _ => isSome_functionName?, ?_⟩
    rw [Text.toList_ofList]
    exact functionName?_eq_some.1 hplace
  · rintro ⟨place, hfirst, hplace⟩
    refine ⟨name.toList, Text.search_eq_some.2 ⟨place, ?_, functionName?_eq_some.2 hplace⟩,
      Text.ofList_toList⟩
    exact hfirst.congr fun _ => isSome_functionName?.symm

theorem DeclaredAs.of_start {text name : Text} (h : DeclaredAs text name)
    (hstart : ∃ found, Declares text.toList found) : Declares text.toList name.toList := by
  obtain ⟨place, hfirst, hplace⟩ := h
  rwa [hfirst.eq_start hstart] at hplace

variable {ls : List Line} {segment : Segment} {header : Line}

theorem fits_of_mem (h : segment ∈ ofLines ls) :
    ∃ after, segment.Fits after := by
  obtain ⟨before, rest, hsplit⟩ := List.append_of_mem h
  have hseg := segmentation_ofLines ls
  rw [hsplit] at hseg
  exact ⟨_, hseg.fits⟩

/-- A header of a function block is rejected for its name exactly if it declares none. -/
theorem rejected_iff_nameless (h : segment ∈ ofLines ls) (hhead : segment.lines.head? = some header)
    (hf : isFunctionHeader header.text.toList = true) :
    segment = .rejected header .missingFunctionName ↔ declaredName? header.text = none := by
  obtain ⟨after, hfits⟩ := fits_of_mem h
  obtain ⟨more, hlines⟩ : ∃ more, segment.lines = header :: more := by
    cases hlines : segment.lines with
    | nil => exact absurd hlines (lines_ne_nil segment)
    | cons first more =>
        rw [hlines] at hhead
        exact ⟨more, by rw [Option.some.inj hhead]⟩
  have heq : header :: (more ++ after) = segment.lines ++ after := by rw [hlines, List.cons_append]
  rw [hfits.rejected_iff heq]
  constructor
  · rintro ⟨-, hname⟩
    exact hname
  · intro hname
    exact .missingFunctionName hf hname

theorem declaredAs_of_function {name : Text} {body : List Line} {closing : Line}
    (h : .function header name body closing ∈ ofLines ls) :
    header ∈ ls ∧ isFunctionHeader header.text.toList = true ∧ DeclaredAs header.text name := by
  obtain ⟨after, hfits⟩ := fits_of_mem h
  cases hfits with
  | function hf hname _ _ _ =>
      exact ⟨mem_of_mem_lines h List.mem_cons_self, hf, declaredName?_eq_some.1 hname⟩

end Segment

theorem Table.isSome_get?_foldl_put {table : Table Routine} {routines : List Routine}
    {routine : Routine} (h : routine ∈ routines) :
    ((routines.foldl (fun table routine => table.put routine.name routine) table).get?
      routine.name).isSome := by
  have hmem : routine ∈ routines.filter (·.name = routine.name) :=
    List.mem_filter.2 ⟨h, decide_eq_true rfl⟩
  rw [Table.get?_foldl_put, List.getLast?_eq_some_getLast (List.ne_nil_of_mem hmem)]
  rfl

open Segment in
/-- Whatever functions there were before, a script registers functions under the names that its
headers declare, and under no others: the longest run of word characters after the first keyword of
the header that a gap and a word character follow. That is the keyword at the start of the header if
a gap and a word character follow it. A header is rejected for want of a name, and registers
nothing, exactly if no keyword on the line is followed by a gap and a word character. -/
theorem functions_named_at_first_keyword (ls : List Line) :
    (∀ (table : Table Routine) name routine,
      (table.update (Outline.ofLines ls).functions).get? name = some routine →
      table.get? name = some routine ∨
        ∃ header ∈ ls, routine.location = header.location ∧
          isFunctionHeader header.text.toList = true ∧ DeclaredAs header.text name ∧
          ((∃ found, Declares header.text.toList found) →
            Declares header.text.toList name.toList)) ∧
    (∀ (table : Table Routine) header name body closing,
      .function header name body closing ∈ ofLines ls →
      DeclaredAs header.text name ∧
        ((table.update (Outline.ofLines ls).functions).get? name).isSome) ∧
    (∀ segment ∈ ofLines ls, ∀ header, segment.lines.head? = some header →
      isFunctionHeader header.text.toList = true →
      (segment = .rejected header .missingFunctionName ↔
        ∀ place, place <:+ header.text.toList → ¬ ∃ name, Declares place name)) ∧
    ∀ header, (Segment.rejected header .missingFunctionName).diagnostic?.map (·.code) =
      some "E101" ∧ (Segment.rejected header .missingFunctionName).function? = none := by
  refine ⟨?_, ?_, ?_, fun header => ⟨rfl, rfl⟩⟩
  · intro table name routine hget
    rw [Outline.update_functions, Table.get?_foldl_put] at hget
    rcases Option.or_eq_some_iff.1 hget with hlast | ⟨-, hbefore⟩
    · have hmem := List.mem_of_getLast? hlast
      obtain ⟨hroutine, hname⟩ := List.mem_filter.1 hmem
      obtain ⟨segment, hsegment, hfunction⟩ := List.mem_filterMap.1 hroutine
      obtain ⟨header, closing, rfl, hlocation⟩ := function?_eq_some.1 hfunction
      obtain ⟨hheader, hf, hdeclared⟩ := declaredAs_of_function hsegment
      obtain rfl : routine.name = name := by simpa using hname
      exact .inr ⟨header, hheader, hlocation, hf, hdeclared, hdeclared.of_start⟩
    · exact .inl hbefore
  · intro table header name body closing hsegment
    have hroutine : { name, body, location := header.location } ∈
        (ofLines ls).filterMap Segment.function? := List.mem_filterMap.2 ⟨_, hsegment, rfl⟩
    rw [Outline.update_functions]
    exact ⟨(declaredAs_of_function hsegment).2.2, Table.isSome_get?_foldl_put hroutine⟩
  · intro segment hsegment header hhead hf
    rw [rejected_iff_nameless hsegment hhead hf, declaredName?_eq_none]

/-- A header that declares a name, and one that declares none. -/
theorem functions_named_at_first_keyword_of_two_headers :
    let named : Line := { text := "function f1-g \x7b" }
    let nameless : Line := { text := "function \x7b" }
    let ls := [named, { text := "\x7d" }, nameless]
    ((({} : Table Routine).update (Outline.ofLines ls).functions).get? "f1").isSome ∧
      Segment.DeclaredAs named.text "f1" ∧
      ∀ place, place <:+ nameless.text.toList → ¬ ∃ name, Segment.Declares place name := by
  intro named nameless ls
  obtain ⟨-, hregistered, hrejected, -⟩ := functions_named_at_first_keyword ls
  let block : Segment := .function named "f1" [] { text := "\x7d" }
  let refused : Segment := .rejected nameless .missingFunctionName
  have hblock : block.Fits [nameless] :=
    .function (by decide) (by decide +kernel) (by decide) (by simp) (by decide)
  have hrefused : refused.Fits [] :=
    .rejected (.missingFunctionName (by decide) (by decide +kernel))
  have hcut : Segment.Segmentation ls [block, refused] := .cons hblock (.cons hrefused .nil)
  rw [← hcut.eq_ofLines] at hregistered hrejected
  obtain ⟨hdeclared, hfound⟩ := hregistered {} named "f1" [] _ List.mem_cons_self
  refine ⟨hfound, hdeclared, ?_⟩
  exact (hrejected _ (List.mem_cons_of_mem _ List.mem_cons_self) nameless rfl (by decide)).1 rfl

/-- A header whose keyword is followed by a brace is not rejected if the keyword comes once more on
the line: the function is registered under the name that follows there. -/
theorem function_named_after_brace :
    let header : Line := { text := "function \x7bfunction f" }
    let outline := Outline.ofLines [header, { text := "\x7d" }]
    Segment.isFunctionHeader header.text.toList = true ∧
      (¬ ∃ name, Segment.Declares header.text.toList name) ∧
      (outline.functions.get? "f").isSome ∧ outline.problems = #[] := by
  refine ⟨by decide, ?_, by decide, by decide⟩
  rw [← Segment.isSome_functionName?]
  decide

end LineScript
