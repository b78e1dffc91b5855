import LineScript.Proofs.Session.HostIndependence
import LineScript.Proofs.Session.Announcement
import LineScript.Proofs.Session.RoundTrip
import LineScript.Proofs.Script.WindowBlock

/-! # Windows that a script declares

A window that is written out as a script passes through the cutting of the script into lines, the
count of braces that finds the end of its block, and the searches for its entries. The main result
is that the run of the script opens just this window and does nothing else.
-/

namespace LineScript

namespace Segment

variable {depth : Nat} {body : List Line}

/-- Lines that neither open nor close a block do not change the count. -/
theorem closes_append_of_plain {plain : List Line}
    (h : ∀ line ∈ plain, isClosing line = false ∧ opensBlock line.text = false) :
    Closes depth (plain ++ body) ↔ Closes depth body := by
  induction plain with
  | nil => rfl
  | cons line plain ih =>
      obtain ⟨⟨hclosing, hopens⟩, hplain⟩ := List.forall_mem_cons.1 h
      rw [List.cons_append, closes_cons_other hclosing, hopens]
      exact ih hplain

/-- A line that neither starts with a closing brace nor ends with an opening one. -/
theorem plain_of_ends {line : Line} {c d : CodePoint} (hhead : line.text.toList.head? = some c)
    (hfirst : c ≠ '}') (hlast : line.text.toList.getLast? = some d) (hending : d ≠ '{') :
    isClosing line = false ∧ opensBlock line.text = false := by
  constructor
  · simp only [isClosing, decide_eq_false_iff_not]
    intro htext
    rw [htext] at hhead
    exact hfirst (Option.some.inj hhead).symm
  · simp [opensBlock, hlast, hending]

end Segment

namespace Window

variable {w : Window}

def headerLine : Text :=
  "@NEW WINDOW \x7b"

def declaration (w : Window) : List Text :=
  headerLine :: w.body true true ++ [closingLine]

/-! ## Its lines -/

theorem isText_buttonLine {button : Button} (hlabel : IsQuotable button.label)
    (hstatement : IsInline button.statement) : Line.IsText (buttonLine button) := by
  have hlist : (buttonLine button).toList = Text.toList "BUTTON = \"" ++ button.label.toList ++
      Text.toList "\": \x7b " ++ button.statement.toList ++ [.char ' '] ++ [.char '}'] := by
    simp [buttonLine, buttonFront]
  refine .of_ends (c := 'B') (by rw [hlist]; rfl) (by decide) ?_ ?_
  · rw [hlist, List.getLast?_concat]
    decide
  · rw [hlist]
    simp only [List.forall_mem_append]
    exact ⟨⟨⟨⟨⟨by decide, fun c hc => (hlabel.1 c hc).1⟩, by decide⟩,
      fun c hc => (hstatement c hc).1⟩, by decide⟩, by decide⟩

theorem isText_declaration (h : w.Writable) : ∀ line ∈ w.declaration, Line.IsText line := by
  have htitle : Line.IsText (titleLine w.title) := by
    have hlist : (titleLine w.title).toList =
        Text.toList "@Title = \"" ++ w.title.toList ++ [.char '"'] ++ [] := by simp [titleLine]
    exact Line.isText_quoted (c := '@') hlist rfl (by decide) (.inl rfl) (by decide)
      fun c hc => (h.title.1 c hc).1
  have htext : Line.IsText (textLine w.content) := by
    have hlist : (textLine w.content).toList =
        Text.toList "TEXT = \"" ++ w.content.toList ++ [.char '"'] ++ [] := by simp [textLine]
    exact Line.isText_quoted (c := 'T') hlist rfl (by decide) (.inl rfl) (by decide)
      fun c hc => (h.content.1 c hc).1
  have hfixed : ∀ line ∈ [headerLine, contentLine, closingLine], Line.IsText line := by
    intro line hline
    simp only [List.mem_cons, List.not_mem_nil, or_false] at hline
    rcases hline with rfl | rfl | rfl <;> exact ⟨by decide, by decide, by decide⟩
  intro line hline
  have hline : line ∈ [headerLine, contentLine, closingLine] ∨ line = titleLine w.title ∨
      line = textLine w.content ∨ ∃ button ∈ w.button, buttonLine button = line := by
    simp only [declaration, body, entries, List.mem_cons, List.mem_append, List.not_mem_nil,
      or_false] at hline ⊢
    grind
  rcases hline with hline | rfl | rfl | ⟨button, hbutton, rfl⟩
  · exact hfixed line hline
  · exact htitle
  · exact htext
  · exact isText_buttonLine (h.label button hbutton) (h.statement button hbutton)

/-! ## Its block -/

theorem plain_entry {line : Line} (h : line.text ∈ titleLine w.title :: w.entries true) :
    Segment.isClosing line = false ∧ Segment.opensBlock line.text = false := by
  have hline : line.text = titleLine w.title ∨ line.text = textLine w.content ∨
      ∃ button ∈ w.button, line.text = buttonLine button := by
    simpa [entries, eq_comm] using h
  rcases hline with htext | htext | ⟨button, -, htext⟩
  · exact Segment.plain_of_ends (c := '@') (d := '"') (by simp [htext, titleLine]) (by decide)
      (by simp [htext, titleLine, List.getLast?_cons]) (by decide)
  · exact Segment.plain_of_ends (c := 'T') (d := '"') (by simp [htext, textLine]) (by decide)
      (by simp [htext, textLine, List.getLast?_cons]) (by decide)
  · exact Segment.plain_of_ends (c := 'B') (d := '}') (by simp [htext, buttonLine, buttonFront])
      (by decide) (by simp [htext, buttonLine]) (by decide)

/-- The content block is the only block inside the body, and it is closed there. -/
theorem closes_body {lines : List Line} (h : lines.map (·.text) = w.body true true) :
    Segment.Closes 0 lines := by
  obtain ⟨title, rest, rfl, htitle, h⟩ := List.map_eq_cons_iff.1 h
  obtain ⟨opening, rest, rfl, hopening, h⟩ := List.map_eq_cons_iff.1 h
  obtain ⟨inner, last, rfl, hinner, h⟩ := List.map_eq_append_iff.1 h
  obtain ⟨closing, rfl, hclosing⟩ := List.map_eq_singleton_iff.1 h
  have hplain : ∀ line ∈ inner,
      Segment.isClosing line = false ∧ Segment.opensBlock line.text = false := by
    intro line hline
    have hentry : line.text ∈ w.entries true := hinner ▸ List.mem_map_of_mem hline
    exact plain_entry (List.mem_cons_of_mem _ hentry)
  have htitle : Segment.isClosing title = false ∧ Segment.opensBlock title.text = false :=
    plain_entry (List.mem_cons.2 (.inl htitle))
  have hopens : Segment.isClosing opening = false ∧ Segment.opensBlock opening.text = true := by
    simp only [Segment.isClosing, hopening]
    decide
  have hcloses : Segment.isClosing closing = true := by
    simp only [Segment.isClosing, hclosing]
    decide
  rw [Segment.closes_cons_other htitle.1, htitle.2, Segment.closes_cons_other hopens.1, hopens.2,
    Segment.closes_append_of_plain hplain, Segment.closes_cons_closing hcloses]
  exact ⟨0, rfl, Segment.closes_nil.2 rfl⟩

theorem ofLines_declaration {ls : List Line} (h : ls.map (·.text) = w.declaration) :
    ∃ header body closing, Segment.ofLines ls = [.window header body closing] ∧
      body.map (·.text) = w.body true true := by
  obtain ⟨header, rest, rfl, hheader, h⟩ := List.map_eq_cons_iff.1 h
  obtain ⟨body, last, rfl, hbody, h⟩ := List.map_eq_append_iff.1 h
  obtain ⟨closing, rfl, hclosing⟩ := List.map_eq_singleton_iff.1 h
  refine ⟨header, body, closing, ?_, hbody⟩
  have hblock : (Segment.window header body closing).Fits [] := by
    refine .window ?_ ?_ ?_ (closes_body hbody) ?_
    · rw [hheader]
      rfl
    · rw [hheader]
      rfl
    · rw [hheader]
      rfl
    · simp [Segment.isClosing, hclosing, closingLine]
  have hcut := Segment.Segmentation.cons hblock .nil
  rw [List.append_nil] at hcut
  exact hcut.eq_ofLines.symm

end Window

/-! ## Running it -/

namespace Exec

open Session

/-- Preparing a script that is one window block opens the window and has nothing to execute. -/
theorem prepare_window {source : Text} {file : Option Text} {header closing : Line}
    {body : List Line} (h : Segment.ofLines (Line.scan source file) = [.window header body closing])
    (id : Nat) (base : Path) (s : Session) :
    let opened : OpenWindow :=
      { window := Window.ofBody (body.map (·.text))
          (s.interpreter id).config.defaultWindowTitle
        owner := id, base }
    ∃ t frame, prepare id source base file s =
        (.ok { frame, statements := [], functions := {}, windows := [opened]
               first := (s.interpreter id).report.diagnostics.size }, t) ∧
      t.holdings = s.holdings ∧ Hears s t [.opened opened, .debug .banner] := by
  intro opened
  unfold prepare
  simp only [bind_apply, interpreter, h]
  refine ⟨_, _, rfl, ?_, ?_⟩
  · rw [holdings_eq_of_content (content_beginRun _ id), holdings_tell]
    exact holdings_tell _ _
  · have hheard : ∀ text text' : Text, Hears s
        ((((s.record (.logged .execution text)).tell (.opened opened)).record
          (.logged .execution text')).tell (.debug .banner)) [.opened opened, .debug .banner] := by
      intro text text'
      have hopened := (Hears.logged s .execution text).trans (.tell _ (.opened opened))
      exact (hopened.trans (.logged _ .execution text')).trans (.tell _ (.debug .banner))
    exact (hheard _ _).trans (.of_content (content_beginRun _ id))

theorem run_of_no_statements (disk : Disk) (say : Text → Exec Unit) {source : Text}
    {base : Path} {file : Option Text} {script : Prepared} {id : Nat} {s t : Session}
    (hp : prepare id source base file s = (.ok script, t)) (hnone : script.statements = []) :
    ∃ u, run disk say id source base file s = (.ok (script.result (u.interpreter id)), u) ∧
      u.content = t.content := by
  refine ⟨((t.enter id script.frame).leave id (t.interpreter id).depth).endRun id, ?_, ?_⟩
  · rw [run_apply hp, hnone]
    rfl
  · rw [content_endRun, content_leave, content_enter]

end Exec

open Session in
/-- A script that declares a window opens this window and no other, with the title, the text, the
label and the statement that were written into it. Nothing is reported, no statement is left and no
store changes. -/
theorem declared_window_is_opened {w : Window} (h : w.Writable) (htrimmed : w.trimmed = w)
    (s : Session) (disk : Disk) (id : Nat) (base : Path) (file : Option Text) :
    let opened : OpenWindow := { window := w, owner := id, base }
    ∃ t, s.run disk id (Text.intercalate "\n" w.declaration) base file =
        (.ok { statements := [], functions := {}, windows := [opened], diagnostics := [] }, t) ∧
      t.holdings = s.holdings ∧ Hears s t [.opened opened, .debug .banner] ∧
      (s.host.isSome → t.windows = s.windows.push opened) := by
  intro opened
  have hscan := Line.map_text_scan_intercalate (Window.isText_declaration h) file
  obtain ⟨header, body, closing, hsegments, hbody⟩ := Window.ofLines_declaration hscan
  obtain ⟨u, frame, hp, hkept, hheard⟩ := Exec.prepare_window hsegments id base s
  rw [hbody, Window.ofBody_body_first h, htrimmed] at hp hheard
  obtain ⟨t, hrun, hcontent⟩ :=
    Exec.run_of_no_statements disk (Exec.say disk s.reactions.length) hp rfl
  have hholdings : t.holdings = s.holdings := (holdings_eq_of_content hcontent).trans hkept
  have hheard : Hears s t [.opened opened, .debug .banner] := hheard.trans (.of_content hcontent)
  have hreport : (t.interpreter id).report = (s.interpreter id).report :=
    congrArg (·.2) (interpreter_holdings_congr hholdings id)
  have hresult : s.run disk id (Text.intercalate "\n" w.declaration) base file =
      (.ok { statements := [], functions := {}, windows := [opened], diagnostics := [] }, t) := by
    refine hrun.trans ?_
    simp [Exec.Prepared.result, hreport, opened]
  refine ⟨t, hresult, hholdings, hheard, fun hhost => ?_⟩
  have htold : Told s t [.opened opened, .debug .banner] := by
    have hrun := told_run s disk id (Text.intercalate "\n" w.declaration) base file
    rw [hresult] at hrun
    exact .of_notices hrun (by rw [hheard.notices, if_pos hhost])
  exact htold.windows_eq hhost

/-- A window whose parts look like entries of a block. -/
theorem declared_window_is_opened_of_lookalikes :
    let w : Window :=
      { title := "@Content =", content := "@Title =",
        button := some ⟨"BUTTON = TEXT =", "print \"TEXT = x\""⟩ }
    let s := Session.fresh {} (.buffer {})
    (w.Writable ∧ w.trimmed = w ∧ w.declaration =
      (["@NEW WINDOW \x7b", "@Title = \"@Content =\"", "@Content = \x7b", "TEXT = \"@Title =\"",
        "BUTTON = \"BUTTON = TEXT =\": \x7b print \"TEXT = x\" \x7d", "\x7d",
          "\x7d"] : List Text)) ∧
    ∃ t, s.run Disk.blank 0 (Text.intercalate "\n" w.declaration) {} none =
        (.ok { statements := [], functions := {}, windows := [⟨w, 0, {}⟩], diagnostics := [] }, t) ∧
      t.windows = #[⟨w, 0, {}⟩] := by
  intro w s
  have hwritable : w.Writable :=
    { title := by decide
      content := by decide
      label := by simp only [w, Option.mem_some_iff, forall_eq']; decide
      statement := by simp only [w, Option.mem_some_iff, forall_eq']; decide
      buttonless := by decide }
  have htrimmed : w.trimmed = w := by decide +kernel
  obtain ⟨t, hrun, -, -, hwindows⟩ :=
    declared_window_is_opened hwritable htrimmed s Disk.blank 0 {} none
  exact ⟨⟨hwritable, htrimmed, by decide +kernel⟩, t, hrun, hwindows rfl⟩

end LineScript
