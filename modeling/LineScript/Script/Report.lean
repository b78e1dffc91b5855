import LineScript.Script.Problem

/-! # Reports

A report collects diagnostics in the order in which they arise, and counts the errors among them as
they come in.
-/

namespace LineScript

structure Report where
  diagnostics : Array Diagnostic := #[]
  errorCount : Nat := 0
  deriving Repr

namespace Report

def add (report : Report) (d : Diagnostic) : Report :=
  { diagnostics := report.diagnostics.push d
    errorCount := if d.severity = .error then report.errorCount + 1 else report.errorCount }

def ofList (ds : List Diagnostic) : Report :=
  ds.foldl add {}

def warningCount (report : Report) : Nat :=
  report.diagnostics.countP (·.severity = .warning)

def hasErrors (report : Report) : Bool :=
  decide (0 < report.errorCount)

def codes (report : Report) : List String :=
  report.diagnostics.toList.map (·.code)

/-- The line that sums a report up, if it holds an error or a warning. -/
def summary (report : Report) : List Text :=
  if 0 < report.errorCount then
    [s!"{report.errorCount} error(s), {report.warningCount} warning(s)"]
  else if 0 < report.warningCount then [s!"{report.warningCount} warning(s)"]
  else []

def format (report : Report) (showSource : Bool) : Text :=
  Text.intercalate "\n" (report.diagnostics.toList.map (·.format showSource) ++ report.summary)

/-! ## The count of errors -/

/-- The count is that of the errors in the report. -/
def Counted (report : Report) : Prop :=
  report.errorCount = report.diagnostics.countP (·.severity = .error)

theorem counted_empty : ({} : Report).Counted :=
  rfl

theorem Counted.add {report : Report} (h : report.Counted) (d : Diagnostic) :
    (report.add d).Counted := by
  unfold Counted at h ⊢
  simp only [Report.add, Array.countP_push, decide_eq_true_eq, h]
  split <;> rfl

theorem counted_foldl {report : Report} (h : report.Counted) (ds : List Diagnostic) :
    (ds.foldl Report.add report).Counted := by
  induction ds generalizing report with
  | nil => exact h
  | cons d ds ih => exact ih (h.add d)

theorem diagnostics_foldl (report : Report) (ds : List Diagnostic) :
    (ds.foldl Report.add report).diagnostics.toList = report.diagnostics.toList ++ ds := by
  induction ds generalizing report with
  | nil => simp
  | cons d ds ih => simp [ih, Report.add]

theorem counted_ofList (ds : List Diagnostic) : (ofList ds).Counted :=
  counted_foldl counted_empty ds

@[simp] theorem diagnostics_ofList (ds : List Diagnostic) : (ofList ds).diagnostics.toList = ds :=
  diagnostics_foldl {} ds

theorem Counted.eq_size {report : Report} (h : report.Counted)
    (herror : ∀ d ∈ report.diagnostics.toList, d.severity = .error) :
    report.errorCount = report.diagnostics.size := by
  rw [h, Array.countP_eq_size]
  intro d hd
  exact decide_eq_true (herror d (Array.mem_toList_iff.2 hd))

end Report

end LineScript
