import Lexis.Report

namespace Lexis

/-- The layout of a whole diagnostic: header, labels, notes and an empty line. -/
def Report.ofDiagnostic (file : Option SourceFile) (d : Diagnostic) : Checked Report := do
  let labels ← d.labels.mapM (ofLabel file)
  return header d ++ labels.flatten ++ footer d

namespace Reporter

variable (r : Reporter)

theorem writeLabel_eq (label : Label) :
    r.writeLabel label = do
      let layout ← Report.ofLabel r.file label
      return (layout.paint r.colors, r) := by
  rcases r with ⟨colors, file⟩
  cases file with
  | none => rfl
  | some file => rfl

theorem writeLabels_eq (labels : List Label) :
    r.writeLabels labels = do
      let layouts ← labels.mapM (Report.ofLabel r.file)
      return (Report.paint r.colors layouts.flatten, r) := by
  induction labels with
  | nil => rfl
  | cons label labels ih =>
      rw [writeLabels, writeLabel_eq, List.mapM_cons]
      cases Report.ofLabel r.file label with
      | error fault => rfl
      | ok layout =>
          -- The label has left the reporter it was written with, so that `ih` is about the rest.
          change (r.writeLabels labels >>= _) = _
          rw [ih]
          cases labels.mapM (Report.ofLabel r.file) with
          | error fault => rfl
          | ok layouts =>
              change Except.ok (layout.paint r.colors ++ Report.paint r.colors layouts.flatten, r) =
                Except.ok (Report.paint r.colors (layout ++ layouts.flatten), r)
              rw [Report.paint_append]

theorem emit_eq (d : Diagnostic) :
    r.emit d = do
      let layout ← Report.ofDiagnostic r.file d
      return (layout.paint r.colors, r) := by
  rw [emit, writeLabels_eq, Report.ofDiagnostic]
  cases d.labels.mapM (Report.ofLabel r.file) with
  | error fault => rfl
  | ok layouts =>
      change Except.ok ((Report.header d).paint r.colors ++ Report.paint r.colors layouts.flatten ++
          (Report.footer d).paint r.colors, r) =
        Except.ok (Report.paint r.colors
          (Report.header d ++ layouts.flatten ++ Report.footer d), r)
      rw [Report.paint_append, Report.paint_append]

variable {r}

theorem report_eq_ok_iff {d : Diagnostic} {text : String} :
    r.report d = .ok text ↔
      ∃ layout, Report.ofDiagnostic r.file d = .ok layout ∧ layout.paint r.colors = text := by
  simp only [report, emit_eq, Checked.bind_eq_ok_iff, Checked.pure_eq_ok_iff]
  constructor
  · rintro ⟨_, ⟨layout, hlayout, rfl⟩, htext⟩
    exact ⟨layout, hlayout, htext⟩
  · rintro ⟨layout, hlayout, htext⟩
    exact ⟨_, ⟨layout, hlayout, rfl⟩, htext⟩

theorem emit_of_report {d : Diagnostic} {text : String} (h : r.report d = .ok text) :
    r.emit d = .ok (text, r) := by
  obtain ⟨layout, hlayout, rfl⟩ := report_eq_ok_iff.mp h
  rw [emit_eq, hlayout]
  rfl

end Reporter

end Lexis
