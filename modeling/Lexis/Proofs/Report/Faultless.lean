import Lexis.Proofs.LineTable.Limits
import Lexis.Proofs.Report.Rows

namespace Lexis

open Text

theorem Checked.exists_mapM {α β : Type} {f : α → Checked β} {as : List α}
    (h : ∀ a ∈ as, ∃ b, f a = .ok b) : ∃ bs, as.mapM f = .ok bs := by
  induction as with
  | nil => exact ⟨[], rfl⟩
  | cons a as ih =>
      obtain ⟨b, hb⟩ := h a List.mem_cons_self
      obtain ⟨bs, hbs⟩ := ih fun a ha => h a (List.mem_cons_of_mem _ ha)
      refine ⟨b :: bs, ?_⟩
      simp only [List.mapM_cons, Checked.bind_eq_ok_iff]
      exact ⟨b, hb, bs, hbs, rfl⟩

theorem Checked.exists_of_mem_mapM {α β : Type} {f : α → Checked β} {as : List α} {bs : List β}
    {b : β} (h : as.mapM f = .ok bs) (hb : b ∈ bs) : ∃ a ∈ as, f a = .ok b := by
  induction as generalizing bs with
  | nil =>
      rw [← Except.ok.inj h] at hb
      contradiction
  | cons a as ih =>
      simp only [List.mapM_cons, Checked.bind_eq_ok_iff, Checked.pure_eq_ok_iff] at h
      obtain ⟨c, hc, cs, hcs, rfl⟩ := h
      rcases List.mem_cons.mp hb with rfl | hb
      · exact ⟨a, List.mem_cons_self, hc⟩
      · obtain ⟨a', ha', hb'⟩ := ih hcs hb
        exact ⟨a', List.mem_cons_of_mem a ha', hb'⟩

namespace Report

/-- Any label can be laid out over the source. -/
def Legible (file : Option SourceFile) : Prop :=
  ∀ label, ∃ layout, ofLabel file label = .ok layout

theorem legible_none : Legible none :=
  fun label => ⟨bareLabel label, rfl⟩

theorem legible_ofText (path : String) {s : String} (hsize : s.utf8ByteSize < UInt32.size - 2) :
    Legible (some (.ofText path s)) := by
  intro label
  obtain ⟨front, back, column, -, -, -, hposition, hline⟩ :=
    LineTable.exists_position_lineText hsize label.span.start
  obtain ⟨r, hr, -⟩ : LaidOut (.ofText path s) label _ := laidOut_labelRows hposition hline
  exact ⟨r, hr⟩

theorem Legible.exists_ofDiagnostic {file : Option SourceFile} (h : Legible file)
    (d : Diagnostic) : ∃ r, ofDiagnostic file d = .ok (header d ++ r) := by
  obtain ⟨labels, hlabels⟩ := Checked.exists_mapM fun label (_ : label ∈ d.labels) => h label
  refine ⟨labels.flatten ++ footer d, ?_⟩
  simp only [ofDiagnostic, Checked.bind_eq_ok_iff]
  refine ⟨labels, hlabels, ?_⟩
  simp only [List.append_assoc]
  rfl

end Report

theorem Report.paint_header_ne (colors : Bool) (d : Diagnostic) (r : Report) :
    Report.paint colors (header d ++ r) ≠ "" := by
  cases colors <;> simp [header, Segment.paint, Segment.styled]

theorem Reporter.exists_report_attach (r : Reporter) (path : String) {s : String}
    (hsize : s.utf8ByteSize < UInt32.size - 2) (d : Diagnostic) :
    ∃ text, (r.attach path s).report d = .ok text ∧ text ≠ "" := by
  obtain ⟨layout, hlayout⟩ := (Report.legible_ofText path hsize).exists_ofDiagnostic d
  exact ⟨_, report_eq_ok_iff.mpr ⟨_, hlayout, rfl⟩, Report.paint_header_ne r.colors d layout⟩

theorem Reporter.run_attach_report {r : Reporter} {path s report : String} {d : Diagnostic}
    (h : (r.attach path s).report d = .ok report) (errors : Nat) :
    r.run [.attach path s, .report d, .summarize errors] =
      [.ok "", .ok report, .ok ((r.attach path s).summarize errors)] := by
  have hattach : r.step (.attach path s) = .ok ("", r.attach path s) := rfl
  have hreport : (r.attach path s).step (.report d) = .ok (report, r.attach path s) :=
    emit_of_report h
  have hsummary : (r.attach path s).step (.summarize errors) =
      .ok ((r.attach path s).summarize errors, r.attach path s) := rfl
  simp only [run, hattach, hreport, hsummary]

end Lexis
