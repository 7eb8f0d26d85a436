import Lexis.Proofs.Report.Emission
import Mathlib.Data.List.Forall2

namespace Lexis

open Text

/-- The rows, each with a line feed behind it. -/
def unlines (rows : List String) : String :=
  String.join (rows.map (· ++ "\n"))

@[simp] theorem unlines_nil : unlines [] = "" := rfl

@[simp] theorem unlines_cons (row : String) (rows : List String) :
    unlines (row :: rows) = row ++ "\n" ++ unlines rows := by
  simp [unlines]

@[simp] theorem unlines_append (rows rows' : List String) :
    unlines (rows ++ rows') = unlines rows ++ unlines rows' := by
  simp [unlines]

namespace Report

/-- What stands in a row before the text next to the margin. -/
def gutter (content : String) : String :=
  " " ++ content ++ " | "

theorem length_gutter_spaces (content : String) :
    (gutter (spaces content.length)).length = (gutter content).length := by
  simp [gutter, spaces]

/-- How many characters a span covers, or one where it cuts a character. -/
def markedLength (text : String) (span : Span) : Nat :=
  ((slice? text span.start.toNat span.stop.toNat).map String.length).getD 1

/-- The rows of a label: its place, a row of margin, the line and the carets. -/
def labelRows (path : String) (label : Label) (p : Position) (line : String) (count : Nat) :
    List String :=
  let number := Decimal.ofNat p.line.toNat
  let pad := spaces number.length
  ["  " ++ label.marker ++ " " ++ path ++ ":" ++ p.render,
   " " ++ pad ++ " |",
   gutter number ++ line,
   gutter pad ++ carets (p.column.toNat - 1) count ++ " " ++ label.message]

theorem caretCount_zero (before length : Nat) : caretCount 0 before length = 1 := by
  simp [caretCount]

/-- The rows of a diagnostic whose labels have the given rows. -/
def diagnosticRows (d : Diagnostic) (blocks : List (List String)) : List String :=
  d.headline :: blocks.flatten ++ d.notes.map ("  = note: " ++ ·) ++ [""]

def LaidOut (file : SourceFile) (label : Label) (rows : List String) : Prop :=
  ∃ r, sourceLabel file label = .ok r ∧ Report.paint false r = unlines rows

theorem paint_excerpt (file : SourceFile) (label : Label) (p : Position) (line : String) :
    Report.paint false (Segment.plain ("  " ++ label.marker ++ " " ++ file.path ++ ":" ++ p.render
        ++ "\n") :: excerpt file label p line
      ++ [Segment.styled label.style label.message, Segment.plain "\n"]) =
      unlines (labelRows file.path label p line
        (caretCount (markedLength file.text label.span) (p.column.toNat - 1) line.length)) := by
  cases hcut : slice? file.text label.span.start.toNat label.span.stop.toNat with
  | none => simp [excerpt, labelRows, markedLength, margin, gutter, hcut, ← String.toList_inj]
  | some t => simp [excerpt, labelRows, markedLength, margin, gutter, hcut, ← String.toList_inj]

theorem laidOut_labelRows {file : SourceFile} {label : Label} {p : Position} {line : String}
    (hp : file.lines.position file.text label.span.start = .ok p)
    (hline : file.lines.lineText file.text p.line = .ok (some line)) :
    LaidOut file label (labelRows file.path label p line
      (caretCount (markedLength file.text label.span) (p.column.toNat - 1) line.length)) := by
  refine ⟨_, ?_, paint_excerpt file label p line⟩
  simp only [sourceLabel, Checked.bind_eq_ok_iff]
  exact ⟨p, hp, some line, hline, rfl⟩

theorem LaidOut.writeLabel {file : SourceFile} {label : Label} {rows : List String}
    (h : LaidOut file label rows) :
    (Reporter.mk false (some file)).writeLabel label =
      .ok (unlines rows, Reporter.mk false (some file)) := by
  obtain ⟨layout, hlayout, hpaint⟩ := h
  rw [Reporter.writeLabel_eq, Checked.bind_eq_ok_iff]
  exact ⟨layout, hlayout, by rw [hpaint]; rfl⟩

theorem exists_mapM_ofLabel {file : SourceFile} {labels : List Label}
    {blocks : List (List String)} (h : List.Forall₂ (LaidOut file) labels blocks) :
    ∃ rs, labels.mapM (ofLabel (some file)) = .ok rs ∧
      Report.paint false rs.flatten = unlines blocks.flatten := by
  induction h with
  | nil => exact ⟨[], rfl, rfl⟩
  | cons hlabel _ ih =>
      obtain ⟨r, hr, hpaint⟩ := hlabel
      obtain ⟨rs, hrs, hpaints⟩ := ih
      refine ⟨r :: rs, ?_, by simp [hpaint, hpaints]⟩
      simp only [List.mapM_cons, Checked.bind_eq_ok_iff]
      exact ⟨r, hr, rs, hrs, rfl⟩

theorem paint_notes (notes : List String) :
    Report.paint false (notes.flatMap ofNote) = unlines (notes.map ("  = note: " ++ ·)) := by
  induction notes with
  | nil => rfl
  | cons note notes ih => simp [ofNote, ih, ← String.toList_inj]

end Report

theorem Reporter.report_eq_unlines {file : SourceFile} {d : Diagnostic}
    {blocks : List (List String)} (h : List.Forall₂ (Report.LaidOut file) d.labels blocks) :
    (Reporter.mk false (some file)).report d = .ok (unlines (Report.diagnosticRows d blocks)) := by
  obtain ⟨rs, hrs, hpaint⟩ := Report.exists_mapM_ofLabel h
  simp only [Reporter.report_eq_ok_iff, Report.ofDiagnostic, Checked.bind_eq_ok_iff]
  refine ⟨_, ⟨rs, hrs, rfl⟩, ?_⟩
  simp [hpaint, Report.diagnosticRows, Report.paint_notes, Report.header, Report.footer,
    Diagnostic.headline, ← String.toList_inj]

theorem not_mem_toList_append {c : Char} {a b : String} (ha : c ∉ a.toList) (hb : c ∉ b.toList) :
    c ∉ (a ++ b).toList := by
  simp [ha, hb]

theorem Diagnostic.not_mem_headline {d : Diagnostic} (h : '\n' ∉ d.message.toList) :
    '\n' ∉ d.headline.toList := by
  have hcode : '\n' ∉ d.code.text.toList := by
    cases d.code <;> decide
  exact not_mem_toList_append (not_mem_toList_append (not_mem_toList_append (by decide) hcode)
    (by decide)) h

theorem Report.not_mem_diagnosticRows {d : Diagnostic} {blocks : List (List String)}
    (hmessage : '\n' ∉ d.message.toList)
    (hblocks : ∀ rows ∈ blocks, ∀ row ∈ rows, '\n' ∉ row.toList)
    (hnotes : ∀ note ∈ d.notes, '\n' ∉ note.toList) :
    ∀ row ∈ diagnosticRows d blocks, '\n' ∉ row.toList := by
  intro row hrow
  simp only [diagnosticRows, List.cons_append, List.mem_cons, List.mem_append, List.mem_map,
    List.not_mem_nil, or_false] at hrow
  rcases hrow with rfl | (hrow | ⟨note, hnote, rfl⟩) | rfl
  · exact Diagnostic.not_mem_headline hmessage
  · obtain ⟨rows, hrows, hrow⟩ := List.mem_flatten.mp hrow
    exact hblocks rows hrows row hrow
  · exact not_mem_toList_append (by decide) (hnotes note hnote)
  · decide

end Lexis
