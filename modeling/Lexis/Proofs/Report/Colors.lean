import Lexis.Proofs.Report.Transcript
import Lexis.Proofs.Text.ControlSequences
import Lexis.Proofs.Text.Numeral

namespace Lexis

open Text

theorem Style.exists_opener (style : Style) :
    ∃ parameters : List Char, parameters.all isParameter = true ∧
      style.opener = String.ofList (controlSequence parameters) := by
  cases style with
  | error => exact ⟨"1;31".toList, by decide, by decide⟩
  | note => exact ⟨"1;36".toList, by decide, by decide⟩
  | strong => exact ⟨"1".toList, by decide, by decide⟩
  | gutter => exact ⟨"1;34".toList, by decide, by decide⟩

theorem Style.opener_ne_reset (style : Style) : style.opener ≠ reset := by
  cases style <;> decide

theorem Style.marks_opener (style : Style) (behind : List Char) :
    marks (style.opener.toList ++ behind) = .control style.opener :: marks behind := by
  obtain ⟨parameters, hparameters, hopener⟩ := style.exists_opener
  rw [hopener, String.toList_ofList, marks_controlSequence hparameters]

theorem Style.marks_reset (behind : List Char) :
    marks (reset.toList ++ behind) = .control reset :: marks behind := by
  have hreset : reset = String.ofList (controlSequence "0".toList) := by decide
  rw [hreset, String.toList_ofList, marks_controlSequence (by decide)]

/-- No escape character stands in the text. -/
def Text.EscapeFree (s : String) : Prop :=
  '\x1b' ∉ s.toList

instance : DecidablePred Text.EscapeFree :=
  fun s => inferInstanceAs (Decidable ('\x1b' ∉ s.toList))

/-- What a segment in colour is read as. -/
def Segment.marks (s : Segment) : List Mark :=
  match s.style with
  | some style => .control style.opener :: s.text.toList.map .char ++ [.control Style.reset]
  | none => s.text.toList.map .char

namespace Segment

@[simp] theorem text_plain (text : String) : (plain text).text = text := rfl

@[simp] theorem text_styled (style : Style) (text : String) : (styled style text).text = text := rfl

theorem marks_paint {s : Segment} (h : EscapeFree s.text) (behind : List Char) :
    Text.marks ((s.paint true).toList ++ behind) = s.marks ++ Text.marks behind := by
  rcases s with ⟨style, text⟩
  cases style with
  | none => exact marks_append h behind
  | some style =>
      simp only [paint, if_true, String.toList_append, List.append_assoc, Segment.marks]
      rw [style.marks_opener, marks_append h, Style.marks_reset]
      simp

variable (s : Segment)

theorem chars_marks : s.marks.filterMap Mark.char? = (s.paint false).toList := by
  rcases s with ⟨style, text⟩
  have hchars : (text.toList.map Mark.char).filterMap Mark.char? = text.toList := by
    rw [List.filterMap_map]
    exact List.filterMap_some
  cases style with
  | none => exact hchars
  | some style =>
      rw [Segment.marks, List.filterMap_append, List.filterMap_cons_none rfl, hchars]
      exact List.append_nil _

theorem controls_marks :
    s.marks.filterMap Mark.control? =
      s.style.toList.flatMap fun style => [style.opener, Style.reset] := by
  rcases s with ⟨style, text⟩
  have hchars : (text.toList.map Mark.char).filterMap Mark.control? = [] := by
    simp [List.filterMap_eq_nil_iff, Mark.control?]
  cases style with
  | none => exact hchars
  | some style =>
      have hopener : (Mark.control style.opener).control? = some style.opener := rfl
      rw [Segment.marks, List.filterMap_append, List.filterMap_cons_some hopener, hchars]
      rfl

end Segment

namespace Report

def EscapeFree (r : Report) : Prop :=
  ∀ s ∈ r, Text.EscapeFree s.text

variable {r : Report}

theorem marks_paint (h : EscapeFree r) :
    marks (Report.paint true r).toList = r.flatMap Segment.marks := by
  induction r with
  | nil => rw [paint_nil, String.toList_empty, marks, List.flatMap_nil]
  | cons s r ih =>
      obtain ⟨hs, hr⟩ := List.forall_mem_cons.mp h
      rw [paint_cons, String.toList_append, Segment.marks_paint hs, ih hr, List.flatMap_cons]

theorem withoutControls_paint (h : EscapeFree r) :
    withoutControls (Report.paint true r) = Report.paint false r := by
  apply String.toList_inj.mp
  rw [withoutControls, String.toList_ofList, marks_paint h, List.filterMap_flatMap]
  simp only [Segment.chars_marks, Report.paint, String.toList_join, List.flatMap_map]

theorem controls_paint (h : EscapeFree r) :
    controls (Report.paint true r) =
      (r.filterMap Segment.style).flatMap fun style => [style.opener, Style.reset] := by
  rw [controls, marks_paint h, List.filterMap_flatMap]
  simp only [Segment.controls_marks]
  rw [List.filterMap_eq_flatMap_toList, List.flatMap_assoc]

end Report

/-- The texts that a step brings along have no escape character in them. -/
def Reporter.Step.EscapeFree : Step → Prop
  | .report d => Text.EscapeFree d.message ∧ (∀ label ∈ d.labels, Text.EscapeFree label.message) ∧
      ∀ note ∈ d.notes, Text.EscapeFree note
  | .summarize _ => True
  | .attach path text => Text.EscapeFree path ∧ Text.EscapeFree text

structure SourceFile.EscapeFree (file : SourceFile) : Prop where
  path : Text.EscapeFree file.path
  text : Text.EscapeFree file.text

namespace Text

@[simp] theorem escapeFree_append {s t : String} :
    EscapeFree (s ++ t) ↔ EscapeFree s ∧ EscapeFree t := by
  rw [EscapeFree, String.toList_append, List.mem_append, not_or, EscapeFree, EscapeFree]

@[simp] theorem escapeFree_ofNat (n : Nat) : EscapeFree (Decimal.ofNat n) :=
  fun h => absurd (Decimal.isDigit_of_mem_ofNat h) (by decide)

theorem EscapeFree.of_slice? {s t : String} {a b : Nat} (hs : EscapeFree s)
    (h : slice? s a b = some t) : EscapeFree t := by
  obtain ⟨u, v, rfl, -, -⟩ := slice?_eq_some_iff.mp h
  rw [escapeFree_append, escapeFree_append] at hs
  exact hs.1.2

end Text

theorem LineTable.escapeFree_of_lineText {t : LineTable} {s line : String} {n : UInt32}
    (hs : EscapeFree s) (h : t.lineText s n = .ok (some line)) : EscapeFree line := by
  rw [lineText] at h
  split at h
  · simp at h
  · obtain ⟨following, -, h⟩ := Checked.bind_eq_ok_iff.mp h
    rw [Checked.pure_eq_ok_iff, Option.map_eq_some_iff] at h
    obtain ⟨cut, hcut, rfl⟩ := h
    intro hline
    rw [trimLineEnd, String.toList_ofList, List.mem_reverse] at hline
    have hmem := (List.dropWhile_suffix _).subset hline
    exact hs.of_slice? hcut (List.mem_reverse.mp hmem)

theorem Label.escapeFree_marker (label : Label) : EscapeFree label.marker := by
  rw [marker]
  split <;> decide

namespace Report

@[simp] theorem escapeFree_nil : EscapeFree [] := by
  simp [EscapeFree]

@[simp] theorem escapeFree_cons {s : Segment} {r : Report} :
    EscapeFree (s :: r) ↔ Text.EscapeFree s.text ∧ EscapeFree r :=
  List.forall_mem_cons

@[simp] theorem escapeFree_append {r r' : Report} :
    EscapeFree (r ++ r') ↔ EscapeFree r ∧ EscapeFree r' :=
  List.forall_mem_append

theorem escapeFree_header {d : Diagnostic} (h : Text.EscapeFree d.message) :
    EscapeFree (header d) := by
  have hcode : Text.EscapeFree d.code.text := by
    cases d.code <;> decide
  simp +decide [header, h, hcode]

theorem escapeFree_footer {d : Diagnostic} (h : ∀ note ∈ d.notes, Text.EscapeFree note) :
    EscapeFree (footer d) := by
  have hnotes : EscapeFree (d.notes.flatMap ofNote) := by
    intro s hs
    obtain ⟨note, hnote, hs⟩ := List.mem_flatMap.mp hs
    have hfree : EscapeFree (ofNote note) := by
      simp +decide [ofNote, h note hnote]
    exact hfree s hs
  simp +decide [footer, hnotes]

theorem escapeFree_summary (errors : Nat) : EscapeFree (summary errors) := by
  rw [summary]
  split
  · exact escapeFree_nil
  · split
    · simp +decide
    · simp +decide

section

variable {label : Label} (hmessage : Text.EscapeFree label.message)

include hmessage

theorem escapeFree_bareLabel : EscapeFree (bareLabel label) := by
  simp +decide [bareLabel, Span.render, label.escapeFree_marker, hmessage]

theorem escapeFree_sourceLabel {file : SourceFile} {layout : Report} (hfile : file.EscapeFree)
    (h : sourceLabel file label = .ok layout) : EscapeFree layout := by
  simp only [sourceLabel, Checked.bind_eq_ok_iff, Checked.pure_eq_ok_iff] at h
  obtain ⟨p, hp, shown, hshown, rfl⟩ := h
  have hexcerpt : ∀ line, shown = some line → EscapeFree (excerpt file label p line) := by
    rintro line rfl
    have hline := LineTable.escapeFree_of_lineText hfile.text hshown
    have hspaces (n : Nat) : Text.EscapeFree (spaces n) := by
      simp [Text.EscapeFree, spaces]
    have hcarets (before count : Nat) : Text.EscapeFree (carets before count) := by
      simp [Text.EscapeFree, carets]
    simp +decide [excerpt, margin, hline, hspaces, hcarets]
  cases shown with
  | none =>
      simp +decide [Position.render, label.escapeFree_marker, hfile.path, hmessage]
  | some line =>
      simp +decide [Position.render, label.escapeFree_marker, hfile.path, hmessage,
        hexcerpt line rfl]

theorem escapeFree_ofLabel {file : Option SourceFile} {layout : Report}
    (hfile : ∀ f ∈ file, f.EscapeFree) (h : ofLabel file label = .ok layout) :
    EscapeFree layout := by
  cases file with
  | none =>
      rw [← Except.ok.inj h]
      exact escapeFree_bareLabel hmessage
  | some file => exact escapeFree_sourceLabel hmessage (hfile file rfl) h

end

variable {file : Option SourceFile} {layout : Report}

theorem escapeFree_ofDiagnostic {d : Diagnostic} (hfile : ∀ f ∈ file, f.EscapeFree)
    (hd : (Reporter.Step.report d).EscapeFree) (h : ofDiagnostic file d = .ok layout) :
    EscapeFree layout := by
  obtain ⟨hmessage, hlabels, hnotes⟩ := hd
  simp only [ofDiagnostic, Checked.bind_eq_ok_iff, Checked.pure_eq_ok_iff] at h
  obtain ⟨layouts, hlayouts, rfl⟩ := h
  have hflat : EscapeFree layouts.flatten := by
    intro s hs
    obtain ⟨block, hblock, hs⟩ := List.mem_flatten.mp hs
    obtain ⟨label, hlabel, hlayout⟩ := Checked.exists_of_mem_mapM hlayouts hblock
    exact escapeFree_ofLabel (hlabels label hlabel) hfile hlayout s hs
  rw [escapeFree_append, escapeFree_append]
  exact ⟨⟨escapeFree_header hmessage, hflat⟩, escapeFree_footer hnotes⟩

theorem escapeFree_ofStep {s : Reporter.Step} (hfile : ∀ f ∈ file, f.EscapeFree)
    (hs : s.EscapeFree) (h : ofStep file s = .ok layout) : EscapeFree layout := by
  cases s with
  | report d => exact escapeFree_ofDiagnostic hfile hs h
  | summarize errors =>
      rw [← Except.ok.inj h]
      exact escapeFree_summary errors
  | attach path text =>
      rw [← Except.ok.inj h]
      exact escapeFree_nil

theorem join_paint (colors : Bool) (layouts : List Report) :
    String.join (layouts.map (Report.paint colors)) = Report.paint colors layouts.flatten := by
  induction layouts with
  | nil => rfl
  | cons layout layouts ih => simp [ih]

end Report

namespace Reporter

theorem Step.EscapeFree.file {file : Option SourceFile} {s : Step} (hs : s.EscapeFree)
    (hfile : ∀ f ∈ file, f.EscapeFree) : ∀ f ∈ s.file?.or file, f.EscapeFree := by
  cases s with
  | report d => exact hfile
  | summarize errors => exact hfile
  | attach path text =>
      rintro f ⟨⟩
      exact ⟨hs.1, hs.2⟩

theorem Transcript.escapeFree {file : Option SourceFile} {steps : List Step}
    {layouts : List Report} (h : Transcript file steps layouts) (hfile : ∀ f ∈ file, f.EscapeFree)
    (hsteps : ∀ s ∈ steps, s.EscapeFree) : Report.EscapeFree layouts.flatten := by
  induction h with
  | nil => exact Report.escapeFree_nil
  | cons hlayout hrest ih =>
      obtain ⟨hs, hsteps⟩ := List.forall_mem_cons.mp hsteps
      rw [List.flatten_cons, Report.escapeFree_append]
      exact ⟨Report.escapeFree_ofStep hfile hs hlayout, ih (hs.file hfile) hsteps⟩

/-- Deleting the control sequences from what a reporter writes in colour gives what it writes
without colour, and the sequences are in turn an opener and a reset, from the first to the last. -/
theorem run_colors_decorate (steps : List Step)
    (hsize : ∀ path text, Step.attach path text ∈ steps → text.utf8ByteSize < UInt32.size - 2)
    (hfree : ∀ s ∈ steps, s.EscapeFree) :
    ∃ colored plain : List String,
      (Reporter.mk true none).run steps = colored.map .ok ∧ colored.length = steps.length ∧
      (Reporter.mk false none).run steps = plain.map .ok ∧ plain.length = steps.length ∧
      withoutControls (String.join colored) = String.join plain ∧
      (∃ styles : List Style, controls (String.join colored) =
        styles.flatMap fun style => [style.opener, Style.reset]) ∧
      ∀ style : Style, style.opener ≠ Style.reset := by
  obtain ⟨layouts, hlayouts⟩ := exists_transcript Report.legible_none hsize
  have hflat : Report.EscapeFree layouts.flatten := hlayouts.escapeFree (by simp) hfree
  refine ⟨layouts.map (Report.paint true), layouts.map (Report.paint false),
    hlayouts.run_eq true, ?_, hlayouts.run_eq false, ?_, ?_, ?_, Style.opener_ne_reset⟩
  · rw [List.length_map, hlayouts.length_eq]
  · rw [List.length_map, hlayouts.length_eq]
  · rw [Report.join_paint, Report.join_paint, Report.withoutControls_paint hflat]
  · refine ⟨layouts.flatten.filterMap Segment.style, ?_⟩
    rw [Report.join_paint, Report.controls_paint hflat]

theorem run_colors_decorate_two_labels :
    "\"ö\r\ny".utf8ByteSize < UInt32.size - 2 ∧
      (∀ s ∈ [Step.attach "ö.why" "\"ö\r\ny", .report (.ofLexError ⟨⟨0, 3⟩, .lineBreak⟩),
        .summarize 1], s.EscapeFree) ∧
      ∃ colored plain : List String,
        (Reporter.mk true none).run [.attach "ö.why" "\"ö\r\ny",
          .report (.ofLexError ⟨⟨0, 3⟩, .lineBreak⟩), .summarize 1] = colored.map .ok ∧
        (Reporter.mk false none).run [.attach "ö.why" "\"ö\r\ny",
          .report (.ofLexError ⟨⟨0, 3⟩, .lineBreak⟩), .summarize 1] = plain.map .ok ∧
        withoutControls (String.join colored) = String.join plain ∧
        ∃ styles : List Style, controls (String.join colored) =
          styles.flatMap fun style => [style.opener, Style.reset] := by
  have hsize : "\"ö\r\ny".utf8ByteSize < UInt32.size - 2 := by decide
  have hfree : ∀ s ∈ [Step.attach "ö.why" "\"ö\r\ny",
      .report (.ofLexError ⟨⟨0, 3⟩, .lineBreak⟩), .summarize 1], s.EscapeFree := by
    simp only [List.forall_mem_cons]
    exact ⟨⟨by decide, by decide⟩, ⟨by decide, by decide, by decide⟩, trivial, by simp⟩
  obtain ⟨colored, plain, hcolored, -, hplain, -, hstrip, hstyles, -⟩ := run_colors_decorate
    [.attach "ö.why" "\"ö\r\ny", .report (.ofLexError ⟨⟨0, 3⟩, .lineBreak⟩), .summarize 1] (by
      intro path text h
      simp only [List.mem_cons, Step.attach.injEq, reduceCtorEq, List.not_mem_nil, or_false] at h
      rw [h.2]
      exact hsize) hfree
  exact ⟨hsize, hfree, colored, plain, hcolored, hplain, hstrip, hstyles⟩

end Reporter

end Lexis
