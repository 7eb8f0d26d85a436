import Lexis.Proofs.Lexer.Segmentation
import Lexis.Proofs.LineTable.Lookup
import Lexis.Proofs.Report.Rows

/-!
Reports of lexical errors point at the text that is wrong. What is wrong with a source is one lexeme
without line breaks, so its line is shown with all of it, and the carets below the line stand under
this lexeme and under nothing else.
-/

namespace Lexis

open Text Report

/-- Four of the rows, the given one the first, show a label: its place, the text of its line, and
below the text a single run of carets that begins in the given column. -/
structure ShowsLabel (rows : List String) (first : Nat) (marker path : String)
    (line column count : Nat) (text : String) : Prop where
  location : rows[first]? = some ("  " ++ marker ++ " " ++ path ++ ":" ++ Decimal.ofNat line ++ ":"
    ++ Decimal.ofNat column)
  source : rows[first + 2]? = some (gutter (Decimal.ofNat line) ++ text)
  carets : ∃ left right : List Char,
    rows[first + 3]? = some (String.ofList (left ++ (List.replicate count '^' ++ right))) ∧
      left.length + 1 = (gutter (Decimal.ofNat line)).length + column ∧
      '^' ∉ left ∧ '^' ∉ right

/-- The characters of a row that stand above the carets of the row below it. -/
def aboveCarets (row below : List Char) : List Char :=
  ((row.zip below).filter (·.2 == '^')).map Prod.fst

theorem aboveCarets_append {row row' below below' : List Char}
    (h : row.length = below.length) :
    aboveCarets (row ++ row') (below ++ below') =
      aboveCarets row below ++ aboveCarets row' below' := by
  rw [aboveCarets, List.zip_append h, List.filter_append, List.map_append]
  rfl

theorem aboveCarets_of_not_mem {row below : List Char} (h : '^' ∉ below) :
    aboveCarets row below = [] := by
  have hnone : (row.zip below).filter (·.2 == '^') = [] := by
    rw [List.filter_eq_nil_iff]
    rintro ⟨c, d⟩ hmem hd
    have hmem := (List.of_mem_zip hmem).2
    have hd : d = '^' := by simpa using hd
    exact h (hd ▸ hmem)
  rw [aboveCarets, hnone, List.map_nil]

theorem aboveCarets_replicate (row : List Char) :
    aboveCarets row (List.replicate row.length '^') = row := by
  induction row with
  | nil => rfl
  | cons c row ih =>
      rw [aboveCarets] at ih ⊢
      simp [List.replicate_succ, ih]

theorem ShowsLabel.aboveCarets_eq {rows : List String} {first : Nat} {marker path text : String}
    {line column : Nat} {pre marked post : List Char}
    (h : ShowsLabel rows first marker path line column marked.length text)
    (htext : text.toList = pre ++ (marked ++ post)) (hcolumn : pre.length + 1 = column) :
    ∃ row below, rows[first + 2]? = some row ∧ rows[first + 3]? = some below ∧
      aboveCarets row.toList below.toList = marked := by
  obtain ⟨left, right, hbelow, hlength, hleft, hright⟩ := h.carets
  refine ⟨_, _, h.source, hbelow, ?_⟩
  have hrow : (gutter (Decimal.ofNat line) ++ text).toList =
      (gutter (Decimal.ofNat line)).toList ++ pre ++ (marked ++ post) := by
    simp [htext]
  have hlength : ((gutter (Decimal.ofNat line)).toList ++ pre).length = left.length := by
    rw [List.length_append, String.length_toList]
    omega
  rw [hrow, String.toList_ofList, aboveCarets_append hlength, aboveCarets_append (by simp),
    aboveCarets_of_not_mem hleft, aboveCarets_of_not_mem hright, aboveCarets_replicate,
    List.nil_append, List.append_nil]

theorem showsLabel_labelRows {path text : String} {label : Label} {p : Position}
    {line column count : Nat} (before after : List String) (hline : p.line.toNat = line)
    (hcolumn : p.column.toNat = column) (hpos : 0 < column)
    (hmessage : '^' ∉ label.message.toList) :
    ShowsLabel (before ++ (labelRows path label p text count ++ after)) before.length label.marker
      path line column count text := by
  subst hline hcolumn
  constructor
  · rw [List.getElem?_append_right (Nat.le_refl _), Nat.sub_self]
    simp [labelRows, Position.render, ← String.toList_inj]
  · rw [List.getElem?_append_right (by omega), Nat.add_sub_cancel_left]
    simp [labelRows]
  · refine ⟨(gutter (spaces (Decimal.ofNat p.line.toNat).length)).toList ++
      List.replicate (p.column.toNat - 1) ' ', ' ' :: label.message.toList, ?_, ?_, ?_, ?_⟩
    · rw [List.getElem?_append_right (by omega), Nat.add_sub_cancel_left]
      simp [labelRows, Report.carets, ← String.toList_inj]
    · rw [List.length_append, String.length_toList, length_gutter_spaces, List.length_replicate]
      omega
    · simp [gutter, spaces]
    · simpa using hmessage

theorem laidOut_of_toList {path s : String} {label : Label} {front part back : List Char}
    (hs : s.toList = front ++ (part ++ back)) (hsize : s.utf8ByteSize < UInt32.size - 2)
    (hspan : label.span = .cover (byteLength front) part) :
    LaidOut (.ofText path s) label
      (labelRows path label ⟨UInt32.ofNat (lineNumber front), UInt32.ofNat (columnNumber front)⟩
        (String.ofList (shownLine front (part ++ back)))
        (caretCount part.length (lineFront front).length
          (shownLine front (part ++ back)).length)) := by
  have hlimit : s.utf8ByteSize ≤ Cursor.sourceLimit := by
    rw [Cursor.sourceLimit]
    omega
  obtain ⟨hstart, hstop⟩ := Span.toNat_cover hlimit hs
  rw [← hspan] at hstart hstop
  have hplace : min label.span.start.toNat s.utf8ByteSize = byteLength front := by
    rw [hstart, utf8ByteSize_of_toList hs]
    omega
  have hmarked : markedLength s label.span = part.length := by
    rw [markedLength, hstart, hstop, slice?_of_toList_eq hs]
    simp
  have hbefore : (UInt32.ofNat (columnNumber front)).toNat - 1 = (lineFront front).length := by
    rw [UInt32.toNat_ofNat_of_lt' (LineTable.columnNumber_lt hs hsize), columnNumber]
    omega
  have hposition := LineTable.position_ofText hs hsize hplace
  have hline := LineTable.lineText_ofText hs hsize
  have hrows : LaidOut (.ofText path s) label _ := laidOut_labelRows hposition hline
  simpa only [SourceFile.ofText, hmarked, hbefore, String.length_ofList] using hrows

theorem not_mem_labelRows {path line : String} {label : Label} {p : Position} {count : Nat}
    (hpath : '\n' ∉ path.toList) (hline : '\n' ∉ line.toList)
    (hmessage : '\n' ∉ label.message.toList) :
    ∀ row ∈ labelRows path label p line count, '\n' ∉ row.toList := by
  have hnumber (n : Nat) : '\n' ∉ (Decimal.ofNat n).toList := by
    intro h
    exact absurd (Decimal.isDigit_of_mem_ofNat h) (by decide)
  have hmarker : '\n' ∉ label.marker.toList := by
    rw [Label.marker]
    split <;> decide
  intro row hrow
  simp only [labelRows, List.mem_cons, List.not_mem_nil, or_false] at hrow
  rcases hrow with rfl | rfl | rfl | rfl
  · simp [Position.render, hpath, hnumber, hmarker]
  · simp [spaces]
  · simp [gutter, hnumber, hline]
  · simp [gutter, spaces, Report.carets, hmessage]

theorem exists_laidOut {path s : String} (label : Label) {front part back : List Char}
    (hpath : '\n' ∉ path.toList) (hs : s.toList = front ++ (part ++ back))
    (hsize : s.utf8ByteSize < UInt32.size - 2)
    (hspan : label.span = .cover (byteLength front) part)
    (hfeed : '\n' ∉ label.message.toList) (hcaret : '^' ∉ label.message.toList) :
    ∃ rows, LaidOut (.ofText path s) label rows ∧ rows.length = 4 ∧
      (∀ row ∈ rows, '\n' ∉ row.toList) ∧
      ∀ before after : List String, ShowsLabel (before ++ (rows ++ after)) before.length
        label.marker path (lineNumber front) (columnNumber front)
        (caretCount part.length (lineFront front).length (shownLine front (part ++ back)).length)
        (String.ofList (shownLine front (part ++ back))) := by
  have hline : (UInt32.ofNat (lineNumber front)).toNat = lineNumber front :=
    UInt32.toNat_ofNat_of_lt' (Nat.lt_of_succ_lt (LineTable.lineNumber_lt hs hsize))
  have hcolumn : (UInt32.ofNat (columnNumber front)).toNat = columnNumber front :=
    UInt32.toNat_ofNat_of_lt' (LineTable.columnNumber_lt hs hsize)
  refine ⟨_, laidOut_of_toList hs hsize hspan, rfl, not_mem_labelRows hpath ?_ hfeed, ?_⟩
  · rw [String.toList_ofList]
    exact not_mem_shownLine front (part ++ back)
  · intro before after
    exact showsLabel_labelRows before after hline hcolumn (columnNumber_pos front) hcaret

theorem caretCount_shownLine (front back : List Char) {part : List Char} (hne : part ≠ [])
    (hpart : ∀ c ∈ part, isLineBreak c = false) :
    caretCount part.length (lineFront front).length (shownLine front (part ++ back)).length =
      part.length := by
  obtain ⟨post, htext⟩ := exists_shownLine_eq front back hne hpart
  have hpos := List.length_pos_iff.mpr hne
  rw [htext]
  simp only [caretCount, List.length_append]
  omega

theorem exists_laidOut_behind {path s : String} (label : Label) {front part back : List Char}
    (hpath : '\n' ∉ path.toList) (hs : s.toList = front ++ (part ++ back))
    (hsize : s.utf8ByteSize < UInt32.size - 2) (hpart : '\n' ∉ part)
    (hspan : label.span = .cover (byteLength front + byteLength part) [])
    (hfeed : '\n' ∉ label.message.toList) (hcaret : '^' ∉ label.message.toList) :
    ∃ rows, LaidOut (.ofText path s) label rows ∧ (∀ row ∈ rows, '\n' ∉ row.toList) ∧
      ∀ before after : List String, ShowsLabel (before ++ (rows ++ after)) before.length
        label.marker path (lineNumber front) (columnNumber front + part.length) 1
        (String.ofList (shownLine front (part ++ back))) := by
  -- The place is an empty part of the source, between `front ++ part` and `back`.
  have hbehind : s.toList = (front ++ part) ++ ([] ++ back) := by simp [hs]
  rw [← byteLength_append] at hspan
  obtain ⟨rows, hlaid, -, hrows, hshows⟩ :=
    exists_laidOut label hpath hbehind hsize hspan hfeed hcaret
  refine ⟨rows, hlaid, hrows, ?_⟩
  rw [lineNumber_append hpart, columnNumber_append hpart, List.nil_append,
    shownLine_append hpart, List.length_nil, caretCount_zero] at hshows
  exact hshows

theorem Diagnostic.labels_ofLexError (e : LexError) :
    ∃ message : String, '\n' ∉ message.toList ∧ '^' ∉ message.toList ∧
      (ofLexError e).labels = ⟨.primary, e.span, message⟩ ::
        if e.cause = .lineBreak then [⟨.secondary, .point e.span.stop, "line ends here"⟩]
        else [] := by
  rcases e with ⟨span, cause⟩
  cases cause with
  | lineBreak => exact ⟨"string literal is never closed", by decide, by decide, rfl⟩
  | endOfInput => exact ⟨"string literal is never closed", by decide, by decide, rfl⟩
  | integerRange literal => exact ⟨"integer literal out of range", by decide, by decide, rfl⟩

theorem Diagnostic.not_mem_notes_ofLexError (e : LexError) :
    ∀ note ∈ (ofLexError e).notes, '\n' ∉ note.toList := by
  rcases e with ⟨span, cause⟩
  cases cause with
  | lineBreak =>
      simp only [ofLexError, withNote, withSecondaryLabel, withLabel, withMessage, error,
        List.nil_append, List.forall_mem_singleton]
      decide
  | endOfInput =>
      simp only [ofLexError, withNote, withLabel, withMessage, error, List.nil_append,
        List.forall_mem_singleton]
      decide
  | integerRange literal =>
      simp only [ofLexError, withNote, withLabel, withMessage, error, List.nil_append,
        List.forall_mem_singleton]
      decide +kernel

theorem Diagnostic.message_ofLexError (e : LexError) : (ofLexError e).message = e.message := by
  rcases e with ⟨span, cause⟩
  cases cause <;> rfl

theorem Spells.not_mem_message {lexeme : List Char} {next : Option Char} {cause : LexError.Cause}
    (h : Spells lexeme next (.error cause)) : '\n' ∉ cause.message.toList := by
  have hfeed : '\n' ∉ (String.ofList lexeme).toList := by
    rw [String.toList_ofList]
    exact not_mem_of_isLineBreak h.isLineBreak_eq_false
  cases h with
  | lineBreak => decide
  | endOfInput => decide
  | integerRange =>
      exact not_mem_toList_append (not_mem_toList_append (by decide) hfeed) (by decide)

theorem exists_report_ofLexError {path s : String} {e : LexError} {front marked back : List Char}
    (hpath : '\n' ∉ path.toList) (hs : s.toList = front ++ (marked ++ back))
    (hsize : s.utf8ByteSize < UInt32.size - 2) (hspan : e.span = .cover (byteLength front) marked)
    (hspells : Spells marked back.head? (.error e.cause)) :
    ∃ rows, ((Reporter.mk false none).attach path s).report (.ofLexError e) = .ok (unlines rows) ∧
      (∀ row ∈ rows, '\n' ∉ row.toList) ∧
      ShowsLabel rows 1 "-->" path (lineNumber front) (columnNumber front) marked.length
        (String.ofList (shownLine front (marked ++ back))) ∧
      (e.cause = .lineBreak →
        ShowsLabel rows 5 ":::" path (lineNumber front) (columnNumber front + marked.length) 1
          (String.ofList (shownLine front (marked ++ back)))) := by
  have hbreaks := hspells.isLineBreak_eq_false
  have hpoint : Span.point e.span.stop =
      .cover (byteLength front + byteLength marked) [] := by
    rw [hspan]
    rfl
  have hends : '\n' ∉ "line ends here".toList ∧ '^' ∉ "line ends here".toList := by decide
  obtain ⟨message, hmessage, hcaret, hlabels⟩ := Diagnostic.labels_ofLexError e
  obtain ⟨rows, hlaid, hlength, hrows, hshows⟩ :=
    exists_laidOut ⟨.primary, e.span, message⟩ hpath hs hsize hspan hmessage hcaret
  rw [caretCount_shownLine front back hspells.ne_nil hbreaks] at hshows
  obtain ⟨rows', hlaid', hrows', hshows'⟩ :=
    exists_laidOut_behind ⟨.secondary, .point e.span.stop, "line ends here"⟩ hpath hs hsize
      (not_mem_of_isLineBreak hbreaks) hpoint hends.1 hends.2
  have hblocks : List.Forall₂ (LaidOut (.ofText path s)) (Diagnostic.ofLexError e).labels
      (rows :: if e.cause = .lineBreak then [rows'] else []) := by
    rw [hlabels]
    refine .cons hlaid ?_
    split
    · exact .cons hlaid' .nil
    · exact .nil
  refine ⟨_, Reporter.report_eq_unlines hblocks, ?_, ?_, ?_⟩
  · refine not_mem_diagnosticRows ?_ ?_ (Diagnostic.not_mem_notes_ofLexError e)
    · rw [Diagnostic.message_ofLexError]
      exact hspells.not_mem_message
    · intro block hblock
      rcases List.mem_cons.mp hblock with rfl | hblock
      · exact hrows
      · split at hblock
        · rw [List.mem_singleton.mp hblock]
          exact hrows'
        · simp at hblock
  · have h := hshows [(Diagnostic.ofLexError e).headline]
      ((if e.cause = .lineBreak then [rows'] else []).flatten ++
        ((Diagnostic.ofLexError e).notes.map ("  = note: " ++ ·) ++ [""]))
    simpa [diagnosticRows, Label.marker, Label.isPrimary] using h
  · intro hcause
    have h := hshows' ((Diagnostic.ofLexError e).headline :: rows)
      ((Diagnostic.ofLexError e).notes.map ("  = note: " ++ ·) ++ [""])
    simpa [diagnosticRows, Label.marker, Label.isPrimary, hcause, hlength] using h

/-- The report of a lexical error shows the line of the error with a caret below each character of
the text in error, and behind a string that a line break cuts off one caret more. -/
theorem report_ofLexError_marks {path s : String} {e : LexError} (hpath : '\n' ∉ path.toList)
    (hsize : s.utf8ByteSize < UInt32.size - 2) (hlex : lex s = .ok (.error e)) :
    ∃ (front marked text : String) (rows : List String),
      slice? s 0 e.span.start.toNat = some front ∧
      slice? s e.span.start.toNat e.span.stop.toNat = some marked ∧
      ((Reporter.mk false none).attach path s).report (.ofLexError e) = .ok (unlines rows) ∧
      (∀ row ∈ rows, '\n' ∉ row.toList) ∧
      ShowsLabel rows 1 "-->" path (lineNumber front.toList) (columnNumber front.toList)
        marked.length text ∧
      '\n' ∉ text.toList ∧
      (text.toList.drop (columnNumber front.toList - 1)).take marked.length = marked.toList ∧
      (∃ row below, rows[3]? = some row ∧ rows[4]? = some below ∧
        aboveCarets row.toList below.toList = marked.toList) ∧
      (e.cause = .lineBreak →
        ShowsLabel rows 5 ":::" path (lineNumber front.toList)
          (columnNumber front.toList + marked.length) 1 text) := by
  have hlimit : s.utf8ByteSize ≤ Cursor.sourceLimit := by
    rw [Cursor.sourceLimit]
    omega
  obtain ⟨front, marked, back, hs, hspan, hspells⟩ :=
    ((lex_eq_ok_iff_segments hlimit).mp hlex).exists_spells_of_error
  rw [Nat.zero_add] at hspan
  obtain ⟨hstart, hstop⟩ := Span.toNat_cover hlimit hs
  rw [← hspan] at hstart hstop
  obtain ⟨post, htext⟩ := exists_shownLine_eq front back hspells.ne_nil hspells.isLineBreak_eq_false
  obtain ⟨rows, hreport, hrows, hshows, hends⟩ :=
    exists_report_ofLexError hpath hs hsize hspan hspells
  have hfront : slice? s 0 e.span.start.toNat = some (String.ofList front) := by
    have hcut : s.toList = [] ++ (front ++ (marked ++ back)) := hs
    simpa [hstart] using slice?_of_toList_eq hcut
  have hmarked : slice? s e.span.start.toNat e.span.stop.toNat = some (String.ofList marked) := by
    rw [hstart, hstop]
    exact slice?_of_toList_eq hs
  refine ⟨_, _, String.ofList (shownLine front (marked ++ back)), rows, hfront, hmarked, hreport,
    hrows, ?_⟩
  simp only [String.toList_ofList, String.length_ofList]
  refine ⟨hshows, not_mem_shownLine front (marked ++ back), ?_, ?_, hends⟩
  · rw [htext, columnNumber, Nat.add_sub_cancel_left, List.drop_left, List.take_left]
  · rw [htext] at hshows
    exact hshows.aboveCarets_eq String.toList_ofList (Nat.add_comm _ _)

theorem report_ofLexError_marks_tenth_line :
    '\n' ∉ "é.why".toList ∧
      "\n\n\n\n\n\n\n\n\n\t\"ß\" é \"größe\r\ny".utf8ByteSize < UInt32.size - 2 ∧
      lex "\n\n\n\n\n\n\n\n\n\t\"ß\" é \"größe\r\ny" = .ok (.error ⟨⟨18, 26⟩, .lineBreak⟩) ∧
      ∃ text rows, ((Reporter.mk false none).attach "é.why"
          "\n\n\n\n\n\n\n\n\n\t\"ß\" é \"größe\r\ny").report
            (.ofLexError ⟨⟨18, 26⟩, .lineBreak⟩) = .ok (unlines rows) ∧
        ShowsLabel rows 1 "-->" "é.why" 10 8 6 text ∧
        ShowsLabel rows 5 ":::" "é.why" 10 14 1 text := by
  have hpath : '\n' ∉ "é.why".toList := by decide
  have hlex : lex "\n\n\n\n\n\n\n\n\n\t\"ß\" é \"größe\r\ny" =
      .ok (.error ⟨⟨18, 26⟩, .lineBreak⟩) := by decide +kernel
  refine ⟨hpath, by decide, hlex, ?_⟩
  obtain ⟨front, marked, text, rows, hfront, hmarked, hreport, -, hshows, -, -, -, hends⟩ :=
    report_ofLexError_marks hpath (by decide) hlex
  have hcut : slice? "\n\n\n\n\n\n\n\n\n\t\"ß\" é \"größe\r\ny" 0 18 =
      some "\n\n\n\n\n\n\n\n\n\t\"ß\" é " :=
    slice?_eq_some_iff.mpr ⟨"", "\"größe\r\ny", by decide, by decide, by decide⟩
  have hcut' : slice? "\n\n\n\n\n\n\n\n\n\t\"ß\" é \"größe\r\ny" 18 26 = some "\"größe" :=
    slice?_eq_some_iff.mpr ⟨"\n\n\n\n\n\n\n\n\n\t\"ß\" é ", "\r\ny", by decide, by decide,
      by decide⟩
  obtain rfl := Option.some.inj (hfront.symm.trans hcut)
  obtain rfl := Option.some.inj (hmarked.symm.trans hcut')
  exact ⟨text, rows, hreport, hshows, hends rfl⟩

end Lexis
