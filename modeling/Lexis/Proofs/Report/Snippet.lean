import Lexis.Proofs.LineTable.Limits
import Lexis.Proofs.Report.Pointing

namespace Lexis

open Text Report

/-- How many characters of `s` lie both between the offsets `a` and `b` and between `c` and `d`. -/
def Text.commonLength (s : String) (a b c d : Nat) : Nat :=
  ((slice? s (max a c) (min b d)).getD "").length

theorem Text.byteLength_le_of_prefix {part whole : List Char} (h : part <+: whole) :
    byteLength part ≤ byteLength whole := by
  obtain ⟨rest, rfl⟩ := h
  rw [byteLength_append]
  exact Nat.le_add_right _ _

theorem Text.shownLine_prefix (front back : List Char) :
    shownLine front back <+: lineFront front ++ back := by
  obtain ⟨later, hlater⟩ := exists_lineRest_append back
  have hline : lineFront front ++ lineRest back <+: lineFront front ++ back := by
    rw [List.prefix_append_right_inj]
    exact ⟨later, hlater.symm⟩
  exact (List.rdropWhile_prefix _ _).trans hline

theorem Text.commonLength_shownLine {s : String} {front part back : List Char}
    (hs : s.toList = front ++ (part ++ back)) :
    commonLength s (byteLength front) (byteLength front + byteLength part)
        (byteLength (linesBefore front))
        (byteLength (linesBefore front) + byteLength (shownLine front (part ++ back))) =
      min part.length ((shownLine front (part ++ back)).length - (lineFront front).length) := by
  have hlines := byteLength_linesBefore_add front
  have hprefix := shownLine_prefix front (part ++ back)
  rw [commonLength, Nat.max_eq_left (by omega)]
  rcases List.prefix_or_prefix_of_prefix hprefix (List.prefix_append _ _) with
    hshort | ⟨shown, hline⟩
  · -- The line ends, but for its line breaks, before the part begins.
    have hbytes := byteLength_le_of_prefix hshort
    have hlength := length_slice?_getD_le_sub s (byteLength front)
      (min (byteLength front + byteLength part)
        (byteLength (linesBefore front) + byteLength (shownLine front (part ++ back))))
    have hchars := hshort.length_le
    omega
  · have hshown : shown <+: part ++ back := by
      rwa [← hline, List.prefix_append_right_inj] at hprefix
    rw [← hline, byteLength_append, ← Nat.add_assoc, hlines, List.length_append,
      Nat.add_sub_cancel_left]
    rcases List.prefix_or_prefix_of_prefix hshown (List.prefix_append part back) with
      ⟨rest, rfl⟩ | ⟨rest, rfl⟩
    · have hcut : s.toList = front ++ (shown ++ (rest ++ back)) := by
        rw [hs, List.append_assoc]
      rw [Nat.min_eq_right (by simp), slice?_of_toList_eq hcut]
      simp
    · rw [Nat.min_eq_left (by simp), slice?_of_toList_eq hs]
      simp

/-- The parts of the rows in which a label is shown. The margin of the carets is the empty one. -/
structure Snippet where
  place : String
  blank : String
  numbered : String
  line : String
  marks : String
  message : String

namespace Snippet

def rows (x : Snippet) : List String :=
  [x.place, x.blank, x.numbered ++ " " ++ x.line, x.blank ++ " " ++ x.marks ++ " " ++ x.message]

/-- The margins are equally wide, so that each mark stands below the character of the line with the
same index. -/
structure Aligned (x : Snippet) : Prop where
  margin_eq : x.blank.length = x.numbered.length
  line_at : ∀ k, (x.numbered ++ " " ++ x.line).toList[x.blank.length + 1 + k]? = x.line.toList[k]?
  marks_at : ∀ k < x.marks.length,
    (x.blank ++ " " ++ x.marks ++ " " ++ x.message).toList[x.blank.length + 1 + k]? =
      x.marks.toList[k]?

theorem aligned_of_length_eq {x : Snippet} (h : x.blank.length = x.numbered.length) :
    x.Aligned where
  margin_eq := h
  line_at := by
    intro k
    have hleft : (x.numbered ++ " ").toList.length = x.blank.length + 1 := by
      rw [String.length_toList, String.length_append, h]
      rfl
    rw [String.toList_append, List.getElem?_append_right (by omega), hleft,
      Nat.add_sub_cancel_left]
  marks_at := by
    intro k hk
    have hleft : (x.blank ++ " ").toList.length = x.blank.length + 1 := by
      rw [String.length_toList, String.length_append]
      rfl
    have hrow : (x.blank ++ " " ++ x.marks ++ " " ++ x.message).toList =
        (x.blank ++ " ").toList ++ (x.marks.toList ++ (" " ++ x.message).toList) := by
      simp
    rw [hrow, List.getElem?_append_right (by omega), hleft, Nat.add_sub_cancel_left,
      List.getElem?_append_left (by rwa [String.length_toList])]

/-- The snippet of a label at position `p`, with `count` carets. -/
def ofLabel (path : String) (label : Label) (p : Position) (line : String) (count : Nat) :
    Snippet where
  place := "  " ++ label.marker ++ " " ++ path ++ ":" ++ p.render
  blank := " " ++ spaces (Decimal.ofNat p.line.toNat).length ++ " |"
  numbered := " " ++ Decimal.ofNat p.line.toNat ++ " |"
  line := line
  marks := carets (p.column.toNat - 1) count
  message := label.message

theorem rows_ofLabel (path : String) (label : Label) (p : Position) (line : String)
    (count : Nat) : (ofLabel path label p line count).rows = labelRows path label p line count := by
  simp [rows, ofLabel, labelRows, gutter, ← String.toList_inj]

theorem aligned_ofLabel (path : String) (label : Label) (p : Position) (line : String)
    (count : Nat) : (ofLabel path label p line count).Aligned := by
  apply aligned_of_length_eq
  simp [ofLabel, spaces]

end Snippet

theorem caretCount_eq_commonLength {s : String} (hsize : s.utf8ByteSize < UInt32.size - 2)
    {span : Span} {p : Position} {line : String}
    (hp : (LineTable.ofText s).position s span.start = .ok p)
    (hline : (LineTable.ofText s).lineText s p.line = .ok (some line))
    (hle : span.start ≤ span.stop) (hstart : String.Pos.Raw.IsValid s ⟨span.start.toNat⟩)
    (hstop : String.Pos.Raw.IsValid s ⟨span.stop.toNat⟩) :
    ∃ first, (LineTable.ofText s).start? p.line = some first ∧
      slice? s first.toNat (first.toNat + line.utf8ByteSize) = some line ∧
      caretCount (markedLength s span) (p.column.toNat - 1) line.length =
        max 1 (commonLength s span.start.toNat span.stop.toNat first.toNat
          (first.toNat + line.utf8ByteSize)) := by
  rw [UInt32.le_iff_toNat_le] at hle
  obtain ⟨u, t, v, rfl, hu, ht⟩ := exists_append_of_isValid hle hstart hstop
  rw [← byteLength_toList] at hu ht
  rw [← byteLength_toList] at ht
  have hs : (u ++ t ++ v).toList = u.toList ++ (t.toList ++ v.toList) := by simp
  have hbounds := LineTable.byteLength_add_lt hs hsize
  have hlines := byteLength_linesBefore_add u.toList
  have hplace : min span.start.toNat (u ++ t ++ v).utf8ByteSize = byteLength u.toList := by
    rw [hu, utf8ByteSize_of_toList hs]
    omega
  obtain rfl := Except.ok.inj (hp.symm.trans (LineTable.position_ofText hs hsize hplace))
  obtain rfl := Option.some.inj (Except.ok.inj (hline.symm.trans
    (LineTable.lineText_ofText hs hsize)))
  have hnumber := Nat.lt_of_succ_lt (LineTable.lineNumber_lt hs hsize)
  have hfirst : (UInt32.ofNat (byteLength (linesBefore u.toList))).toNat =
      byteLength (linesBefore u.toList) := UInt32.toNat_ofNat_of_lt' (by omega)
  have hmarked : markedLength (u ++ t ++ v) span = t.toList.length := by
    rw [markedLength, hu, ht, slice?_of_toList_eq hs, Option.map_some, Option.getD_some,
      String.length_ofList]
  have hbefore : (UInt32.ofNat (columnNumber u.toList)).toNat - 1 =
      (lineFront u.toList).length := by
    rw [UInt32.toNat_ofNat_of_lt' (LineTable.columnNumber_lt hs hsize), columnNumber,
      Nat.add_sub_cancel_left]
  refine ⟨_, LineTable.start?_ofText hs hnumber, ?_, ?_⟩
  · obtain ⟨later, hlater⟩ := shownLine_prefix u.toList (t.toList ++ v.toList)
    have hshown : (u ++ t ++ v).toList = linesBefore u.toList ++
        (shownLine u.toList (t.toList ++ v.toList) ++ later) := by
      rw [hlater, ← List.append_assoc, linesBefore_append_lineFront, hs]
    rw [hfirst, utf8ByteSize_ofList]
    exact slice?_of_toList_eq hshown
  · rw [hfirst, hu, ht, utf8ByteSize_ofList, commonLength_shownLine hs, hmarked, hbefore,
      String.length_ofList, caretCount]

/-- Over a source below the size limit every label is shown in four rows: in the third its line, in
the fourth, from the column of its place on, one caret or more; and as many as the span has
characters of the line, if it is a stretch of the source with any there. -/
theorem label_shown_in_four_rows (path s : String) (label : Label)
    (hsize : s.utf8ByteSize < UInt32.size - 2) (hpath : '\n' ∉ path.toList)
    (hmessage : '\n' ∉ label.message.toList) :
    ∃ (p : Position) (x : Snippet) (count : Nat),
      (LineTable.ofText s).position s label.span.start = .ok p ∧
      (LineTable.ofText s).lineText s p.line = .ok (some x.line) ∧
      (∃ front back, s.toList = front ++ back ∧ PlaceOf label.span.start.toNat front back ∧
        p.line.toNat = lineNumber front ∧ x.line = String.ofList (shownLine front back)) ∧
      ((Reporter.mk false none).attach path s).writeLabel label =
        .ok (unlines x.rows, (Reporter.mk false none).attach path s) ∧
      (∀ row ∈ x.rows, '\n' ∉ row.toList) ∧
      x.place = "  " ++ label.marker ++ " " ++ path ++ ":" ++ p.render ∧
      x.blank = " " ++ spaces (Decimal.ofNat p.line.toNat).length ++ " |" ∧
      x.numbered = " " ++ Decimal.ofNat p.line.toNat ++ " |" ∧
      x.message = label.message ∧ x.Aligned ∧
      x.marks.toList = List.replicate (p.column.toNat - 1) ' ' ++ List.replicate count '^' ∧
      1 ≤ p.column.toNat ∧ 1 ≤ count ∧
      (label.span.start ≤ label.span.stop →
        String.Pos.Raw.IsValid s ⟨label.span.start.toNat⟩ →
        String.Pos.Raw.IsValid s ⟨label.span.stop.toNat⟩ →
        ∃ first, (LineTable.ofText s).start? p.line = some first ∧
          slice? s first.toNat (first.toNat + x.line.utf8ByteSize) = some x.line ∧
          count = max 1 (commonLength s label.span.start.toNat label.span.stop.toNat first.toNat
            (first.toNat + x.line.utf8ByteSize))) := by
  obtain ⟨front, back, column, hs, hplace, hcolumn, hposition, hline⟩ :=
    LineTable.exists_position_lineText hsize label.span.start
  have hnumber : (UInt32.ofNat (lineNumber front)).toNat = lineNumber front :=
    UInt32.toNat_ofNat_of_lt' (Nat.lt_of_succ_lt (LineTable.lineNumber_lt hs hsize))
  have hfeed : '\n' ∉ (String.ofList (shownLine front back)).toList := by
    rw [String.toList_ofList]
    exact not_mem_shownLine front back
  have hlaid : LaidOut (.ofText path s) label _ := laidOut_labelRows hposition hline
  rw [← Snippet.rows_ofLabel] at hlaid
  refine ⟨⟨.ofNat (lineNumber front), column⟩, _, _, hposition, hline,
    ⟨front, back, hs, hplace, hnumber, rfl⟩, hlaid.writeLabel, ?_, rfl, rfl, rfl, rfl,
    Snippet.aligned_ofLabel _ _ _ _ _, String.toList_ofList, hcolumn, Nat.le_max_left _ _,
    caretCount_eq_commonLength hsize hposition hline⟩
  rw [Snippet.rows_ofLabel]
  exact not_mem_labelRows hpath hfeed hmessage

theorem label_shown_in_four_rows_across_lines :
    '\n' ∉ "ö.why".toList ∧ '\n' ∉ "open".toList ∧
      "ö = \"x\r\r\ny".utf8ByteSize < UInt32.size - 2 ∧
      ∃ x : Snippet,
        ((Reporter.mk false none).attach "ö.why" "ö = \"x\r\r\ny").writeLabel
            ⟨.secondary, ⟨5, 11⟩, "open"⟩ =
          .ok (unlines x.rows, (Reporter.mk false none).attach "ö.why" "ö = \"x\r\r\ny") ∧
        x.Aligned ∧ x.place = "  ::: ö.why:1:5" ∧ x.line = "ö = \"x" ∧ x.marks = "    ^^" := by
  have hpath : '\n' ∉ "ö.why".toList := by decide
  have hmessage : '\n' ∉ "open".toList := by decide
  have hsize : "ö = \"x\r\r\ny".utf8ByteSize < UInt32.size - 2 := by decide
  have hp : (LineTable.ofText "ö = \"x\r\r\ny").position "ö = \"x\r\r\ny" 5 = .ok ⟨1, 5⟩ := by
    decide +kernel
  have hline : (LineTable.ofText "ö = \"x\r\r\ny").lineText "ö = \"x\r\r\ny" 1 =
      .ok (some "ö = \"x") := by decide +kernel
  have hfirst : (LineTable.ofText "ö = \"x\r\r\ny").start? 1 = some 0 := by decide +kernel
  have hcommon : commonLength "ö = \"x\r\r\ny" 5 11 0 7 = 2 := by
    have hcut : slice? "ö = \"x\r\r\ny" 5 7 = some "\"x" :=
      slice?_eq_some_iff.mpr ⟨"ö = ", "\r\r\ny", by decide, by decide, by decide⟩
    exact congrArg (fun cut => (Option.getD cut "").length) hcut
  obtain ⟨p, x, count, hp', hline', -, hwrite, -, hplace, -, -, -, haligned, hmarks, -, -,
    hcount⟩ := label_shown_in_four_rows "ö.why" "ö = \"x\r\r\ny" ⟨.secondary, ⟨5, 11⟩, "open"⟩
      hsize hpath hmessage
  obtain rfl := Except.ok.inj (hp'.symm.trans hp)
  have htext := Option.some.inj (Except.ok.inj (hline'.symm.trans hline))
  obtain ⟨first, hfirst', -, hcount⟩ := hcount (by decide) (by decide) (by decide)
  obtain rfl := Option.some.inj (hfirst'.symm.trans hfirst)
  refine ⟨hpath, hmessage, hsize, x, hwrite, haligned, ?_, htext, ?_⟩
  · rw [hplace]
    decide
  · apply String.toList_inj.mp
    rw [hmarks, hcount, htext]
    exact congrArg (fun n => List.replicate 4 ' ' ++ List.replicate (max 1 n) '^') hcommon

end Lexis
