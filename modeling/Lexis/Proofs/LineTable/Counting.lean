import Lexis.Proofs.LineTable.Lookup
import Mathlib.Data.List.Pairwise
import Mathlib.Order.Bounds.Basic

namespace Lexis

open Text

/-- The line feeds among the first `n` bytes of a text. -/
def Text.feedsBefore (s : String) (n : Nat) : Nat :=
  ((encoding s).take n).count 0x0A

namespace LineTable

/-- The table finds the lines and columns of `s`. -/
structure Describes (t : LineTable) (s : String) : Prop where
  lineCount_eq : t.lineCount = 1 + s.toList.count '\n'
  first_eq : t.starts[0]? = some 0
  increasing : t.starts.toList.Pairwise (· < ·)
  line_eq : ∀ offset, ∃ line start, t.line offset = .ok line ∧
    line.toNat = 1 + feedsBefore s (min offset.toNat s.utf8ByteSize) ∧
    t.start? line = some start ∧ IsGreatest {start | start ∈ t.starts ∧ start ≤ offset} start
  position_eq : ∀ offset, String.Pos.Raw.IsValid s ⟨min offset.toNat s.utf8ByteSize⟩ →
    ∃ line start before column, t.line offset = .ok line ∧ t.start? line = some start ∧
      slice? s start.toNat (min offset.toNat s.utf8ByteSize) = some before ∧
      column.toNat = 1 + before.length ∧ t.position s offset = .ok ⟨line, column⟩
  past_end : ∀ offset, s.utf8ByteSize ≤ offset.toNat →
    t.line offset = t.line (.ofNat s.utf8ByteSize) ∧
      t.position s offset = t.position s (.ofNat s.utf8ByteSize)

theorem pairwise_starts_ofText {s : String} (hlimit : s.utf8ByteSize < UInt32.size) :
    (ofText s).starts.toList.Pairwise (· < ·) := by
  have hs : s.toList = s.toList ++ [] := by simp
  have hbound : ∀ n ∈ 0 :: lineStarts 0 s.toList, n < UInt32.size := by
    intro n hn
    rcases List.mem_cons.mp hn with rfl | hn
    · decide
    · have hle := (bounds_of_mem_lineStarts hn).2
      rw [byteLength_toList] at hle
      omega
  rw [toList_starts_ofText hs, lineStarts, List.map_nil, List.append_nil, List.pairwise_map]
  apply (pairwise_lineStarts 0 s.toList).imp_of_mem
  intro m n hm hn hlt
  rw [UInt32.lt_iff_toNat_lt, UInt32.toNat_ofNat_of_lt' (hbound m hm),
    UInt32.toNat_ofNat_of_lt' (hbound n hn)]
  exact hlt

theorem isGreatest_start {s : String} (hlimit : s.utf8ByteSize < UInt32.size)
    {front back : List Char} (hs : s.toList = front ++ back) {offset : UInt32}
    (hplace : PlaceOf offset.toNat front back) :
    IsGreatest {start | start ∈ (ofText s).starts ∧ start ≤ offset}
      (UInt32.ofNat (byteLength (linesBefore front))) := by
  rw [utf8ByteSize_of_toList hs] at hlimit
  have hlines := byteLength_linesBefore_add front
  have hlast := getLast?_lineStarts front
  have htoNat : (UInt32.ofNat (byteLength (linesBefore front))).toNat =
      byteLength (linesBefore front) := UInt32.toNat_ofNat_of_lt' (by omega)
  refine ⟨⟨?_, ?_⟩, ?_⟩
  · rw [← Array.mem_toList_iff, toList_starts_ofText hs, List.mem_append]
    exact .inl (List.mem_map_of_mem (List.mem_of_getLast? hlast))
  · have hle := hplace.1
    rw [UInt32.le_iff_toNat_le, htoNat]
    omega
  · rintro start ⟨hmem, hle⟩
    rw [UInt32.le_iff_toNat_le] at hle ⊢
    rw [← Array.mem_toList_iff, toList_starts_ofText hs, List.mem_append] at hmem
    rcases hmem with hmem | hmem
    · obtain ⟨n, hn, rfl⟩ := List.mem_map.mp hmem
      have hsorted := (pairwise_lineStarts 0 front).imp Nat.le_of_lt
      have hgreatest := hsorted.rel_getLast hn
      rw [List.getLast?_eq_some_getLast (by simp), Option.some.injEq] at hlast
      rw [hlast] at hgreatest
      rw [htoNat, UInt32.toNat_ofNat_of_lt' (by omega)]
      exact hgreatest
    · obtain ⟨n, hn, rfl⟩ := List.mem_map.mp hmem
      have hlater := lt_of_mem_lineStarts hplace hn
      have hbound := (bounds_of_mem_lineStarts hn).2
      rw [UInt32.toNat_ofNat_of_lt' (by omega)] at hle
      omega

section

variable {s : String} (hsize : s.utf8ByteSize < UInt32.size - 2)

include hsize

theorem exists_line_eq (offset : UInt32) :
    ∃ line start, (ofText s).line offset = .ok line ∧
      line.toNat = 1 + feedsBefore s (min offset.toNat s.utf8ByteSize) ∧
      (ofText s).start? line = some start ∧
      IsGreatest {start | start ∈ (ofText s).starts ∧ start ≤ offset} start := by
  obtain ⟨front, back, hs, hplace⟩ := exists_placeOf offset.toNat s
  have hnumber := Nat.lt_of_succ_lt (lineNumber_lt hs hsize)
  have hfront : byteLength front ≤ s.utf8ByteSize := by
    rw [utf8ByteSize_of_toList hs]
    exact Nat.le_add_right _ _
  refine ⟨_, _, line_ofText hs hsize hplace, ?_, start?_ofText hs hnumber,
    isGreatest_start (by omega) hs hplace⟩
  rw [UInt32.toNat_ofNat_of_lt' hnumber, feedsBefore,
    count_take_encoding hs (hplace.min_right hfront) (by decide), lineNumber]
  rfl

theorem exists_position_eq {offset : UInt32}
    (hvalid : String.Pos.Raw.IsValid s ⟨min offset.toNat s.utf8ByteSize⟩) :
    ∃ line start before column, (ofText s).line offset = .ok line ∧
      (ofText s).start? line = some start ∧
      slice? s start.toNat (min offset.toNat s.utf8ByteSize) = some before ∧
      column.toNat = 1 + before.length ∧ (ofText s).position s offset = .ok ⟨line, column⟩ := by
  obtain ⟨front, back, hs, hfront⟩ := exists_toList_of_isValid hvalid
  have hplace := placeOf_min hfront.symm (utf8ByteSize_of_toList hs)
  have hnumber := Nat.lt_of_succ_lt (lineNumber_lt hs hsize)
  have hbounds := byteLength_add_lt hs hsize
  have hlines := byteLength_linesBefore_add front
  have hcut : slice? s (byteLength (linesBefore front)) (byteLength front) =
      some (String.ofList (lineFront front)) := by
    have hempty : s.toList = front ++ ([] ++ back) := hs
    simpa using slice?_linesBefore hempty
  refine ⟨_, _, String.ofList (lineFront front), UInt32.ofNat (columnNumber front),
    line_ofText hs hsize hplace, start?_ofText hs hnumber, ?_, ?_,
    position_ofText hs hsize hfront.symm⟩
  · rw [← hfront, UInt32.toNat_ofNat_of_lt' (by omega)]
    exact hcut
  · rw [UInt32.toNat_ofNat_of_lt' (columnNumber_lt hs hsize), columnNumber, String.length_ofList]

theorem past_end_eq {offset : UInt32} (hoffset : s.utf8ByteSize ≤ offset.toNat) :
    (ofText s).line offset = (ofText s).line (.ofNat s.utf8ByteSize) ∧
      (ofText s).position s offset = (ofText s).position s (.ofNat s.utf8ByteSize) := by
  have hs : s.toList = s.toList ++ [] := by simp
  have hend : (UInt32.ofNat s.utf8ByteSize).toNat = s.utf8ByteSize :=
    UInt32.toNat_ofNat_of_lt' (by omega)
  have hline {offset : UInt32} (hoffset : s.utf8ByteSize ≤ offset.toNat) :=
    line_ofText hs hsize (placeOf_end hoffset)
  have hposition {offset : UInt32} (hoffset : s.utf8ByteSize ≤ offset.toNat) :=
    position_ofText hs hsize (show min offset.toNat s.utf8ByteSize = byteLength s.toList by
      rw [byteLength_toList]
      omega)
  exact ⟨(hline hoffset).trans (hline hend.ge).symm,
    (hposition hoffset).trans (hposition hend.ge).symm⟩

end

theorem describes_ofText (s : String) (hsize : s.utf8ByteSize < UInt32.size - 2) :
    (ofText s).Describes s where
  lineCount_eq := lineCount_ofText s
  first_eq := by
    have hs : s.toList = [] ++ s.toList := rfl
    rw [← Array.getElem?_toList, toList_starts_ofText hs]
    rfl
  increasing := pairwise_starts_ofText (by omega)
  line_eq := exists_line_eq hsize
  position_eq := fun _ hvalid => exists_position_eq hsize hvalid
  past_end := fun _ hoffset => past_end_eq hsize hoffset

theorem describes_ofText_cut_character :
    "é\n\nß".utf8ByteSize < UInt32.size - 2 ∧ (ofText "é\n\nß").Describes "é\n\nß" ∧
      ∃ line start, (ofText "é\n\nß").line 5 = .ok line ∧ line.toNat = 3 ∧
        (ofText "é\n\nß").start? line = some start ∧
        IsGreatest {start | start ∈ (ofText "é\n\nß").starts ∧ start ≤ 5} start := by
  have hsize : "é\n\nß".utf8ByteSize < UInt32.size - 2 := by decide
  have hdescribes := describes_ofText "é\n\nß" hsize
  obtain ⟨line, start, hline, hnumber, hstart, hgreatest⟩ := hdescribes.line_eq 5
  have hfeeds : feedsBefore "é\n\nß" (min (5 : UInt32).toNat "é\n\nß".utf8ByteSize) = 2 := by
    decide
  rw [hfeeds] at hnumber
  exact ⟨hsize, hdescribes, line, start, hline, hnumber, hstart, hgreatest⟩

end LineTable

end Lexis
