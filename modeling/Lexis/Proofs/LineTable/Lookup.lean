import Lexis.LineTable
import Lexis.Proofs.Text.Encoding
import Lexis.Proofs.Text.Lines

namespace Lexis

theorem bisect_eq_of_iff {p : Nat → Bool} {lo hi n : Nat} (hlo : lo ≤ n) (hhi : n ≤ hi)
    (hp : ∀ i, p i = true ↔ i < n) : bisect p lo hi = n := by
  have hmono : ∀ i j, i ≤ j → p j = true → p i = true := by
    intro i j hij hj
    rw [hp] at hj ⊢
    omega
  have hbounds := bisect_bounds p lo hi (by omega)
  apply Nat.le_antisymm
  · rw [← Nat.not_lt]
    intro hlt
    have hn := (lt_bisect_iff hmono hlo (by omega)).mp hlt
    rw [hp] at hn
    omega
  · rw [← Nat.not_lt]
    intro hlt
    have hfail := (lt_bisect_iff hmono hbounds.1 (Nat.lt_of_lt_of_le hlt hhi)).mpr ((hp _).mpr hlt)
    omega

theorem any_getElem?_append_iff {α : Type} {q : α → Bool} {as bs : List α}
    (has : ∀ a ∈ as, q a = true) (hbs : ∀ b ∈ bs, q b = false) (i : Nat) :
    (as ++ bs)[i]?.any q = true ↔ i < as.length := by
  constructor
  · intro h
    rw [← Nat.not_le]
    intro hle
    rw [List.getElem?_append_right hle] at h
    cases hget : bs[i - as.length]? with
    | none => simp [hget] at h
    | some b =>
        rw [hget, Option.any_some, hbs b (List.mem_of_getElem? hget)] at h
        contradiction
  · intro h
    rw [List.getElem?_append_left h, List.getElem?_eq_getElem h, Option.any_some]
    exact has _ (List.getElem_mem h)

end Lexis

namespace Lexis.LineTable

open Text

theorem toList_foldl_readChar (offset : Nat) (starts : Array UInt32) (cs : List Char) :
    (cs.foldl readChar (offset, starts)).2.toList =
      starts.toList ++ (lineStarts offset cs).map UInt32.ofNat := by
  induction cs generalizing offset starts with
  | nil => simp [lineStarts]
  | cons c cs ih =>
      by_cases hc : c = '\n'
      · simp [readChar, lineStarts, hc, ih]
      · simp [readChar, lineStarts, hc, ih]

theorem toList_starts_ofText {s : String} {front back : List Char}
    (hs : s.toList = front ++ back) :
    (ofText s).starts.toList = (0 :: lineStarts 0 front).map UInt32.ofNat ++
      (lineStarts (byteLength front) back).map UInt32.ofNat := by
  simp only [ofText]
  rw [toList_foldl_readChar, hs, lineStarts_append, Nat.zero_add]
  simp

theorem lineCount_ofText (s : String) : (ofText s).lineCount = lineNumber s.toList := by
  have hs : s.toList = s.toList ++ [] := by simp
  rw [lineCount, ← Array.length_toList, toList_starts_ofText hs]
  simp [length_lineStarts, lineNumber, lineStarts, Nat.add_comm]

theorem start?_ofNat (t : LineTable) {n : Nat} (hpos : 0 < n) (hn : n < UInt32.size) :
    t.start? (UInt32.ofNat n) = t.starts.toList[n - 1]? := by
  have htoNat : (UInt32.ofNat n).toNat = n := UInt32.toNat_ofNat_of_lt' hn
  have hne : UInt32.ofNat n ≠ 0 := by
    rw [ne_eq, ← UInt32.toNat_inj, htoNat]
    exact Nat.ne_of_gt hpos
  rw [start?, if_neg hne, htoNat, Array.getElem?_toList]

theorem lt_of_mem_lineStarts {offset : Nat} {front back : List Char}
    (hplace : PlaceOf offset front back) {start : Nat}
    (hstart : start ∈ lineStarts (byteLength front) back) : offset < start := by
  cases back with
  | nil => simp [lineStarts] at hstart
  | cons c back =>
      have hlt := hplace.2 c rfl
      rw [lineStarts] at hstart
      split at hstart
      · rcases List.mem_cons.mp hstart with rfl | hstart
        · exact hlt
        · exact Nat.lt_trans hlt (bounds_of_mem_lineStarts hstart).1
      · exact Nat.lt_trans hlt (bounds_of_mem_lineStarts hstart).1

section

variable {s : String} {front back : List Char} (hs : s.toList = front ++ back)

include hs

theorem starts_le_iff (hlimit : s.utf8ByteSize < UInt32.size) {offset : UInt32}
    (hplace : PlaceOf offset.toNat front back) (i : Nat) :
    (ofText s).starts[i]?.any (· ≤ offset) = true ↔ i < lineNumber front := by
  rw [utf8ByteSize_of_toList hs] at hlimit
  have hbegun : ∀ start ∈ (0 :: lineStarts 0 front).map UInt32.ofNat,
      decide (start ≤ offset) = true := by
    intro start hstart
    obtain ⟨n, hn, rfl⟩ := List.mem_map.mp hstart
    have hn : n ≤ byteLength front := by
      rcases List.mem_cons.mp hn with rfl | hn
      · exact Nat.zero_le _
      · simpa using (bounds_of_mem_lineStarts hn).2
    have hle := hplace.1
    rw [decide_eq_true_eq, UInt32.le_iff_toNat_le, UInt32.toNat_ofNat_of_lt' (by omega)]
    omega
  have hlater : ∀ start ∈ (lineStarts (byteLength front) back).map UInt32.ofNat,
      decide (start ≤ offset) = false := by
    intro start hstart
    obtain ⟨n, hn, rfl⟩ := List.mem_map.mp hstart
    have hn' := bounds_of_mem_lineStarts hn
    rw [decide_eq_false_iff_not, UInt32.le_iff_toNat_le, UInt32.toNat_ofNat_of_lt' (by omega),
      Nat.not_le]
    exact lt_of_mem_lineStarts hplace hn
  rw [← Array.getElem?_toList, toList_starts_ofText hs, any_getElem?_append_iff hbegun hlater]
  simp [length_lineStarts, lineNumber, Nat.add_comm]

/-- The line of an offset is looked for among the line feeds in front of its place; the sum is
where it may fail. -/
theorem line_eq_addOffset (hlimit : s.utf8ByteSize < UInt32.size) {offset : UInt32}
    (hplace : PlaceOf offset.toNat front back) :
    (ofText s).line offset = addOffset (UInt32.ofNat (front.count '\n')) 1 := by
  have hlines : lineNumber front ≤ (ofText s).starts.size := by
    rw [← Array.length_toList, toList_starts_ofText hs]
    simp only [List.length_append, List.length_map, List.length_cons, length_lineStarts, lineNumber]
    omega
  rw [line, bisect_eq_of_iff (Nat.zero_le _) hlines (starts_le_iff hs hlimit hplace), lineNumber,
    Nat.add_sub_cancel_left]

theorem start?_ofText (hnumber : lineNumber front < UInt32.size) :
    (ofText s).start? (UInt32.ofNat (lineNumber front)) =
      some (UInt32.ofNat (byteLength (linesBefore front))) := by
  have hlast : (0 :: lineStarts 0 front)[lineNumber front - 1]? =
      some (byteLength (linesBefore front)) := by
    rw [← getLast?_lineStarts, List.getLast?_eq_getElem?]
    simp [length_lineStarts, lineNumber]
  rw [start?_ofNat _ (lineNumber_pos front) hnumber, toList_starts_ofText hs,
    List.getElem?_append_left (by simp [length_lineStarts, lineNumber]), List.getElem?_map, hlast,
    Option.map_some]

end

section

variable {s : String} {front back : List Char} (hs : s.toList = front ++ back)
  (hsize : s.utf8ByteSize < UInt32.size - 2)

include hs hsize

theorem byteLength_add_lt : byteLength front + byteLength back < UInt32.size - 2 := by
  rw [← utf8ByteSize_of_toList hs]
  exact hsize

theorem lineNumber_lt : lineNumber front + 1 < UInt32.size := by
  have hcount : front.count '\n' ≤ front.length := List.count_le_length
  have hlength := length_le_byteLength front
  have hsize := byteLength_add_lt hs hsize
  rw [lineNumber]
  omega

theorem columnNumber_lt : columnNumber front < UInt32.size := by
  have hlines := byteLength_linesBefore_add front
  have hchars := length_le_byteLength (lineFront front)
  have hsize := byteLength_add_lt hs hsize
  rw [columnNumber]
  omega

theorem line_ofText {offset : UInt32} (hplace : PlaceOf offset.toNat front back) :
    (ofText s).line offset = .ok (UInt32.ofNat (lineNumber front)) := by
  have hnumber := lineNumber_lt hs hsize
  have hcount : lineNumber front = front.count '\n' + 1 := Nat.add_comm _ _
  rw [line_eq_addOffset hs (by omega) hplace, addOffset_eq_ok_iff,
    UInt32.toNat_ofNat_of_lt' (by omega), UInt32.toNat_ofNat_of_lt' (by omega), hcount]

theorem start?_ofText_next :
    (ofText s).start? (UInt32.ofNat (lineNumber front + 1)) =
      (lineStarts (byteLength front) back).head?.map UInt32.ofNat := by
  rw [start?_ofNat _ (Nat.succ_pos _) (lineNumber_lt hs hsize), toList_starts_ofText hs,
    List.getElem?_append_right (by simp [length_lineStarts, lineNumber, Nat.add_comm]),
    List.getElem?_map, List.head?_eq_getElem?]
  simp [length_lineStarts, lineNumber, Nat.add_comm]

theorem position_ofText {offset : UInt32}
    (hoffset : min offset.toNat s.utf8ByteSize = byteLength front) :
    (ofText s).position s offset =
      .ok ⟨UInt32.ofNat (lineNumber front), UInt32.ofNat (columnNumber front)⟩ := by
  have hbounds := byteLength_add_lt hs hsize
  have htotal := utf8ByteSize_of_toList hs
  have hline := line_ofText hs hsize (placeOf_min hoffset htotal)
  have hcut : slice? s (byteLength (linesBefore front)) (byteLength front) =
      some (String.ofList (lineFront front)) := by
    have hempty : s.toList = front ++ ([] ++ back) := hs
    simpa using slice?_linesBefore hempty
  have hlines := byteLength_linesBefore_add front
  have hcolumn : addOffset (columnsBefore (lineFront front).length) 1 =
      .ok (UInt32.ofNat (columnNumber front)) := by
    have hlt := columnNumber_lt hs hsize
    rw [columnNumber] at hlt ⊢
    rw [columnsBefore, if_pos (by omega), addOffset_eq_ok_iff, UInt32.toNat_ofNat_of_lt' hlt,
      UInt32.toNat_ofNat_of_lt' (by omega), Nat.add_comm]
  simp only [position, Checked.bind_eq_ok_iff]
  refine ⟨_, hline, _, ?_, rfl⟩
  rw [start?_ofText hs (Nat.lt_of_succ_lt (lineNumber_lt hs hsize)), hoffset, Option.getD_some,
    UInt32.toNat_ofNat_of_lt' (by omega), hcut, Option.getD_some, String.length_ofList]
  exact hcolumn

theorem stop_ofText :
    ((ofText s).start? (UInt32.ofNat (lineNumber front + 1))).elim s.utf8ByteSize UInt32.toNat =
      byteLength front + byteLength (lineRest back) := by
  have hbounds := byteLength_add_lt hs hsize
  have hend := head?_lineStarts (byteLength front) back
  rw [start?_ofText_next hs hsize]
  cases hnext : (lineStarts (byteLength front) back).head? with
  | none =>
      rw [hnext, Option.getD_none] at hend
      rw [Option.map_none, Option.elim_none, utf8ByteSize_of_toList hs, hend]
  | some next =>
      rw [hnext, Option.getD_some] at hend
      have hle := (bounds_of_mem_lineStarts (List.mem_of_head? hnext)).2
      rw [Option.map_some, Option.elim_some, UInt32.toNat_ofNat_of_lt' (by omega), hend]

theorem lineText_ofText :
    (ofText s).lineText s (UInt32.ofNat (lineNumber front)) =
      .ok (some (String.ofList (shownLine front back))) := by
  have hbounds := byteLength_add_lt hs hsize
  have hnumber := lineNumber_lt hs hsize
  have hlines := byteLength_linesBefore_add front
  obtain ⟨later, hlater⟩ := exists_lineRest_append back
  have hcut : slice? s (byteLength (linesBefore front)) (byteLength front +
      byteLength (lineRest back)) = some (String.ofList (lineFront front ++ lineRest back)) := by
    apply slice?_linesBefore
    rw [hs, ← hlater]
  have htrim : trimLineEnd (String.ofList (lineFront front ++ lineRest back)) =
      String.ofList (shownLine front back) := by
    rw [trimLineEnd, String.toList_ofList, shownLine, List.rdropWhile]
  have hfollowing : addOffset (UInt32.ofNat (lineNumber front)) 1 =
      .ok (UInt32.ofNat (lineNumber front + 1)) := by
    rw [addOffset_eq_ok_iff, UInt32.toNat_ofNat_of_lt' hnumber,
      UInt32.toNat_ofNat_of_lt' (by omega)]
  have htoNat : (UInt32.ofNat (byteLength (linesBefore front))).toNat =
      byteLength (linesBefore front) := UInt32.toNat_ofNat_of_lt' (by omega)
  have hstop := stop_ofText hs hsize
  rw [lineText, start?_ofText hs (Nat.lt_of_succ_lt hnumber)]
  simp only [Checked.bind_eq_ok_iff]
  refine ⟨_, hfollowing, ?_⟩
  rw [htoNat]
  cases hnext : (ofText s).start? (UInt32.ofNat (lineNumber front + 1)) with
  | none =>
      rw [hnext, Option.elim_none] at hstop
      simp only [hstop, hcut, Option.map_some, htrim]
      rfl
  | some next =>
      rw [hnext, Option.elim_some] at hstop
      simp only [hstop, hcut, Option.map_some, htrim]
      rfl

end

end Lexis.LineTable
