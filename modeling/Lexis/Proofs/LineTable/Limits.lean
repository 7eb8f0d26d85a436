import Lexis.Proofs.LineTable.Lookup

/-!
Where lines and columns run out of numbers. A look-up adds one to the index of a line or to a number
of characters, and the sum has to fit in 32 bits. That the offsets of a text fit is not enough for
it: `faultless_ofText_iff` says which texts of this size are looked up without a fault.
-/

namespace Lexis

open Text

theorem length_slice?_getD_le (s : String) (a b : Nat) :
    ((slice? s a b).getD "").length ≤ s.length := by
  cases hcut : slice? s a b with
  | none => exact Nat.zero_le _
  | some t =>
      obtain ⟨u, v, rfl, -, -⟩ := slice?_eq_some_iff.mp hcut
      simp only [Option.getD_some, String.length_append]
      omega

theorem length_slice?_getD_le_sub (s : String) (a b : Nat) :
    ((slice? s a b).getD "").length ≤ b - a := by
  cases hcut : slice? s a b with
  | none => exact Nat.zero_le _
  | some t =>
      obtain ⟨u, v, rfl, rfl, rfl⟩ := slice?_eq_some_iff.mp hcut
      rw [Option.getD_some, Nat.add_sub_cancel_left, ← String.length_toList, ← byteLength_toList]
      exact length_le_byteLength t.toList

theorem length_le_utf8ByteSize (s : String) : s.length ≤ s.utf8ByteSize := by
  rw [← String.length_toList, ← byteLength_toList]
  exact length_le_byteLength s.toList

theorem exists_addOffset {offset : UInt32} {n : Nat} (h : offset.toNat + n < UInt32.size) :
    ∃ sum : UInt32, addOffset offset n = .ok sum ∧ sum.toNat = offset.toNat + n :=
  have htoNat := UInt32.toNat_ofNat_of_lt' h
  ⟨_, addOffset_eq_ok_iff.mpr htoNat, htoNat⟩

theorem addOffset_eq_error {offset : UInt32} {n : Nat} (h : UInt32.size ≤ offset.toNat + n) :
    addOffset offset n = .error .sumOverflow := by
  rw [addOffset, if_neg (Nat.not_lt.mpr h)]

namespace LineTable

/-- No look-up in the table, with `s` as the text, needs a number beyond 32 bits. -/
structure Faultless (t : LineTable) (s : String) : Prop where
  line : ∀ offset, ∃ line, t.line offset = .ok line
  position : ∀ offset, ∃ p, t.position s offset = .ok p
  lineText : ∀ line, ∃ shown, t.lineText s line = .ok shown

/-- The text whose characters are counted for the column of an offset in the given line. -/
def lineBefore (t : LineTable) (s : String) (line offset : UInt32) : String :=
  (slice? s ((t.start? line).getD 0).toNat (min offset.toNat s.utf8ByteSize)).getD ""

variable {t : LineTable} {s : String} {line offset : UInt32}

theorem exists_line (hpos : 0 < t.lineCount) (hcount : t.lineCount < UInt32.size)
    (offset : UInt32) : ∃ line, t.line offset = .ok line ∧ line.toNat ≤ t.lineCount := by
  rw [lineCount] at *
  have hbegun := (bisect_bounds (fun i => t.starts[i]?.any (· ≤ offset)) 0 t.starts.size
    (Nat.zero_le _)).2
  rw [LineTable.line]
  generalize bisect (fun i => t.starts[i]?.any (· ≤ offset)) 0 t.starts.size = begun at hbegun ⊢
  have htoNat : (UInt32.ofNat (begun - 1)).toNat = begun - 1 :=
    UInt32.toNat_ofNat_of_lt' (by omega)
  obtain ⟨line, hline, hnumber⟩ : ∃ line, addOffset (.ofNat (begun - 1)) 1 = .ok line ∧ _ :=
    exists_addOffset (by omega)
  exact ⟨line, hline, by omega⟩

theorem position_eq_map (hline : t.line offset = .ok line) :
    t.position s offset =
      (addOffset (columnsBefore (t.lineBefore s line offset).length) 1).map (Position.mk line) := by
  simp only [position, hline, lineBefore, bind, Except.bind]
  cases addOffset _ 1 with
  | error fault => rfl
  | ok column => rfl

theorem columnsBefore_toNat {count : Nat} (h : count < UInt32.size) :
    (columnsBefore count).toNat = count := by
  rw [columnsBefore, if_pos h, UInt32.toNat_ofNat_of_lt' h]

theorem exists_position (hline : t.line offset = .ok line)
    (hcolumn : (t.lineBefore s line offset).length + 1 < UInt32.size) :
    ∃ column, t.position s offset = .ok ⟨line, column⟩ ∧
      column.toNat = (t.lineBefore s line offset).length + 1 := by
  have hcount := columnsBefore_toNat (Nat.lt_of_succ_lt hcolumn)
  rw [← hcount] at hcolumn ⊢
  obtain ⟨column, hsum, htoNat⟩ := exists_addOffset hcolumn
  exact ⟨column, by rw [position_eq_map hline, hsum]; rfl, htoNat⟩

theorem exists_lineText (t : LineTable) {line : UInt32} (h : line.toNat + 1 < UInt32.size)
    (s : String) : ∃ shown, t.lineText s line = .ok shown := by
  obtain ⟨following, hfollowing, -⟩ := exists_addOffset h
  rw [lineText]
  cases t.start? line with
  | none => exact ⟨none, rfl⟩
  | some start => exact ⟨_, Checked.bind_eq_ok_iff.mpr ⟨following, hfollowing, rfl⟩⟩

theorem toNat_le_lineCount {start : UInt32} (h : t.start? line = some start) :
    line.toNat ≤ t.lineCount := by
  rw [start?] at h
  split at h
  · contradiction
  · obtain ⟨hlt, -⟩ := Array.getElem?_eq_some_iff.mp h
    rw [lineCount]
    omega

theorem exists_lineText_of_lineCount (hcount : t.lineCount + 1 < UInt32.size) (s : String)
    (line : UInt32) : ∃ shown, t.lineText s line = .ok shown := by
  cases hstart : t.start? line with
  | none =>
      rw [lineText, hstart]
      exact ⟨none, rfl⟩
  | some start =>
      have hle := toNat_le_lineCount hstart
      exact exists_lineText t (by omega) s

/-- The greatest number of a line has no successor, and is asked for one if there is such a line. -/
theorem lineText_eq_error (hcount : UInt32.size ≤ t.lineCount + 1) (s : String) :
    t.lineText s (.ofNat (UInt32.size - 1)) = .error .sumOverflow := by
  have hpos : 0 < UInt32.size - 1 := by decide
  have hlt : UInt32.size - 1 < UInt32.size := by decide
  have hindex : UInt32.size - 1 - 1 < t.starts.toList.length := by
    rw [Array.length_toList]
    rw [lineCount] at hcount
    omega
  have hsum : addOffset (.ofNat (UInt32.size - 1)) 1 = .error .sumOverflow :=
    addOffset_eq_error (by decide)
  rw [lineText, start?_ofNat t hpos hlt, List.getElem?_eq_getElem hindex]
  simp only [hsum]
  rfl

section

variable {u : String} (hu : u.utf8ByteSize < UInt32.size)

include hu

/-- The line feeds of a text can be as many as its bytes, and then the last line has no number. -/
theorem line_eq_error (hfeeds : UInt32.size ≤ u.toList.count '\n' + 1)
    (hoffset : u.utf8ByteSize ≤ offset.toNat) :
    (ofText u).line offset = .error .sumOverflow := by
  have hs : u.toList = u.toList ++ [] := (List.append_nil _).symm
  have hcount : u.toList.count '\n' ≤ u.toList.length := List.count_le_length
  have hlength := length_le_utf8ByteSize u
  rw [String.length_toList] at hcount
  rw [line_eq_addOffset hs hu (placeOf_end hoffset)]
  apply addOffset_eq_error
  rw [UInt32.toNat_ofNat_of_lt' (by omega)]
  exact hfeeds

theorem line_end (hfeeds : u.toList.count '\n' + 1 < UInt32.size)
    (hoffset : u.utf8ByteSize ≤ offset.toNat) :
    (ofText u).line offset = .ok (.ofNat (lineNumber u.toList)) ∧
      (ofText u).start? (.ofNat (lineNumber u.toList)) =
        some (.ofNat (byteLength (linesBefore u.toList))) := by
  have hs : u.toList = u.toList ++ [] := (List.append_nil _).symm
  have hnumber : lineNumber u.toList = u.toList.count '\n' + 1 := Nat.add_comm _ _
  refine ⟨?_, start?_ofText hs (by omega)⟩
  rw [line_eq_addOffset hs hu (placeOf_end hoffset), addOffset_eq_ok_iff,
    UInt32.toNat_ofNat_of_lt' (by omega), UInt32.toNat_ofNat_of_lt' (by omega), hnumber]

/-- A line as long as offsets reach has no number for the column behind it. -/
theorem position_eq_error (hs : s.utf8ByteSize < UInt32.size) (hfeed : '\n' ∉ u.toList)
    (hlength : UInt32.size ≤ s.length + 1) :
    (ofText u).position s (.ofNat (UInt32.size - 1)) = .error .sumOverflow := by
  have hfeeds : u.toList.count '\n' = 0 := List.count_eq_zero_of_not_mem hfeed
  have hend : (UInt32.ofNat (UInt32.size - 1)).toNat = UInt32.size - 1 := by decide
  have hchars := length_le_utf8ByteSize s
  obtain ⟨hline, hstart⟩ := line_end hu (by rw [hfeeds]; decide) (by rw [hend]; omega)
  have hnone : linesBefore u.toList = [] := by
    rw [linesBefore, List.rdropWhile_eq_nil_iff]
    intro c hc
    simpa using ne_of_mem_of_not_mem hc hfeed
  have hbefore : (ofText u).lineBefore s (.ofNat (lineNumber u.toList))
      (.ofNat (UInt32.size - 1)) = s := by
    have hwhole : s.toList = [] ++ (s.toList ++ []) := by simp
    have hslice := slice?_of_toList_eq hwhole
    rw [byteLength_nil, Nat.zero_add, byteLength_toList, String.ofList_toList] at hslice
    rw [lineBefore, hstart, hnone, hend, Nat.min_eq_right (by omega)]
    exact congrArg (Option.getD · "") hslice
  rw [position_eq_map hline, hbefore, addOffset_eq_error]
  · rfl
  · rw [columnsBefore_toNat (by omega)]
    exact hlength

theorem length_lineBefore_lt (hs : s.utf8ByteSize < UInt32.size)
    (hfeeds : u.toList.count '\n' + 1 < UInt32.size) (hfeed : '\n' ∈ u.toList)
    (hline : (ofText u).line offset = .ok line) :
    ((ofText u).lineBefore s line offset).length + 1 < UInt32.size := by
  have hlength := length_slice?_getD_le_sub s (((ofText u).start? line).getD 0).toNat
    (min offset.toNat s.utf8ByteSize)
  rw [← lineBefore] at hlength
  rcases Nat.lt_or_ge offset.toNat u.utf8ByteSize with hoffset | hoffset
  · omega
  · obtain ⟨hend, hstart⟩ := line_end hu hfeeds hoffset
    obtain rfl := Except.ok.inj (hline.symm.trans hend)
    have hbefore := byteLength_linesBefore_add u.toList
    rw [byteLength_toList] at hbefore
    have hpos : 0 < byteLength (linesBefore u.toList) := by
      rw [Nat.pos_iff_ne_zero, Ne, byteLength_eq_zero]
      intro hnone
      have hsplit := linesBefore_append_lineFront u.toList
      rw [hnone, List.nil_append] at hsplit
      rw [← hsplit] at hfeed
      exact not_mem_lineFront _ hfeed
    rw [hstart, Option.getD_some, UInt32.toNat_ofNat_of_lt' (by omega)] at hlength
    omega

end

theorem exists_position_lineText (hsize : s.utf8ByteSize < UInt32.size - 2) (offset : UInt32) :
    ∃ front back column, s.toList = front ++ back ∧ PlaceOf offset.toNat front back ∧
      0 < column.toNat ∧
      (ofText s).position s offset = .ok ⟨.ofNat (lineNumber front), column⟩ ∧
      (ofText s).lineText s (.ofNat (lineNumber front)) =
        .ok (some (String.ofList (shownLine front back))) := by
  obtain ⟨front, back, hs, hplace⟩ := exists_placeOf offset.toNat s
  have hline := line_ofText hs hsize hplace
  have hlength : ((ofText s).lineBefore s (.ofNat (lineNumber front)) offset).length ≤ s.length :=
    length_slice?_getD_le s _ _
  have hbytes := length_le_utf8ByteSize s
  obtain ⟨column, hposition, hcolumn⟩ := exists_position (s := s) hline (by omega)
  exact ⟨front, back, column, hs, hplace, by omega, hposition, lineText_ofText hs hsize⟩

/-- Look-ups in the table of `u` with `s` as the text are free of faults unless a line of `u` has
the greatest number, so that none is left for the next, or `u` is one line and `s` has as many
characters as the greatest offset counts bytes. -/
theorem faultless_ofText_iff (u s : String) (hu : u.utf8ByteSize < UInt32.size)
    (hs : s.utf8ByteSize < UInt32.size) :
    (ofText u).Faultless s ↔ u.toList.count '\n' + 2 < UInt32.size ∧
      ('\n' ∈ u.toList ∨ s.length + 1 < UInt32.size) := by
  have hlines : (ofText u).lineCount = 1 + u.toList.count '\n' := lineCount_ofText u
  constructor
  · intro h
    constructor
    · rw [← Nat.not_le]
      intro hmany
      obtain ⟨shown, hshown⟩ := h.lineText (.ofNat (UInt32.size - 1))
      rw [lineText_eq_error (by omega)] at hshown
      contradiction
    · by_contra hlong
      rw [not_or, Nat.not_lt] at hlong
      obtain ⟨p, hp⟩ := h.position (.ofNat (UInt32.size - 1))
      rw [position_eq_error hu hs hlong.1 hlong.2] at hp
      contradiction
  · rintro ⟨hfeeds, hlong⟩
    have hline (offset : UInt32) := exists_line (t := ofText u) (by omega) (by omega) offset
    refine ⟨?_, ?_, exists_lineText_of_lineCount (by omega) s⟩
    · intro offset
      obtain ⟨line, hline, -⟩ := hline offset
      exact ⟨line, hline⟩
    · intro offset
      obtain ⟨line, hline, -⟩ := hline offset
      have hcolumn : ((ofText u).lineBefore s line offset).length + 1 < UInt32.size := by
        rcases hlong with hfeed | hlength
        · exact length_lineBefore_lt hu hs (Nat.lt_of_succ_lt hfeeds) hfeed hline
        · exact Nat.lt_of_le_of_lt (Nat.succ_le_succ (length_slice?_getD_le s _ _)) hlength
      obtain ⟨column, hposition, -⟩ := exists_position hline hcolumn
      exact ⟨_, hposition⟩

theorem faultless_ofText_iff_foreign_text :
    "a\r\nb".utf8ByteSize < UInt32.size ∧ "größe".utf8ByteSize < UInt32.size ∧
      (ofText "a\r\nb").Faultless "größe" :=
  ⟨by decide, by decide,
    (faultless_ofText_iff "a\r\nb" "größe" (by decide) (by decide)).mpr (by decide)⟩

/-- Texts whose offsets fit in 32 bits and that still cannot be looked up: a line with no number for
its last column, and line feeds with no number for the last line or for the one behind it. -/
theorem not_faultless_at_limit :
    (∃ s, s = String.ofList (List.replicate 4294967295 'a') ∧ s.utf8ByteSize = 4294967295 ∧
      (ofText s).position s 4294967295 = .error .sumOverflow) ∧
    (∃ s, s = String.ofList (List.replicate 4294967295 '\n') ∧ s.utf8ByteSize = 4294967295 ∧
      (ofText s).line 4294967295 = .error .sumOverflow) ∧
    ∃ s, s = String.ofList (List.replicate 4294967294 '\n') ∧ s.utf8ByteSize = 4294967294 ∧
      (ofText s).lineText s 4294967295 = .error .sumOverflow := by
  have hsize (n : Nat) {c : Char} (hc : c.utf8Size = 1) :
      (String.ofList (List.replicate n c)).utf8ByteSize = n := by
    rw [utf8ByteSize_ofList, byteLength_replicate, hc, Nat.mul_one]
  have hfeeds (n : Nat) : (String.ofList (List.replicate n '\n')).toList.count '\n' = n := by
    rw [String.toList_ofList, List.count_replicate_self]
  have hlast : (4294967295 : UInt32) = .ofNat (UInt32.size - 1) := by decide
  refine ⟨⟨_, rfl, hsize _ (by decide), ?_⟩, ⟨_, rfl, hsize _ (by decide), ?_⟩,
    ⟨_, rfl, hsize _ (by decide), ?_⟩⟩
  · rw [hlast]
    apply position_eq_error
    · rw [hsize _ (by decide)]
      decide
    · rw [hsize _ (by decide)]
      decide
    · rw [String.toList_ofList]
      intro hmem
      exact absurd (List.eq_of_mem_replicate hmem) (by decide)
    · rw [String.length_ofList, List.length_replicate]
  · apply line_eq_error
    · rw [hsize _ (by decide)]
      decide
    · rw [hfeeds]
    · rw [hsize _ (by decide)]
      decide
  · rw [hlast]
    apply lineText_eq_error
    rw [lineCount_ofText, lineNumber, hfeeds]

end LineTable

end Lexis
