import Lexis.Proofs.Text.ByteSearch

/-!
The encoding of a text, byte by byte. Every byte offset has a place in the text: the characters that
end at or before it stand in front of it, and the character that it may cut is none of the ASCII
ones. So the ASCII bytes in front of an offset are the ASCII characters in front of its place.
-/

namespace Lexis.Text

def encoding (s : String) : List UInt8 :=
  s.toByteArray.data.toList

theorem encoding_eq_flatMap (s : String) :
    encoding s = s.toList.flatMap String.utf8EncodeChar := by
  rw [encoding, ← String.utf8Encode_toList, List.utf8Encode, List.toList_data_toByteArray]

theorem length_flatMap_utf8EncodeChar (cs : List Char) :
    (cs.flatMap String.utf8EncodeChar).length = byteLength cs := by
  induction cs with
  | nil => rfl
  | cons c cs ih =>
      rw [List.flatMap_cons, List.length_append, String.length_utf8EncodeChar, ih, byteLength_cons]

theorem drop_encoding {s : String} {front back : List Char} (hs : s.toList = front ++ back) :
    (encoding s).drop (byteLength front) = back.flatMap String.utf8EncodeChar := by
  rw [encoding_eq_flatMap, hs, List.flatMap_append, ← length_flatMap_utf8EncodeChar,
    List.drop_left]

/-- The offset has its place between `front` and `back`: it does not reach behind the character
that follows. -/
def PlaceOf (offset : Nat) (front back : List Char) : Prop :=
  byteLength front ≤ offset ∧ ∀ c ∈ back.head?, offset < byteLength front + c.utf8Size

theorem placeOf_min {offset length : Nat} {front back : List Char}
    (hoffset : min offset length = byteLength front)
    (hlength : length = byteLength front + byteLength back) : PlaceOf offset front back := by
  refine ⟨by omega, ?_⟩
  cases back with
  | nil => simp
  | cons c back =>
      intro d hd
      obtain rfl : c = d := by simpa using hd
      have := c.utf8Size_pos
      rw [byteLength_cons] at hlength
      omega

theorem placeOf_end {s : String} {offset : Nat} (h : s.utf8ByteSize ≤ offset) :
    PlaceOf offset s.toList [] := by
  rw [← byteLength_toList] at h
  exact ⟨h, by simp⟩

theorem placeOf_splitAtByte (offset : Nat) (cs : List Char) :
    PlaceOf offset (splitAtByte offset cs).1 (splitAtByte offset cs).2 := by
  induction cs generalizing offset with
  | nil => exact ⟨Nat.zero_le _, by simp⟩
  | cons c cs ih =>
      rw [splitAtByte_cons]
      split
      · obtain ⟨hle, hlt⟩ := ih (offset - c.utf8Size)
        refine ⟨?_, ?_⟩
        · rw [byteLength_cons]
          omega
        · intro d hd
          have := hlt d hd
          rw [byteLength_cons]
          omega
      · refine ⟨Nat.zero_le _, ?_⟩
        intro d hd
        obtain rfl : c = d := by simpa using hd
        rw [byteLength_nil]
        omega

theorem exists_placeOf (offset : Nat) (s : String) :
    ∃ front back, s.toList = front ++ back ∧ PlaceOf offset front back :=
  ⟨_, _, (splitAtByte_append offset s.toList).symm, placeOf_splitAtByte offset s.toList⟩

theorem PlaceOf.min_right {offset length : Nat} {front back : List Char}
    (h : PlaceOf offset front back) (hlength : byteLength front ≤ length) :
    PlaceOf (min offset length) front back := by
  refine ⟨Nat.le_min.mpr ⟨h.1, hlength⟩, ?_⟩
  intro c hc
  exact Nat.lt_of_le_of_lt (Nat.min_le_left _ _) (h.2 c hc)

theorem count_utf8EncodeChar {b : UInt8} (hb : b < 128) (c : Char) :
    (String.utf8EncodeChar c).count b = [c].count (Char.ofUInt8 b) := by
  by_cases hc : c.toNat < 128
  · rw [utf8EncodeChar_of_toNat_lt hc]
    by_cases heq : c = Char.ofUInt8 b
    · rw [← (eq_ofUInt8_iff hc).mp heq, ← heq]
      simp
    · have hne := mt (eq_ofUInt8_iff hc).mpr heq
      rw [List.count_singleton, List.count_singleton]
      simp [heq, Ne.symm hne]
  · have hbyte : b ∉ String.utf8EncodeChar c := by
      intro hmem
      exact absurd (le_of_mem_utf8EncodeChar (by omega) hmem) (UInt8.not_le.mpr hb)
    have hchar : Char.ofUInt8 b ∉ [c] := by
      rw [List.mem_singleton]
      rintro rfl
      rw [toNat_ofUInt8] at hc
      exact hc (by simpa using UInt8.lt_iff_toNat_lt.mp hb)
    rw [List.count_eq_zero_of_not_mem hbyte, List.count_eq_zero_of_not_mem hchar]

theorem count_flatMap_utf8EncodeChar {b : UInt8} (hb : b < 128) (cs : List Char) :
    (cs.flatMap String.utf8EncodeChar).count b = cs.count (Char.ofUInt8 b) := by
  induction cs with
  | nil => rfl
  | cons c cs ih =>
      rw [List.flatMap_cons, List.count_append, count_utf8EncodeChar hb, ih, ← List.count_append,
        List.singleton_append]

theorem not_mem_take_utf8EncodeChar {b : UInt8} (hb : b < 128) {c : Char} {n : Nat}
    (hn : n < c.utf8Size) : b ∉ (String.utf8EncodeChar c).take n := by
  intro hmem
  by_cases hc : c.toNat < 128
  · have hone : c.utf8Size = 1 := by
      rw [← String.length_utf8EncodeChar, utf8EncodeChar_of_toNat_lt hc, List.length_singleton]
    obtain rfl : n = 0 := by omega
    simp at hmem
  · have hhigh := le_of_mem_utf8EncodeChar (by omega) (List.mem_of_mem_take hmem)
    exact absurd hhigh (UInt8.not_le.mpr hb)

theorem count_take_encoding {s : String} {front back : List Char} (hs : s.toList = front ++ back)
    {offset : Nat} (hplace : PlaceOf offset front back) {b : UInt8} (hb : b < 128) :
    ((encoding s).take offset).count b = front.count (Char.ofUInt8 b) := by
  obtain ⟨hle, hlt⟩ := hplace
  have hcut : ((back.flatMap String.utf8EncodeChar).take (offset - byteLength front)).count b
      = 0 := by
    apply List.count_eq_zero_of_not_mem
    cases back with
    | nil => simp
    | cons c back =>
        have hpart : offset - byteLength front < c.utf8Size := by
          have := hlt c rfl
          omega
        rw [List.flatMap_cons, List.take_append_of_le_length
          (by rw [String.length_utf8EncodeChar]; omega)]
        exact not_mem_take_utf8EncodeChar hb hpart
  rw [encoding_eq_flatMap, hs, List.flatMap_append, List.take_append,
    length_flatMap_utf8EncodeChar, List.count_append, hcut,
    List.take_of_length_le (by rw [length_flatMap_utf8EncodeChar]; exact hle), Nat.add_zero]
  exact count_flatMap_utf8EncodeChar hb front

end Lexis.Text
