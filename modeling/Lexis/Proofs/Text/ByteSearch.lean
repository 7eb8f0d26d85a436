import Lexis.Cursor

/-!
The byte search and the characters it finds. A byte below 128 occurs in an encoding only as the
whole of a character, so a search for such bytes stops in front of a character, and it stops where
a search for the characters themselves does.
-/

namespace Lexis.Text

/-- The characters that the needles of a byte search stand for. -/
def isNeedle (needles : List UInt8) (c : Char) : Bool :=
  needles.any fun b => c == Char.ofUInt8 b

theorem utf8EncodeChar_of_toNat_lt {c : Char} (h : c.toNat < 128) :
    String.utf8EncodeChar c = [UInt8.ofNat c.toNat] := by
  have hval : c.val.toNat ≤ 0x7f := by
    have : c.toNat = c.val.toNat := rfl
    omega
  rw [String.utf8EncodeChar]
  exact if_pos hval

theorem le_of_mem_utf8EncodeChar {c : Char} {b : UInt8} (h : 128 ≤ c.toNat)
    (hb : b ∈ String.utf8EncodeChar c) : 128 ≤ b := by
  have hval : ¬ c.val.toNat ≤ 0x7f := by
    have : c.toNat = c.val.toNat := rfl
    omega
  simp only [String.utf8EncodeChar, hval, if_false] at hb
  rw [UInt8.le_iff_toNat_le]
  split at hb
  · simp only [List.mem_cons, List.not_mem_nil, or_false] at hb
    rcases hb with rfl | rfl <;> simp <;> omega
  · split at hb
    · simp only [List.mem_cons, List.not_mem_nil, or_false] at hb
      rcases hb with rfl | rfl | rfl <;> simp <;> omega
    · simp only [List.mem_cons, List.not_mem_nil, or_false] at hb
      rcases hb with rfl | rfl | rfl | rfl <;> simp <;> omega

theorem toNat_ofUInt8 (b : UInt8) : (Char.ofUInt8 b).toNat = b.toNat := by
  change b.toUInt32.toNat = b.toNat
  simp

theorem eq_ofUInt8_iff {c : Char} {b : UInt8} (h : c.toNat < 128) :
    c = Char.ofUInt8 b ↔ b = UInt8.ofNat c.toNat := by
  constructor
  · rintro rfl
    rw [toNat_ofUInt8, UInt8.ofNat_toNat]
  · rintro rfl
    apply Char.toNat_inj.mp
    rw [toNat_ofUInt8, UInt8.toNat_ofNat_of_lt' (by simp only [UInt8.size]; omega)]

theorem isNeedle_iff {needles : List UInt8} {c : Char} :
    isNeedle needles c = true ↔ ∃ b ∈ needles, c = Char.ofUInt8 b := by
  simp [isNeedle]

theorem toNat_lt_of_isNeedle {needles : List UInt8} (hneedles : needles.all (· < 128) = true)
    {c : Char} (h : isNeedle needles c = true) : c.toNat < 128 := by
  obtain ⟨b, hb, rfl⟩ := isNeedle_iff.mp h
  have hlt : b < 128 := by simpa using List.all_eq_true.mp hneedles b hb
  rw [toNat_ofUInt8]
  simpa using UInt8.lt_iff_toNat_lt.mp hlt

theorem any_utf8EncodeChar {needles : List UInt8} (hneedles : needles.all (· < 128) = true)
    (c : Char) : (String.utf8EncodeChar c).any needles.contains = isNeedle needles c := by
  rw [Bool.eq_iff_iff]
  by_cases hc : c.toNat < 128
  · simp only [utf8EncodeChar_of_toNat_lt hc, List.any_cons, List.any_nil, Bool.or_false,
      List.contains_iff_mem, isNeedle_iff, eq_ofUInt8_iff hc]
    simp
  · constructor
    · intro h
      obtain ⟨b, hb, hmem⟩ := List.any_eq_true.mp h
      have hhigh := le_of_mem_utf8EncodeChar (by omega) hb
      have hlow : b < 128 := by
        simpa using List.all_eq_true.mp hneedles b (List.contains_iff_mem.mp hmem)
      exact absurd hhigh (UInt8.not_le.mpr hlow)
    · intro h
      exact absurd (toNat_lt_of_isNeedle hneedles h) hc

theorem byteIndex_cons (p : UInt8 → Bool) (c : Char) (cs : List Char) :
    byteIndex p (c :: cs) =
      if (String.utf8EncodeChar c).any p then (String.utf8EncodeChar c).findIdx p
      else c.utf8Size + byteIndex p cs := by
  simp only [byteIndex, byteIndex.go]
  split
  · omega
  · rw [byteIndex_go, byteIndex_go, String.length_utf8EncodeChar]
    omega

theorem byteIndex_eq_byteLength {needles : List UInt8} (hneedles : needles.all (· < 128) = true)
    (cs : List Char) :
    byteIndex needles.contains cs = byteLength (cs.takeWhile fun c => !isNeedle needles c) := by
  induction cs with
  | nil => rfl
  | cons c cs ih =>
      rw [byteIndex_cons, any_utf8EncodeChar hneedles, List.takeWhile_cons]
      by_cases hc : isNeedle needles c = true
      · have hbyte := any_utf8EncodeChar hneedles c
        rw [utf8EncodeChar_of_toNat_lt (toNat_lt_of_isNeedle hneedles hc), hc, List.any_cons,
          List.any_nil, Bool.or_false] at hbyte
        rw [utf8EncodeChar_of_toNat_lt (toNat_lt_of_isNeedle hneedles hc)]
        simp [hc, List.findIdx_cons, List.contains_iff_mem.mp hbyte]
      · simp only [Bool.not_eq_true] at hc
        simp [hc, ih]

theorem splitAtByte_byteLength (front back : List Char) :
    splitAtByte (byteLength front) (front ++ back) = (front, back) := by
  induction front with
  | nil =>
      cases back with
      | nil => rfl
      | cons c back =>
          have hsize := c.utf8Size_pos
          rw [byteLength_nil, List.nil_append, splitAtByte_cons, if_neg (by omega)]
  | cons c front ih =>
      rw [List.cons_append, splitAtByte_cons, byteLength_cons, if_pos (Nat.le_add_right _ _),
        Nat.add_sub_cancel_left, ih]

theorem splitAtByte_byteIndex {needles : List UInt8} (hneedles : needles.all (· < 128) = true)
    (cs : List Char) :
    splitAtByte (byteIndex needles.contains cs) cs =
      (cs.takeWhile fun c => !isNeedle needles c, cs.dropWhile fun c => !isNeedle needles c) := by
  rw [byteIndex_eq_byteLength hneedles]
  have hsplit := splitAtByte_byteLength (cs.takeWhile fun c => !isNeedle needles c)
    (cs.dropWhile fun c => !isNeedle needles c)
  rwa [List.takeWhile_append_dropWhile] at hsplit

end Lexis.Text

namespace Lexis.Cursor

open Text

theorem takeUntilAscii_eq_takeUntil (c : Cursor) {needles : List UInt8}
    (hneedles : needles.all (· < 128) = true) :
    c.takeUntilAscii needles = c.takeUntil (isNeedle needles) := by
  rw [takeUntilAscii, if_pos hneedles, splitAtByte_byteIndex hneedles]
  rfl

end Lexis.Cursor
