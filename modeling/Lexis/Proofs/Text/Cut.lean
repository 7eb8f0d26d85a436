import Lexis.Text.Bytes
import Lexis.Text.Slice

/-!
Cuts of a text in terms of its characters. A byte offset between two characters belongs to exactly
one division of the text into a front and a back part, so cuts that end and begin at the same offset
fit together.
-/

namespace Lexis.Text

theorem append_inj_of_byteLength {front back front' back' : List Char}
    (h : front ++ back = front' ++ back') (hlength : byteLength front = byteLength front') :
    front = front' ∧ back = back' := by
  induction front generalizing front' with
  | nil =>
      have hnil : front' = [] := byteLength_eq_zero.mp hlength.symm
      subst hnil
      exact ⟨rfl, h⟩
  | cons c front ih =>
      cases front' with
      | nil =>
          have hnil := byteLength_eq_zero.mp hlength
          contradiction
      | cons c' front' =>
          obtain ⟨rfl, htail⟩ := List.cons.inj h
          simp only [byteLength_cons, Nat.add_left_cancel_iff] at hlength
          obtain ⟨rfl, hback⟩ := ih htail hlength
          exact ⟨rfl, hback⟩

theorem utf8ByteSize_of_toList {s : String} {front back : List Char}
    (h : s.toList = front ++ back) : s.utf8ByteSize = byteLength front + byteLength back := by
  rw [← byteLength_toList, h, byteLength_append]

theorem slice?_eq_some_iff_toList {s t : String} {a b : Nat} :
    slice? s a b = some t ↔
      ∃ front back, s.toList = front ++ (t.toList ++ back) ∧ a = byteLength front ∧
        b = byteLength front + byteLength t.toList := by
  rw [slice?_eq_some_iff]
  constructor
  · rintro ⟨u, v, rfl, rfl, rfl⟩
    refine ⟨u.toList, v.toList, ?_, ?_, ?_⟩
    · simp
    · rw [byteLength_toList]
    · rw [byteLength_toList, byteLength_toList]
  · rintro ⟨front, back, hs, rfl, rfl⟩
    refine ⟨String.ofList front, String.ofList back, ?_, ?_, ?_⟩
    · apply String.toList_inj.mp
      simp [hs]
    · rw [utf8ByteSize_ofList]
    · rw [utf8ByteSize_ofList, byteLength_toList]

theorem slice?_of_toList_eq {s : String} {front part back : List Char}
    (h : s.toList = front ++ (part ++ back)) :
    slice? s (byteLength front) (byteLength front + byteLength part) =
      some (String.ofList part) := by
  rw [slice?_eq_some_iff_toList]
  exact ⟨front, back, by simpa using h, rfl, by simp⟩

theorem isValid_of_slice?_eq_some {s t : String} {a b : Nat} (h : slice? s a b = some t) :
    String.Pos.Raw.IsValid s ⟨a⟩ ∧ String.Pos.Raw.IsValid s ⟨b⟩ := by
  unfold slice? at h
  split at h
  · rename_i hvalid
    exact hvalid.2
  · contradiction

theorem exists_toList_of_isValid {s : String} {a : Nat} (h : String.Pos.Raw.IsValid s ⟨a⟩) :
    ∃ front back, s.toList = front ++ back ∧ byteLength front = a := by
  obtain ⟨u, v, rfl, hu⟩ := String.Pos.Raw.isValid_iff_exists_append.mp h
  refine ⟨u.toList, v.toList, String.toList_append, ?_⟩
  rw [byteLength_toList]
  exact (congrArg String.Pos.Raw.byteIdx hu).symm

theorem exists_of_slice?_eq_some {s t : String} {front rest : List Char} {b : Nat}
    (hs : s.toList = front ++ rest) (h : slice? s (byteLength front) b = some t) :
    ∃ back, rest = t.toList ++ back ∧ b = byteLength (front ++ t.toList) := by
  obtain ⟨front', back, hs', hlength, rfl⟩ := slice?_eq_some_iff_toList.mp h
  rw [hs'] at hs
  obtain ⟨rfl, hrest⟩ := append_inj_of_byteLength hs hlength.symm
  exact ⟨back, hrest.symm, by simp⟩

/-- The character that begins at byte `a`, if one does. -/
def charAt? (s : String) (a : Nat) : Option Char :=
  (slice? s a s.utf8ByteSize).bind fun rest => rest.toList.head?

theorem charAt?_of_toList_eq {s : String} {front back : List Char}
    (h : s.toList = front ++ back) : charAt? s (byteLength front) = back.head? := by
  have hback : s.toList = front ++ (back ++ []) := by rw [h, List.append_nil]
  rw [charAt?, utf8ByteSize_of_toList h, slice?_of_toList_eq hback, Option.bind_some,
    String.toList_ofList]

theorem extract_zero_of_append (u v : String) :
    (u ++ v).toByteArray.extract 0 u.utf8ByteSize = u.toByteArray := by
  rw [String.toByteArray_append]
  exact ByteArray.extract_append_eq_left rfl

theorem exists_toList_eq_of_extract_eq {s s' : String} {front back : List Char}
    (hs : s.toList = front ++ back)
    (h : s.toByteArray.extract 0 (byteLength front) =
      s'.toByteArray.extract 0 (byteLength front)) :
    ∃ back', s'.toList = front ++ back' := by
  obtain rfl : s = String.ofList front ++ String.ofList back := by
    apply String.toList_inj.mp
    simpa using hs
  rw [← utf8ByteSize_ofList front, extract_zero_of_append] at h
  have hsize : (String.ofList front).utf8ByteSize ≤ s'.utf8ByteSize := by
    have hlength := congrArg ByteArray.size h
    rw [ByteArray.size_extract] at hlength
    change (String.ofList front).utf8ByteSize =
      min (String.ofList front).utf8ByteSize s'.utf8ByteSize - 0 at hlength
    omega
  have hvalid : String.Pos.Raw.IsValid s' ⟨(String.ofList front).utf8ByteSize⟩ := by
    rw [String.Pos.Raw.isValid_iff_isValidUTF8_extract_zero]
    refine ⟨hsize, ?_⟩
    rw [← h]
    exact (String.ofList front).isValidUTF8
  obtain ⟨u, v, rfl, hu⟩ := String.Pos.Raw.isValid_iff_exists_append.mp hvalid
  have hfront : u.utf8ByteSize = (String.ofList front).utf8ByteSize :=
    (congrArg String.Pos.Raw.byteIdx hu).symm
  rw [← hfront, extract_zero_of_append, String.toByteArray_inj] at h
  exact ⟨v.toList, by rw [String.toList_append, ← h, String.toList_ofList]⟩

end Lexis.Text
