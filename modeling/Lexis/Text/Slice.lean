/-!
Cutting a text at byte offsets. A cut exists exactly when both offsets stand between characters and
come in order; `slice?_eq_some_iff` says what is cut out.
-/

namespace Lexis.Text

/-- The text between the byte offsets `a` and `b` of `s`, if they are in order and each stands at
the edge of a character. -/
def slice? (s : String) (a b : Nat) : Option String :=
  if h : a ≤ b ∧ String.Pos.Raw.IsValid s ⟨a⟩ ∧ String.Pos.Raw.IsValid s ⟨b⟩ then
    some (String.extract (s := s) ⟨⟨a⟩, h.2.1⟩ ⟨⟨b⟩, h.2.2⟩)
  else
    none

theorem slice?_append (u t v : String) :
    slice? (u ++ t ++ v) u.utf8ByteSize (u.utf8ByteSize + t.utf8ByteSize) = some t := by
  have hu : String.Pos.Raw.IsValid (u ++ t ++ v) ⟨u.utf8ByteSize⟩ := by
    rw [String.append_assoc]
    exact String.Pos.Raw.IsValid.append_right String.Pos.Raw.isValid_rawEndPos _
  have ht : String.Pos.Raw.IsValid (u ++ t ++ v) ⟨u.utf8ByteSize + t.utf8ByteSize⟩ := by
    rw [← String.utf8ByteSize_append]
    exact String.Pos.Raw.IsValid.append_right String.Pos.Raw.isValid_rawEndPos _
  have hmiddle (a b c : Array UInt8) : (a ++ b ++ c).extract a.size (a.size + b.size) = b := by
    simp
  rw [slice?, dif_pos ⟨Nat.le_add_right _ _, hu, ht⟩, Option.some_inj, ← String.toByteArray_inj,
    String.toByteArray_extract]
  simp only [String.toByteArray_append]
  apply ByteArray.ext
  simp only [ByteArray.data_extract, ByteArray.data_append]
  exact hmiddle u.toByteArray.data t.toByteArray.data v.toByteArray.data

theorem exists_append_of_isValid {s : String} {a b : Nat} (hab : a ≤ b)
    (ha : String.Pos.Raw.IsValid s ⟨a⟩) (hb : String.Pos.Raw.IsValid s ⟨b⟩) :
    ∃ u t v, s = u ++ t ++ v ∧ a = u.utf8ByteSize ∧ b = u.utf8ByteSize + t.utf8ByteSize := by
  have hp := String.Pos.splits (s := s) ⟨⟨a⟩, ha⟩
  have hq := String.Pos.splits (s := s) ⟨⟨b⟩, hb⟩
  obtain ⟨t, ht, -⟩ := (hp.le_iff_exists_eq_append hq).mp hab
  rw [ht] at hq
  refine ⟨_, t, _, hq.eq_append, congrArg String.Pos.Raw.byteIdx hp.offset_eq_rawEndPos, ?_⟩
  rw [← String.utf8ByteSize_append]
  exact congrArg String.Pos.Raw.byteIdx hq.offset_eq_rawEndPos

theorem slice?_eq_some_iff {s t : String} {a b : Nat} :
    slice? s a b = some t ↔
      ∃ u v, s = u ++ t ++ v ∧ a = u.utf8ByteSize ∧ b = u.utf8ByteSize + t.utf8ByteSize := by
  constructor
  · intro h
    by_cases hab : a ≤ b ∧ String.Pos.Raw.IsValid s ⟨a⟩ ∧ String.Pos.Raw.IsValid s ⟨b⟩
    · obtain ⟨u, m, v, rfl, rfl, rfl⟩ := exists_append_of_isValid hab.1 hab.2.1 hab.2.2
      rw [slice?_append, Option.some_inj] at h
      exact ⟨u, v, by rw [h], rfl, by rw [h]⟩
    · simp [slice?, hab] at h
  · rintro ⟨u, v, rfl, rfl, rfl⟩
    exact slice?_append u t v

end Lexis.Text
