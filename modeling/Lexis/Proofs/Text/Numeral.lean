import Lexis.Proofs.Text.Classes

namespace Lexis.Text.Decimal

def IsDigits (digits : List Char) : Prop :=
  digits ≠ [] ∧ ∀ d ∈ digits, d.isDigit = true

def numeral (negative : Bool) (digits : List Char) : List Char :=
  if negative then '-' :: digits else digits

/-- The number that a signed row of digits denotes. -/
def numeralValue (negative : Bool) (digits : List Char) : Int :=
  if negative then -(Nat.ofDigitChars 10 digits 0 : Int) else Nat.ofDigitChars 10 digits 0

def InRange (n : Int) : Prop :=
  -9223372036854775808 ≤ n ∧ n ≤ 9223372036854775807

instance (n : Int) : Decidable (InRange n) :=
  inferInstanceAs (Decidable (_ ∧ _))

theorem isDigit_of_mem_ofNat {n : Nat} {c : Char} (h : c ∈ (ofNat n).toList) :
    c.isDigit = true := by
  rw [ofNat, String.toList_ofList] at h
  exact Nat.isDigit_of_mem_toDigits (by decide) (by decide) h

theorem isLineBreak_eq_false_of_mem_numeral {negative : Bool} {digits : List Char}
    (h : IsDigits digits) : ∀ c ∈ numeral negative digits, isLineBreak c = false := by
  have hdigits : ∀ c ∈ digits, isLineBreak c = false := by
    intro c hc
    rw [← Bool.not_eq_true]
    intro hbreak
    have hdigit := h.2 c hc
    rw [isDigit_eq_false_of_isLineBreak hbreak] at hdigit
    contradiction
  cases negative with
  | false => exact hdigits
  | true =>
      intro c hc
      rcases List.mem_cons.mp hc with rfl | hc
      · decide
      · exact hdigits c hc

theorem natural_of_isDigits {digits : List Char} (h : IsDigits digits) :
    natural digits = .ok (Nat.ofDigitChars 10 digits 0) := by
  have hall : digits.all Char.isDigit = true := List.all_eq_true.mpr h.2
  have hempty : digits.isEmpty = false := List.isEmpty_eq_false_iff.mpr h.1
  rw [natural, hall, hempty]
  rfl

theorem integer_eq_natural {digits : List Char} (h : IsDigits digits) :
    integer digits = (natural digits).map fun n => (n : Int) := by
  unfold integer
  split
  · exact absurd rfl h.1
  · exact absurd (h.2 '-' (by simp)) (by decide)
  · exact absurd (h.2 '+' (by simp)) (by decide)
  · rfl

theorem integer_numeral {negative : Bool} {digits : List Char} (h : IsDigits digits) :
    integer (numeral negative digits) = .ok (numeralValue negative digits) := by
  cases negative with
  | false =>
      rw [numeral, if_neg (by decide), integer_eq_natural h, natural_of_isDigits h]
      rfl
  | true =>
      rw [numeral, if_pos rfl, integer, natural_of_isDigits h]
      rfl

theorem word_eq_if (n : Int) :
    word n = if InRange n then .ok (Int64.ofInt n) else .error .outOfRange := by
  have hmin : Int64.minValue.toInt = -9223372036854775808 := by decide
  have hmax : Int64.maxValue.toInt = 9223372036854775807 := by decide
  rw [word, hmin, hmax]
  rfl

theorem word_eq_ok_iff {n : Int} {w : Int64} : word n = .ok w ↔ w.toInt = n := by
  have hlow := w.le_toInt
  have hhigh := w.toInt_lt
  rw [word_eq_if]
  split
  · rename_i h
    obtain ⟨hmin, hmax⟩ := h
    rw [Except.ok.injEq]
    constructor
    · rintro rfl
      exact Int64.toInt_ofInt_of_le (by omega) (by omega)
    · rintro rfl
      exact Int64.ofInt_toInt w
  · rename_i h
    simp only [reduceCtorEq, false_iff]
    rintro rfl
    exact h ⟨by omega, by omega⟩

theorem word_of_not_inRange {n : Int} (h : ¬ InRange n) : word n = .error .outOfRange := by
  rw [word_eq_if, if_neg h]

theorem exists_toInt_eq {n : Int} (h : InRange n) : ∃ w : Int64, w.toInt = n :=
  ⟨Int64.ofInt n, word_eq_ok_iff.mp (by rw [word_eq_if, if_pos h])⟩

theorem parseInt64_numeral {negative : Bool} {digits : List Char} (h : IsDigits digits) :
    parseInt64 (numeral negative digits) = word (numeralValue negative digits) := by
  rw [parseInt64, integer_numeral h]
  rfl

theorem isDigits_toDigits (n : Nat) : IsDigits (Nat.toDigits 10 n) :=
  ⟨Nat.toDigits_ne_nil, fun _ hd => Nat.isDigit_of_mem_toDigits (by decide) (by decide) hd⟩

theorem toList_ofInt (n : Int) :
    (ofInt n).toList = numeral (decide (n < 0)) (Nat.toDigits 10 n.natAbs) := by
  rw [ofInt, ofNat, numeral]
  by_cases hn : n < 0
  · simp [hn]
  · simp [hn]

theorem numeralValue_toDigits (n : Int) :
    numeralValue (decide (n < 0)) (Nat.toDigits 10 n.natAbs) = n := by
  rw [numeralValue, Nat.ofDigitChars_ten_toDigits]
  split
  · rename_i hn
    have hneg : n < 0 := of_decide_eq_true hn
    omega
  · rename_i hn
    have hpos : ¬ n < 0 := fun hneg => hn (decide_eq_true hneg)
    omega

end Lexis.Text.Decimal
