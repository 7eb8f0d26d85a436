import Lexis.Lexer.Scan
import Lexis.Text.Whitespace

namespace Lexis.Text.CodeRange

/-- No range of one table meets a range of the other. -/
def disjoint (rs ss : List CodeRange) : Bool :=
  rs.all fun r => ss.all fun s => decide (r.last < s.first) || decide (s.last < r.first)

theorem covers_eq_false_of_disjoint {rs ss : List CodeRange} (hrs : ascending rs = true)
    (hss : ascending ss = true) (hdisjoint : disjoint rs ss = true) {n : Nat}
    (hn : covers rs n = true) : covers ss n = false := by
  rw [← Bool.not_eq_true, covers_iff hss]
  rintro ⟨s, hs, hfirst, hlast⟩
  obtain ⟨r, hr, hfirst', hlast'⟩ := (covers_iff hrs n).mp hn
  have hrs := List.all_eq_true.mp (List.all_eq_true.mp hdisjoint r hr) s hs
  simp only [Bool.or_eq_true, decide_eq_true_eq] at hrs
  omega

end Lexis.Text.CodeRange

namespace Lexis.Text

theorem isAlphabetic_eq_false_of_isWhitespace {c : Char} (h : isWhitespace c = true) :
    isAlphabetic c = false :=
  CodeRange.covers_eq_false_of_disjoint whitespaceRanges_ascending alphabeticRanges_ascending
    (by decide +kernel) h

theorem isNumeric_eq_false_of_isWhitespace {c : Char} (h : isWhitespace c = true) :
    isNumeric c = false :=
  CodeRange.covers_eq_false_of_disjoint whitespaceRanges_ascending numericRanges_ascending
    (by decide +kernel) h

theorem toNat_lt_of_isAlphabetic {c : Char} (h : isAlphabetic c = true) : 64 < c.toNat := by
  rw [← Nat.not_le]
  intro hle
  have hcovers : CodeRange.covers [⟨0, 64⟩] c.toNat = true := by
    simp [CodeRange.covers, hle]
  have hnone : isAlphabetic c = false := CodeRange.covers_eq_false_of_disjoint
    (by decide) alphabeticRanges_ascending (by decide +kernel) hcovers
  rw [hnone] at h
  contradiction

theorem isWhitespace_eq_false_of_visible {c : Char} (hlow : 33 ≤ c.toNat)
    (hhigh : c.toNat ≤ 126) : isWhitespace c = false := by
  have hcovers : CodeRange.covers [⟨33, 126⟩] c.toNat = true := by
    simp [CodeRange.covers, hhigh, hlow]
  exact CodeRange.covers_eq_false_of_disjoint (by decide) whitespaceRanges_ascending
    (by decide +kernel) hcovers

theorem isLineBreak_iff {c : Char} : isLineBreak c = true ↔ c = '\r' ∨ c = '\n' := by
  simp [isLineBreak]

theorem not_mem_of_isLineBreak {cs : List Char} (h : ∀ c ∈ cs, isLineBreak c = false) :
    '\n' ∉ cs := by
  intro hfeed
  exact absurd (h '\n' hfeed) (by decide)

theorem isWhitespace_of_isLineBreak {c : Char} (h : isLineBreak c = true) :
    isWhitespace c = true := by
  rcases isLineBreak_iff.mp h with rfl | rfl <;> decide

theorem isDigit_eq_false_of_isLineBreak {c : Char} (h : isLineBreak c = true) :
    c.isDigit = false := by
  rcases isLineBreak_iff.mp h with rfl | rfl <;> decide

theorem toNat_of_isDigit {c : Char} (h : c.isDigit = true) : 48 ≤ c.toNat ∧ c.toNat ≤ 57 :=
  Char.isDigit_iff_toNat.mp h

theorem isDigit_eq_false_of_isWhitespace {c : Char} (h : isWhitespace c = true) :
    c.isDigit = false := by
  rw [← Bool.not_eq_true]
  intro hdigit
  have hbounds := toNat_of_isDigit hdigit
  rw [isWhitespace_eq_false_of_visible (by omega) (by omega)] at h
  contradiction

end Lexis.Text

namespace Lexis.Scan

open Text

theorem startsName_iff {c : Char} : startsName c = true ↔ c = '_' ∨ isAlphabetic c = true := by
  simp [startsName]

theorem toNat_lt_of_startsName {c : Char} (h : startsName c = true) : 64 < c.toNat := by
  rcases startsName_iff.mp h with rfl | h
  · decide
  · exact toNat_lt_of_isAlphabetic h

theorem isWhitespace_eq_false_of_startsName {c : Char} (h : startsName c = true) :
    isWhitespace c = false := by
  rcases startsName_iff.mp h with rfl | h
  · decide
  · rw [← Bool.not_eq_true]
    intro hwhite
    rw [isAlphabetic_eq_false_of_isWhitespace hwhite] at h
    contradiction

theorem continuesName_eq_false_of_isWhitespace {c : Char} (h : isWhitespace c = true) :
    continuesName c = false := by
  have hunderscore : c ≠ '_' := by
    rintro rfl
    exact absurd h (by decide)
  simp [continuesName, isAlphanumeric, hunderscore, isAlphabetic_eq_false_of_isWhitespace h,
    isNumeric_eq_false_of_isWhitespace h]

end Lexis.Scan
