/-!
Sets of code points written as ascending ranges, the form in which character properties are
tabulated. The search stops at the first range that begins past the code point, so the common
characters, which stand at the front of every table, are found at once.
-/

namespace Lexis.Text

/-- The code points from `first` to `last`, both included. -/
structure CodeRange where
  first : Nat
  last : Nat
  deriving DecidableEq, Repr

namespace CodeRange

/-- Every range is non-empty and ends before the next one begins. -/
def ascending : List CodeRange → Bool
  | [] => true
  | [r] => decide (r.first ≤ r.last)
  | r :: s :: rs => decide (r.first ≤ r.last) && decide (r.last < s.first) && ascending (s :: rs)

/-- Whether one of the ranges of an ascending table holds the code point `n`. -/
def covers : List CodeRange → Nat → Bool
  | [], _ => false
  | r :: rs, n =>
      if n < r.first then false
      else if n ≤ r.last then true
      else covers rs n

theorem ascending_tail {r : CodeRange} {rs : List CodeRange} (h : ascending (r :: rs)) :
    ascending rs := by
  cases rs with
  | nil => rfl
  | cons s rs =>
      simp only [ascending, Bool.and_eq_true] at h
      exact h.2

theorem last_lt_of_mem {r : CodeRange} {rs : List CodeRange} (h : ascending (r :: rs)) :
    ∀ s ∈ rs, r.last < s.first := by
  induction rs generalizing r with
  | nil => simp
  | cons t rs ih =>
      have htail := ascending_tail h
      simp only [ascending, Bool.and_eq_true, decide_eq_true_eq] at h
      have hthere : t.first ≤ t.last := by
        cases rs with
        | nil => simpa [ascending] using htail
        | cons u rs =>
            simp only [ascending, Bool.and_eq_true, decide_eq_true_eq] at htail
            exact htail.1.1
      intro s hs
      rcases List.mem_cons.mp hs with rfl | hs
      · exact h.1.2
      · have := ih htail s hs
        omega

/-- On an ascending table stopping early loses nothing. -/
theorem covers_iff {rs : List CodeRange} (h : ascending rs) (n : Nat) :
    covers rs n = true ↔ ∃ r ∈ rs, r.first ≤ n ∧ n ≤ r.last := by
  induction rs with
  | nil => simp [covers]
  | cons r rs ih =>
      have hlater := last_lt_of_mem h
      have hhere : r.first ≤ r.last := by
        cases rs with
        | nil => simpa [ascending] using h
        | cons s rs =>
            simp only [ascending, Bool.and_eq_true, decide_eq_true_eq] at h
            exact h.1.1
      simp only [covers]
      split
      · constructor
        · simp
        · rintro ⟨s, hs, hfirst, -⟩
          rcases List.mem_cons.mp hs with rfl | hs
          · omega
          · have := hlater s hs
            omega
      · split
        · simp only [true_iff]
          exact ⟨r, by simp, by omega, by omega⟩
        · rw [ih (ascending_tail h)]
          constructor
          · rintro ⟨s, hs, hs'⟩
            exact ⟨s, by simp [hs], hs'⟩
          · rintro ⟨s, hs, hs'⟩
            rcases List.mem_cons.mp hs with rfl | hs
            · omega
            · exact ⟨s, hs, hs'⟩

end CodeRange

end Lexis.Text
