namespace Lexis

/-- The first index from `lo` up to `hi` at which the test fails, for a test that never holds again
once it has failed; `hi` if it fails nowhere before. -/
def bisect (p : Nat → Bool) (lo hi : Nat) : Nat :=
  if lo < hi then
    let mid := (lo + hi) / 2
    if p mid then bisect p (mid + 1) hi else bisect p lo mid
  else
    lo
termination_by hi - lo

theorem bisect_bounds (p : Nat → Bool) (lo hi : Nat) (h : lo ≤ hi) :
    lo ≤ bisect p lo hi ∧ bisect p lo hi ≤ hi := by
  fun_induction bisect p lo hi with
  | case1 lo hi hlt mid hp ih =>
      have := ih (by omega)
      omega
  | case2 lo hi hlt mid hp ih =>
      have := ih (by omega)
      omega
  | case3 lo hi hge => omega

/-- The indices below the answer are exactly those that pass. -/
theorem lt_bisect_iff {p : Nat → Bool} (hp : ∀ i j, i ≤ j → p j = true → p i = true)
    {lo hi i : Nat} (hlo : lo ≤ i) (hhi : i < hi) : i < bisect p lo hi ↔ p i = true := by
  fun_induction bisect p lo hi with
  | case1 lo hi hlt mid hmid ih =>
      by_cases h : mid + 1 ≤ i
      · exact ih h hhi
      · have hle := (bisect_bounds p (mid + 1) hi (by omega)).1
        exact ⟨fun _ => hp i mid (by omega) hmid, fun _ => by omega⟩
  | case2 lo hi hlt mid hmid ih =>
      by_cases h : i < mid
      · exact ih hlo h
      · have hle := (bisect_bounds p lo mid (by omega)).2
        refine ⟨fun hi' => by omega, fun hi' => ?_⟩
        exact absurd (hp mid i (by omega) hi') hmid
  | case3 lo hi hge => omega

end Lexis
