import Mathlib.Control.Monad.Basic
import Lexis.Proofs.Cursor.Standing

/-!
Histories of a cursor. Five of the seven operations extend the window by a front part of the text
ahead, which may be empty, one skips such a part, and one closes the window (`move_cases`). So the
end never goes back, only skipping and closing touch the start, and after any history the window is
a stretch of the source that ends with the character taken last.
-/

namespace Lexis.Cursor

open Text

/-- Carries out a history, operation by operation. -/
def follow (c : Cursor) : List Move → Checked Cursor
  | [] => return c
  | m :: history => do
      let (_, c) ← c.move m
      c.follow history

/-- The window is a stretch of `s` between characters, and if it is not empty its last character is
the one taken last. -/
structure Windowed (s : String) (c : Cursor) : Prop where
  source_eq : c.source = s
  ordered : c.start ≤ c.stop
  bounded : c.stop.toNat ≤ s.utf8ByteSize
  start_valid : String.Pos.Raw.IsValid s ⟨c.start.toNat⟩
  stop_valid : String.Pos.Raw.IsValid s ⟨c.stop.toNat⟩
  content_eq : slice? s c.start.toNat c.stop.toNat = some c.content
  last_eq : c.start ≠ c.stop → ∃ front ch, c.content.toList = front ++ [ch] ∧ c.last = some ch

variable {s : String} {c c' : Cursor} {m : Move} {answer : Option Bool}

theorem extend_nil (c : Cursor) : c.extend [] c.rest = .ok c := by
  have hstop : addOffset c.stop (byteLength []) = .ok c.stop := addOffset_eq_ok_iff.mpr rfl
  rw [extend, hstop]
  change Except.ok { c with window := c.window ++ [] } = _
  rw [List.append_nil]

theorem extend_ends {taken rest : List Char} (h : c.extend taken rest = .ok c') :
    c'.start = c.start ∧ c'.stop.toNat = c.stop.toNat + byteLength taken := by
  obtain ⟨stop, hstop, h⟩ := Checked.bind_eq_ok_iff.mp h
  obtain rfl := Checked.pure_eq_ok_iff.mp h
  exact ⟨rfl, addOffset_eq_ok_iff.mp hstop⟩

theorem skipWhile_stop {p : Char → Bool} (h : c.skipWhile p = .ok c') :
    c'.stop.toNat = c.stop.toNat + byteLength (c.rest.takeWhile p) := by
  unfold skipWhile at h
  split at h
  · obtain ⟨stop, hstop, h⟩ := Checked.bind_eq_ok_iff.mp h
    obtain rfl := Checked.pure_eq_ok_iff.mp h
    exact addOffset_eq_ok_iff.mp hstop
  · contradiction

theorem take_eq_extend {found : Bool} (h : c.take = .ok (found, c')) :
    ∃ taken rest, c.rest = taken ++ rest ∧ c.extend taken rest = .ok c' := by
  unfold take at h
  split at h
  · obtain ⟨-, rfl⟩ := Prod.mk.inj (Checked.pure_eq_ok_iff.mp h)
    exact ⟨[], c.rest, rfl, extend_nil c⟩
  · rename_i ch rest hrest
    obtain ⟨d, hextend, h⟩ := Checked.bind_eq_ok_iff.mp h
    obtain ⟨-, rfl⟩ := Prod.mk.inj (Checked.pure_eq_ok_iff.mp h)
    exact ⟨[ch], rest, hrest, hextend⟩

theorem takeIf_eq_extend {expected : Char} {found : Bool}
    (h : c.takeIf expected = .ok (found, c')) :
    ∃ taken rest, c.rest = taken ++ rest ∧ c.extend taken rest = .ok c' := by
  unfold takeIf at h
  split at h
  · exact take_eq_extend h
  · obtain ⟨-, rfl⟩ := Prod.mk.inj (Checked.pure_eq_ok_iff.mp h)
    exact ⟨[], c.rest, rfl, extend_nil c⟩

theorem takeUntilAscii_eq_extend {needles : List UInt8} (h : c.takeUntilAscii needles = .ok c') :
    ∃ taken rest, c.rest = taken ++ rest ∧ c.extend taken rest = .ok c' := by
  unfold takeUntilAscii at h
  split at h
  · exact ⟨_, _, (splitAtByte_append _ c.rest).symm, h⟩
  · contradiction

theorem move_cases (h : c.move m = .ok (answer, c')) :
    (∃ taken rest, c.rest = taken ++ rest ∧ c.extend taken rest = .ok c') ∨
      (∃ p, m = .skipWhile p ∧ c.skipWhile p = .ok c') ∨ (m = .advance ∧ c' = c.advance) := by
  cases m with
  | take =>
      obtain ⟨⟨found, d⟩, htake, h⟩ := Checked.bind_eq_ok_iff.mp h
      cases h
      exact .inl (take_eq_extend htake)
  | takeIf expected =>
      obtain ⟨⟨found, d⟩, htake, h⟩ := Checked.bind_eq_ok_iff.mp h
      cases h
      exact .inl (takeIf_eq_extend htake)
  | takeWhile p =>
      obtain ⟨d, htake, h⟩ := Checked.bind_eq_ok_iff.mp h
      cases h
      exact .inl ⟨_, _, List.takeWhile_append_dropWhile.symm, htake⟩
  | takeUntil p =>
      obtain ⟨d, htake, h⟩ := Checked.bind_eq_ok_iff.mp h
      cases h
      exact .inl ⟨_, _, List.takeWhile_append_dropWhile.symm, htake⟩
  | takeUntilAscii needles =>
      obtain ⟨d, htake, h⟩ := Checked.bind_eq_ok_iff.mp h
      cases h
      exact .inl (takeUntilAscii_eq_extend htake)
  | skipWhile p =>
      obtain ⟨d, hskip, h⟩ := Checked.bind_eq_ok_iff.mp h
      cases h
      exact .inr (.inl ⟨p, rfl, hskip⟩)
  | advance =>
      cases h
      exact .inr (.inr ⟨rfl, rfl⟩)

theorem stop_le_of_move (h : c.move m = .ok (answer, c')) : c.stop ≤ c'.stop := by
  rw [UInt32.le_iff_toNat_le]
  obtain ⟨taken, rest, -, hextend⟩ | ⟨p, -, hskip⟩ | ⟨-, rfl⟩ := move_cases h
  · rw [(extend_ends hextend).2]
    exact Nat.le_add_right _ _
  · rw [skipWhile_stop hskip]
    exact Nat.le_add_right _ _
  · exact Nat.le_refl _

theorem start_eq_of_move (h : c.move m = .ok (answer, c')) :
    c'.start = c.start ∨ m = .advance ∨ ∃ p, m = .skipWhile p := by
  obtain ⟨taken, rest, -, hextend⟩ | ⟨p, rfl, -⟩ | ⟨rfl, -⟩ := move_cases h
  · exact .inl (extend_ends hextend).1
  · exact .inr (.inr ⟨p, rfl⟩)
  · exact .inr (.inl rfl)

theorem StandsIn.windowed (hsize : s.utf8ByteSize ≤ sourceLimit) (h : c.StandsIn s) :
    c.Windowed s := by
  obtain ⟨hs, hlast⟩ := h
  rename_i before window rest last
  have hs' : s.toList = before ++ (window ++ rest) := by rw [hs, List.append_assoc]
  have hlength := byteLength_le_sourceLimit hsize hs
  have hstart : (UInt32.ofNat (byteLength before)).toNat = byteLength before :=
    toNat_ofNat_byteLength (byteLength_le_sourceLimit hsize hs')
  have hstop : (UInt32.ofNat (byteLength (before ++ window))).toNat =
      byteLength before + byteLength window := by
    rw [toNat_ofNat_byteLength hlength, byteLength_append]
  have hcontent : slice? s (UInt32.ofNat (byteLength before)).toNat
      (UInt32.ofNat (byteLength (before ++ window))).toNat = some (String.ofList window) := by
    rw [hstart, hstop]
    exact slice?_of_toList_eq hs'
  refine ⟨?_, ?_, ?_, (isValid_of_slice?_eq_some hcontent).1,
    (isValid_of_slice?_eq_some hcontent).2, hcontent, ?_⟩
  · change String.ofList (before ++ window ++ rest) = s
    rw [← hs, String.ofList_toList]
  · rw [UInt32.le_iff_toNat_le]
    change (UInt32.ofNat (byteLength before)).toNat ≤
      (UInt32.ofNat (byteLength (before ++ window))).toNat
    omega
  · change (UInt32.ofNat (byteLength (before ++ window))).toNat ≤ s.utf8ByteSize
    rw [toNat_ofNat_byteLength hlength, utf8ByteSize_of_toList hs]
    exact Nat.le_add_right _ _
  · intro hends
    have hwindow : window ≠ [] := by
      rintro rfl
      exact hends (congrArg UInt32.ofNat (by rw [List.append_nil]))
    refine ⟨window.dropLast, window.getLast hwindow, ?_, ?_⟩
    · change (String.ofList window).toList = _
      rw [String.toList_ofList, List.dropLast_concat_getLast]
    · change last = _
      rw [hlast hwindow, List.getLast?_eq_some_getLast hwindow]

theorem StandsIn.follow (hsize : s.utf8ByteSize ≤ sourceLimit) (h : c.StandsIn s)
    {history : List Move} (hfollow : c.follow history = .ok c') : c'.StandsIn s := by
  induction history generalizing c with
  | nil =>
      obtain rfl := Checked.pure_eq_ok_iff.mp hfollow
      exact h
  | cons m history ih =>
      obtain ⟨⟨answer, d⟩, hmove, hfollow⟩ := Checked.bind_eq_ok_iff.mp hfollow
      exact ih (h.of_move_eq_ok hsize hmove) hfollow

/-- After any history the window is a stretch of the source, and every operation that the cursor
allows moves the end forward or not at all, and the start only by skipping or closing. -/
theorem windowed_of_follow (s : String) (h : s.utf8ByteSize ≤ sourceLimit) (history : List Move)
    (c : Cursor) (hc : (ofSource s).follow history = .ok c) :
    c.Windowed s ∧ ∀ m : Move, m.Allowed c → ∃ answer c', c.move m = .ok (answer, c') ∧
      (c'.stop = c.stop ∨ c.stop < c'.stop ∧ String.Pos.Raw.IsValid s ⟨c'.stop.toNat⟩) ∧
      (c'.start = c.start ∨ m = .advance ∨ ∃ p, m = .skipWhile p) := by
  have hstands : c.StandsIn s := (standsIn_ofSource h).follow h hc
  refine ⟨hstands.windowed h, ?_⟩
  intro m hm
  obtain ⟨answer, c', hmove, hstands'⟩ := hstands.move h hm
  refine ⟨answer, c', hmove, ?_, start_eq_of_move hmove⟩
  rcases UInt32.le_iff_lt_or_eq.mp (stop_le_of_move hmove) with hlt | heq
  · exact .inr ⟨hlt, (hstands'.windowed h).stop_valid⟩
  · exact .inl heq.symm

theorem windowed_of_follow_after_skip :
    ∃ c, (ofSource "é\t日\"x").follow
        [.take, .advance, .skipWhile (· == '\t'), .takeUntilAscii [0x22, 0x0D, 0x0A]] = .ok c ∧
      c.Windowed "é\t日\"x" ∧ c.content = "日" ∧
      ∀ m : Move, m.Allowed c → ∃ answer c', c.move m = .ok (answer, c') ∧
        (c'.stop = c.stop ∨
          c.stop < c'.stop ∧ String.Pos.Raw.IsValid "é\t日\"x" ⟨c'.stop.toNat⟩) ∧
        (c'.start = c.start ∨ m = .advance ∨ ∃ p, m = .skipWhile p) := by
  have hc : (ofSource "é\t日\"x").follow
      [.take, .advance, .skipWhile (· == '\t'), .takeUntilAscii [0x22, 0x0D, 0x0A]] =
      .ok ⟨"é\t日\"x", 3, 6, ['日'], ['"', 'x'], some '日'⟩ := by
    decide +kernel
  obtain ⟨hwindow, hmoves⟩ := windowed_of_follow _ (by decide) _ _ hc
  exact ⟨_, hc, hwindow, by decide, hmoves⟩

end Lexis.Cursor
