import Lexis.Cursor.Move
import Lexis.Proofs.Cursor.Placed
import Lexis.Proofs.Text.Cut

namespace Lexis.Cursor

open Text

/-- The text behind the cursor, in its window and ahead of it makes up `s`, and a window with text
in it ends with the character taken last. -/
inductive StandsIn (s : String) : Cursor → Prop where
  | intro {before window rest : List Char} {last : Option Char}
      (hs : s.toList = before ++ window ++ rest)
      (hlast : window ≠ [] → last = window.getLast?) :
      StandsIn s (placed before window rest last)

def Move.Allowed (c : Cursor) : Move → Prop
  | .takeUntilAscii needles => needles.all (· < 128) = true
  | .skipWhile _ => c.start = c.stop
  | _ => True

variable {s : String} {c : Cursor}

theorem standsIn_ofSource (hsize : s.utf8ByteSize ≤ sourceLimit) : (ofSource s).StandsIn s := by
  rw [ofSource_eq_placed hsize]
  exact .intro (by simp) (fun hwindow => absurd rfl hwindow)

theorem StandsIn.slice?_stop (hsize : s.utf8ByteSize ≤ sourceLimit) (h : c.StandsIn s) :
    slice? s c.stop.toNat s.utf8ByteSize = some (String.ofList c.rest) := by
  obtain ⟨hs, -⟩ := h
  rename_i before window rest last
  have hlength := byteLength_le_sourceLimit hsize hs
  have hstop : (placed before window rest last).stop.toNat = byteLength (before ++ window) :=
    toNat_ofNat_byteLength hlength
  have hs' : s.toList = before ++ window ++ (rest ++ []) := by rw [hs, List.append_nil]
  rw [hstop, utf8ByteSize_of_toList hs]
  exact slice?_of_toList_eq hs'

theorem StandsIn.advance (h : c.StandsIn s) : c.advance.StandsIn s := by
  obtain ⟨hs, -⟩ := h
  rw [advance_placed]
  exact .intro (by simpa using hs) (fun hwindow => absurd rfl hwindow)

theorem StandsIn.extend (hsize : s.utf8ByteSize ≤ sourceLimit) (h : c.StandsIn s)
    {taken rest : List Char} (hrest : c.rest = taken ++ rest) :
    ∃ c', c.extend taken rest = .ok c' ∧ c'.StandsIn s := by
  obtain ⟨hs, hlast⟩ := h
  rename_i before window ahead last
  obtain rfl : ahead = taken ++ rest := hrest
  have hlength := byteLength_le_sourceLimit hsize hs
  refine ⟨_, extend_placed last hlength, .intro (by simpa using hs) ?_⟩
  intro hwindow
  rw [List.getLast?_append]
  by_cases hempty : window = []
  · subst hempty
    have htaken : taken.getLast?.isSome = true := by simpa using hwindow
    rw [Option.or_of_isSome htaken, Option.or_of_isSome htaken]
  · rw [hlast hempty]

theorem StandsIn.take (hsize : s.utf8ByteSize ≤ sourceLimit) (h : c.StandsIn s) :
    ∃ found c', c.take = .ok (found, c') ∧ c'.StandsIn s := by
  unfold Cursor.take
  split
  · exact ⟨false, c, rfl, h⟩
  · rename_i ch rest hrest
    have hsplit : c.rest = [ch] ++ rest := hrest
    obtain ⟨c', hextend, hc'⟩ := h.extend hsize hsplit
    refine ⟨true, c', ?_, hc'⟩
    rw [hextend]
    rfl

theorem StandsIn.takeIf (hsize : s.utf8ByteSize ≤ sourceLimit) (h : c.StandsIn s)
    (expected : Char) : ∃ found c', c.takeIf expected = .ok (found, c') ∧ c'.StandsIn s := by
  unfold Cursor.takeIf
  split
  · exact h.take hsize
  · exact ⟨false, c, rfl, h⟩

theorem StandsIn.takeWhile (hsize : s.utf8ByteSize ≤ sourceLimit) (h : c.StandsIn s)
    (p : Char → Bool) : ∃ c', c.takeWhile p = .ok c' ∧ c'.StandsIn s :=
  h.extend hsize List.takeWhile_append_dropWhile.symm

theorem eq_nil_of_start_eq_stop {before window rest : List Char} {last : Option Char}
    (hlength : byteLength (before ++ window ++ rest) ≤ sourceLimit)
    (h : (placed before window rest last).start = (placed before window rest last).stop) :
    window = [] := by
  have hstart : (UInt32.ofNat (byteLength before)).toNat = byteLength before :=
    toNat_ofNat_byteLength (by rwa [List.append_assoc] at hlength)
  have hstop := toNat_ofNat_byteLength hlength
  have hends : (UInt32.ofNat (byteLength before)).toNat =
      (UInt32.ofNat (byteLength (before ++ window))).toNat := congrArg UInt32.toNat h
  apply byteLength_eq_zero.mp
  rw [hstart, hstop, byteLength_append] at hends
  omega

theorem StandsIn.skipWhile (hsize : s.utf8ByteSize ≤ sourceLimit) (h : c.StandsIn s)
    (hempty : c.start = c.stop) (p : Char → Bool) :
    ∃ c', c.skipWhile p = .ok c' ∧ c'.StandsIn s := by
  obtain ⟨hs, -⟩ := h
  rename_i before window rest last
  have hlength := byteLength_le_sourceLimit hsize hs
  obtain rfl := eq_nil_of_start_eq_stop hlength hempty
  refine ⟨_, skipWhile_placed last p (by simpa using hlength), .intro ?_ ?_⟩
  · simpa using hs
  · exact fun hwindow => absurd rfl hwindow

theorem StandsIn.move (hsize : s.utf8ByteSize ≤ sourceLimit) (h : c.StandsIn s) {m : Move}
    (hm : m.Allowed c) : ∃ answer c', c.move m = .ok (answer, c') ∧ c'.StandsIn s := by
  cases m with
  | take =>
      obtain ⟨found, c', htake, hc'⟩ := h.take hsize
      exact ⟨some found, c', by rw [Cursor.move, htake]; rfl, hc'⟩
  | takeIf expected =>
      obtain ⟨found, c', htake, hc'⟩ := h.takeIf hsize expected
      exact ⟨some found, c', by rw [Cursor.move, htake]; rfl, hc'⟩
  | takeWhile p =>
      obtain ⟨c', htake, hc'⟩ := h.takeWhile hsize p
      exact ⟨none, c', by rw [Cursor.move, htake]; rfl, hc'⟩
  | takeUntil p =>
      obtain ⟨c', htake, hc'⟩ := h.takeWhile hsize fun ch => !p ch
      exact ⟨none, c', by rw [Cursor.move, takeUntil, htake]; rfl, hc'⟩
  | takeUntilAscii needles =>
      obtain ⟨c', htake, hc'⟩ := h.takeWhile hsize fun ch => !isNeedle needles ch
      refine ⟨none, c', ?_, hc'⟩
      rw [Cursor.move, takeUntilAscii_eq_takeUntil c hm, takeUntil, htake]
      rfl
  | skipWhile p =>
      obtain ⟨c', hskip, hc'⟩ := h.skipWhile hsize hm p
      exact ⟨none, c', by rw [Cursor.move, hskip]; rfl, hc'⟩
  | advance => exact ⟨none, c.advance, rfl, h.advance⟩

theorem Move.allowed_of_move_eq_ok {c' : Cursor} {m : Move} {answer : Option Bool}
    (h : c.move m = .ok (answer, c')) : m.Allowed c := by
  cases m with
  | takeUntilAscii needles =>
      obtain ⟨d, htake, -⟩ := Checked.bind_eq_ok_iff.mp h
      unfold Cursor.takeUntilAscii at htake
      split at htake
      · assumption
      · contradiction
  | skipWhile p =>
      obtain ⟨d, hskip, -⟩ := Checked.bind_eq_ok_iff.mp h
      unfold Cursor.skipWhile at hskip
      split at hskip
      · assumption
      · contradiction
  | _ => trivial

theorem StandsIn.of_move_eq_ok (hsize : s.utf8ByteSize ≤ sourceLimit) (h : c.StandsIn s)
    {c' : Cursor} {m : Move} {answer : Option Bool} (hmove : c.move m = .ok (answer, c')) :
    c'.StandsIn s := by
  obtain ⟨answer', d, hmove', hd⟩ := h.move hsize (Move.allowed_of_move_eq_ok hmove)
  rw [hmove, Except.ok.injEq] at hmove'
  obtain ⟨-, rfl⟩ := Prod.mk.inj hmove'
  exact hd

end Lexis.Cursor
