import Lexis.Proofs.Cursor.History
import Lexis.Proofs.Text.Encoding

namespace Lexis.Text

/-- The bytes of `s` from offset `a` on that lie in front of the first needle: all of them if there
is no needle. -/
def bytesBefore (s : String) (a : Nat) (needles : List UInt8) : Nat :=
  ((encoding s).drop a).findIdx needles.contains

theorem bytesBefore_eq_byteLength {s : String} {front back : List Char} {needles : List UInt8}
    (hs : s.toList = front ++ back) (hneedles : needles.all (· < 128) = true) :
    bytesBefore s (byteLength front) needles =
      byteLength (back.takeWhile fun c => !isNeedle needles c) := by
  rw [bytesBefore, drop_encoding hs, ← byteIndex_eq_findIdx, byteIndex_eq_byteLength hneedles]

end Lexis.Text

namespace Lexis.Cursor

open Text

/-- The cursor `c'` stands `n` bytes further on in `s` than `c`, and has taken the text between. -/
structure Takes (s : String) (c : Cursor) (n : Nat) (c' : Cursor) : Prop where
  source_eq : c'.source = s
  start_eq : c'.start = c.start
  stop_eq : c'.stop.toNat = c.stop.toNat + n
  taken : ∃ taken, slice? s c.stop.toNat (c.stop.toNat + n) = some taken ∧
    c'.content = c.content ++ taken ∧ c'.last = taken.toList.getLast?.or c.last

variable {s : String} {c : Cursor}

theorem StandsIn.exists_takes (hsize : s.utf8ByteSize ≤ sourceLimit) (h : c.StandsIn s)
    {needles : List UInt8} (hneedles : needles.all (· < 128) = true) :
    ∃ c', c.takeUntilAscii needles = .ok c' ∧
      c.Takes s (bytesBefore s c.stop.toNat needles) c' := by
  obtain ⟨hs, -⟩ := h
  rename_i before window rest last
  have hstop : (placed before window rest last).stop.toNat = byteLength (before ++ window) :=
    toNat_ofNat_byteLength (byteLength_le_sourceLimit hsize hs)
  rw [hstop, bytesBefore_eq_byteLength hs hneedles, takeUntilAscii_eq_takeUntil _ hneedles,
    takeUntil, Cursor.takeWhile, placed_rest]
  have hsplit : (rest.takeWhile fun ch => !isNeedle needles ch) ++
      rest.dropWhile (fun ch => !isNeedle needles ch) = rest := List.takeWhile_append_dropWhile
  generalize (rest.takeWhile fun ch => !isNeedle needles ch) = taken at hsplit ⊢
  generalize (rest.dropWhile fun ch => !isNeedle needles ch) = ahead at hsplit ⊢
  subst hsplit
  have hlength := byteLength_le_sourceLimit hsize hs
  have hlength' : byteLength (before ++ (window ++ taken) ++ ahead) ≤ sourceLimit := by
    simpa using hlength
  have hstop' : (placed before (window ++ taken) ahead (taken.getLast?.or last)).stop.toNat =
      byteLength (before ++ window) + byteLength taken := by
    rw [← byteLength_append, List.append_assoc]
    exact toNat_ofNat_byteLength hlength'
  refine ⟨_, extend_placed last hlength, ?_, rfl, ?_, String.ofList taken, ?_, ?_, ?_⟩
  · apply String.toList_inj.mp
    simp [placed, hs]
  · rw [hstop', hstop]
  · rw [hstop]
    exact slice?_of_toList_eq hs
  · simp [content]
  · rw [String.toList_ofList]
    rfl

/-- Wherever a cursor has come to, the search for three ASCII bytes takes the text in front of the
first of them, and the search for the three characters ends with the same cursor. -/
theorem takeUntilAscii_three_eq (s : String) (h : s.utf8ByteSize ≤ sourceLimit)
    (history : List Move) (c : Cursor) (hc : (ofSource s).follow history = .ok c)
    (x y z : UInt8) (hx : x < 128) (hy : y < 128) (hz : z < 128) :
    ∃ c', c.takeUntilAscii [x, y, z] = .ok c' ∧
      c.takeUntil (fun ch => ch == .ofUInt8 x || ch == .ofUInt8 y || ch == .ofUInt8 z) = .ok c' ∧
      c.Takes s (bytesBefore s c.stop.toNat [x, y, z]) c' := by
  have hneedles : [x, y, z].all (· < 128) = true := by simp [hx, hy, hz]
  have hneedle : isNeedle [x, y, z] =
      fun ch => ch == .ofUInt8 x || ch == .ofUInt8 y || ch == .ofUInt8 z := by
    funext ch
    simp [isNeedle, Bool.or_assoc]
  have hstands : c.StandsIn s := (standsIn_ofSource h).follow h hc
  obtain ⟨c', hsearch, htakes⟩ := hstands.exists_takes h hneedles
  refine ⟨c', hsearch, ?_, htakes⟩
  rw [← hneedle, ← takeUntilAscii_eq_takeUntil c hneedles]
  exact hsearch

theorem takeUntilAscii_three_eq_within_window :
    ∃ c c', (ofSource "éß日;ö\"").follow [.take] = .ok c ∧ c.content = "é" ∧
      c.takeUntilAscii [0x3B, 0x22, 0x3B] = .ok c' ∧
      c.takeUntil (fun ch => ch == .ofUInt8 0x3B || ch == .ofUInt8 0x22 || ch == .ofUInt8 0x3B) =
        .ok c' ∧
      c.Takes "éß日;ö\"" (bytesBefore "éß日;ö\"" c.stop.toNat [0x3B, 0x22, 0x3B]) c' ∧
      c'.content = "éß日" ∧ c'.stop = 7 ∧ c'.last = some '日' := by
  have hc : (ofSource "éß日;ö\"").follow [.take] =
      .ok ⟨"éß日;ö\"", 0, 2, ['é'], ['ß', '日', ';', 'ö', '"'], some 'é'⟩ := by
    decide +kernel
  have hfound : takeUntilAscii ⟨"éß日;ö\"", 0, 2, ['é'], ['ß', '日', ';', 'ö', '"'], some 'é'⟩
      [0x3B, 0x22, 0x3B] =
        .ok ⟨"éß日;ö\"", 0, 7, ['é', 'ß', '日'], [';', 'ö', '"'], some '日'⟩ := by
    decide +kernel
  obtain ⟨c', hsearch, hchars, htakes⟩ := takeUntilAscii_three_eq _ (by decide) _ _ hc
    0x3B 0x22 0x3B (by decide) (by decide) (by decide)
  obtain rfl := Except.ok.inj (hsearch.symm.trans hfound)
  exact ⟨_, _, hc, by decide, hsearch, hchars, htakes, by decide, rfl, rfl⟩

end Lexis.Cursor
