import Lexis.Proofs.Text.ByteSearch

/-!
Cursors by what lies behind them, in their window and ahead. Within the size limit every operation
on such a cursor succeeds, and its effect is an equation between three pieces of text; the offsets
follow the text. Nothing else about offsets is needed after this.
-/

namespace Lexis.Text

theorem takeWhile_append_of_stop {p : Char → Bool} {taken rest : List Char}
    (htaken : ∀ c ∈ taken, p c = true) (hrest : rest.head?.any p = false) :
    (taken ++ rest).takeWhile p = taken := by
  rw [List.takeWhile_append_of_pos htaken]
  cases rest with
  | nil => simp
  | cons c rest =>
      have hc : p c = false := by simpa using hrest
      simp [hc]

theorem dropWhile_append_of_stop {p : Char → Bool} {taken rest : List Char}
    (htaken : ∀ c ∈ taken, p c = true) (hrest : rest.head?.any p = false) :
    (taken ++ rest).dropWhile p = rest := by
  rw [List.dropWhile_append_of_pos htaken]
  cases rest with
  | nil => rfl
  | cons c rest =>
      have hc : p c = false := by simpa using hrest
      simp [hc]

theorem head?_dropWhile_any (p : Char → Bool) (cs : List Char) :
    (cs.dropWhile p).head?.any p = false := by
  have h := List.head?_dropWhile_not p cs
  split at h
  · rename_i c hc
    rw [hc, Option.any_some, h]
  · rename_i hnone
    rw [hnone, Option.any_none]

end Lexis.Text

namespace Lexis

open Text

/-- The stretch of source that a text covers when it begins at byte offset `offset`. -/
def Span.cover (offset : Nat) (text : List Char) : Span :=
  ⟨UInt32.ofNat offset, UInt32.ofNat (offset + byteLength text)⟩

theorem Span.toNat_cover {s : String} (hsize : s.utf8ByteSize ≤ Cursor.sourceLimit)
    {before text rest : List Char} (hs : s.toList = before ++ (text ++ rest)) :
    (Span.cover (byteLength before) text).start.toNat = byteLength before ∧
      (Span.cover (byteLength before) text).stop.toNat = byteLength before + byteLength text := by
  have hlength : byteLength before + byteLength text ≤ Cursor.sourceLimit := by
    rw [← byteLength_toList, hs] at hsize
    simp only [byteLength_append] at hsize
    omega
  simp only [Cursor.sourceLimit, UInt32.size] at hlength
  constructor
  · apply UInt32.toNat_ofNat_of_lt'
    simp only [UInt32.size]
    omega
  · apply UInt32.toNat_ofNat_of_lt'
    simp only [UInt32.size]
    omega

theorem Span.eq_cover {span : Span} {offset : Nat} {text : List Char}
    (hstart : span.start.toNat = offset) (hstop : span.stop.toNat = offset + byteLength text) :
    span = Span.cover offset text := by
  rw [Span.cover, ← hstop, ← hstart, UInt32.ofNat_toNat, UInt32.ofNat_toNat]

namespace Cursor

/-- The cursor over `before ++ window ++ rest` whose window holds `window`. -/
def placed (before window rest : List Char) (last : Option Char) : Cursor where
  source := String.ofList (before ++ window ++ rest)
  start := UInt32.ofNat (byteLength before)
  stop := UInt32.ofNat (byteLength (before ++ window))
  window := window
  rest := rest
  last := last

@[simp] theorem placed_rest (before window rest : List Char) (last : Option Char) :
    (placed before window rest last).rest = rest := rfl

@[simp] theorem placed_window (before window rest : List Char) (last : Option Char) :
    (placed before window rest last).window = window := rfl

theorem ofSource_eq_placed {source : String} (h : source.utf8ByteSize ≤ sourceLimit) :
    ofSource source = placed [] [] source.toList none := by
  simp only [ofSource, clip_eq_self h, placed, List.nil_append, byteLength_nil,
    String.ofList_toList]
  rfl

@[simp] theorem peekIs_placed (before window rest : List Char) (last : Option Char)
    (p : Char → Bool) : (placed before window rest last).peekIs p = rest.head?.any p := rfl

theorem advance_placed (before window rest : List Char) (last : Option Char) :
    (placed before window rest last).advance = placed (before ++ window) [] rest last := by
  simp [advance, placed]

theorem byteLength_le_sourceLimit {s : String} (hsize : s.utf8ByteSize ≤ sourceLimit)
    {cs : List Char} (hs : s.toList = cs) : byteLength cs ≤ sourceLimit := by
  rwa [← hs, byteLength_toList]

theorem toNat_ofNat_byteLength {front back : List Char}
    (h : byteLength (front ++ back) ≤ sourceLimit) :
    (UInt32.ofNat (byteLength front)).toNat = byteLength front := by
  apply UInt32.toNat_ofNat_of_lt'
  simp only [byteLength_append, sourceLimit, UInt32.size] at *
  omega

theorem span_placed {before window rest : List Char} (last : Option Char)
    (h : byteLength (before ++ window ++ rest) ≤ sourceLimit) :
    (placed before window rest last).span = .ok (Span.cover (byteLength before) window) := by
  have hstart : (UInt32.ofNat (byteLength before)).toNat = byteLength before :=
    toNat_ofNat_byteLength (by rwa [List.append_assoc] at h)
  have hstop := toNat_ofNat_byteLength h
  have hle : UInt32.ofNat (byteLength before) ≤ UInt32.ofNat (byteLength (before ++ window)) := by
    rw [UInt32.le_iff_toNat_le, hstart, hstop, byteLength_append]
    omega
  rw [span, placed, Span.between, if_pos hle, Span.cover, byteLength_append]

theorem addOffset_byteLength {front taken rest : List Char}
    (h : byteLength (front ++ (taken ++ rest)) ≤ sourceLimit) :
    addOffset (UInt32.ofNat (byteLength front)) (byteLength taken) =
      .ok (UInt32.ofNat (byteLength (front ++ taken))) := by
  rw [addOffset_eq_ok_iff, toNat_ofNat_byteLength h, ← byteLength_append]
  apply toNat_ofNat_byteLength
  rwa [List.append_assoc]

theorem extend_placed {before window taken rest : List Char} (last : Option Char)
    (h : byteLength (before ++ window ++ (taken ++ rest)) ≤ sourceLimit) :
    (placed before window (taken ++ rest) last).extend taken rest =
      .ok (placed before (window ++ taken) rest (taken.getLast?.or last)) := by
  have hstop := addOffset_byteLength h
  simp only [extend, placed, hstop, List.append_assoc]
  rfl

theorem take_placed {before window rest : List Char} {c : Char} (last : Option Char)
    (h : byteLength (before ++ window ++ c :: rest) ≤ sourceLimit) :
    (placed before window (c :: rest) last).take =
      .ok (true, placed before (window ++ [c]) rest (some c)) := by
  have hextend : (placed before window ([c] ++ rest) last).extend [c] rest =
      .ok (placed before (window ++ [c]) rest (some c)) := extend_placed last (by simpa using h)
  simp only [take, placed_rest]
  rw [show c :: rest = [c] ++ rest from rfl, hextend]
  rfl

theorem takeWhile_placed {before window taken rest : List Char} (last : Option Char)
    {p : Char → Bool} (htaken : ∀ c ∈ taken, p c = true) (hrest : rest.head?.any p = false)
    (h : byteLength (before ++ window ++ (taken ++ rest)) ≤ sourceLimit) :
    (placed before window (taken ++ rest) last).takeWhile p =
      .ok (placed before (window ++ taken) rest (taken.getLast?.or last)) := by
  rw [takeWhile, placed_rest, takeWhile_append_of_stop htaken hrest,
    dropWhile_append_of_stop htaken hrest]
  exact extend_placed last h

theorem skipWhile_placed {before rest : List Char} (last : Option Char) (p : Char → Bool)
    (h : byteLength (before ++ rest) ≤ sourceLimit) :
    (placed before [] rest last).skipWhile p =
      .ok (placed (before ++ rest.takeWhile p) [] (rest.dropWhile p) last) := by
  have hsplit : rest.takeWhile p ++ rest.dropWhile p = rest := List.takeWhile_append_dropWhile
  rw [← hsplit] at h
  have hstop := addOffset_byteLength h
  simp only [skipWhile, placed, List.append_nil, if_true, hstop, List.append_assoc, hsplit]
  rfl

end Cursor

end Lexis
