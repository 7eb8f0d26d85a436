import Mathlib.Control.Monad.Basic
import Mathlib.Logic.ExistsUnique
import Lexis.Proofs.Lexer.Segmentation
import Lexis.Proofs.Text.Cut

/-!
What lexing a source means, said about the source and the spans alone: tokens in order with only
whitespace around them, each a lexeme where it stands, up to the end or to the first error. Exactly
one result is of this kind, and it is the one that `lex` computes.
-/

namespace Lexis

open Text

/-- Between the two offsets stands whitespace only. -/
def BlankBetween (s : String) (a b : Nat) : Prop :=
  ∃ gap, slice? s a b = some gap ∧ Blank gap.toList

/-- The text at the span is a lexeme that reads so in front of the character behind it. -/
def ReadsAt (s : String) (span : Span) (reading : Except LexError.Cause Item) : Prop :=
  ∃ lexeme rest, slice? s span.start.toNat span.stop.toNat = some lexeme ∧
    slice? s span.stop.toNat s.utf8ByteSize = some rest ∧
    Spells lexeme.toList rest.toList.head? reading

/-- From offset `a` to offset `b` stand these tokens, with whitespace before, between and behind. -/
def Tiles (s : String) : Nat → List Token → Nat → Prop
  | a, [], b => BlankBetween s a b
  | a, t :: ts, b =>
      BlankBetween s a t.span.start.toNat ∧ ReadsAt s t.span (.ok t.item) ∧
        Tiles s t.span.stop.toNat ts b

/-- The result that belongs to the text from offset `a` on. -/
def MunchesFrom (s : String) (a : Nat) : Except LexError (List Token) → Prop
  | .ok ts => ∃ us, ts = us ++ [⟨.point (UInt32.ofNat s.utf8ByteSize), .endOfFile⟩] ∧
      Tiles s a us s.utf8ByteSize
  | .error e => ∃ us, Tiles s a us e.span.start.toNat ∧ ReadsAt s e.span (.error e.cause)

/-- The result that belongs to the source. -/
def MaximalMunch (s : String) (result : Except LexError (List Token)) : Prop :=
  MunchesFrom s 0 result

theorem blankBetween_of_toList {s : String} {before gap rest : List Char}
    (hs : s.toList = before ++ (gap ++ rest)) (hgap : Blank gap) :
    BlankBetween s (byteLength before) (byteLength before + byteLength gap) :=
  ⟨String.ofList gap, slice?_of_toList_eq hs, by simpa using hgap⟩

theorem readsAt_of_toList {s : String} {before lexeme rest : List Char}
    {reading : Except LexError.Cause Item} (hs : s.toList = before ++ (lexeme ++ rest))
    (hsize : s.utf8ByteSize ≤ Cursor.sourceLimit) (hlexeme : Spells lexeme rest.head? reading) :
    ReadsAt s (.cover (byteLength before) lexeme) reading := by
  obtain ⟨hstart, hstop⟩ := Span.toNat_cover hsize hs
  have hback : s.toList = (before ++ lexeme) ++ (rest ++ []) := by simpa using hs
  have hlength : s.utf8ByteSize = byteLength (before ++ lexeme) + byteLength rest := by
    rw [← byteLength_toList, hback, List.append_nil, byteLength_append]
  refine ⟨String.ofList lexeme, String.ofList rest, ?_, ?_, by simpa using hlexeme⟩
  · rw [hstart, hstop]
    exact slice?_of_toList_eq hs
  · rw [hstop, hlength, ← byteLength_append]
    exact slice?_of_toList_eq hback

theorem exists_of_readsAt {s : String} {before cs : List Char} {span : Span}
    {reading : Except LexError.Cause Item} (hs : s.toList = before ++ cs)
    (hstart : span.start.toNat = byteLength before) (h : ReadsAt s span reading) :
    ∃ lexeme rest, cs = lexeme ++ rest ∧ span = .cover (byteLength before) lexeme ∧
      span.stop.toNat = byteLength (before ++ lexeme) ∧ Spells lexeme rest.head? reading := by
  obtain ⟨lexeme, rest, hslice, hrest, hlexeme⟩ := h
  rw [hstart] at hslice
  obtain ⟨back, rfl, hstop⟩ := exists_of_slice?_eq_some hs hslice
  have hs' : s.toList = before ++ lexeme.toList ++ back := by simpa using hs
  rw [hstop] at hrest
  obtain ⟨after, rfl, hend⟩ := exists_of_slice?_eq_some hs' hrest
  have hafter : after = [] := by
    rw [← byteLength_toList, hs'] at hend
    apply byteLength_eq_zero.mp
    simp only [byteLength_append] at hend
    omega
  refine ⟨lexeme.toList, rest.toList ++ after, rfl, ?_, hstop, by simpa [hafter] using hlexeme⟩
  exact Span.eq_cover hstart (by rw [hstop, byteLength_append])

theorem MunchesFrom.cons {s : String} {a : Nat} {t : Token}
    {result : Except LexError (List Token)} (hgap : BlankBetween s a t.span.start.toNat)
    (ht : ReadsAt s t.span (.ok t.item)) (h : MunchesFrom s t.span.stop.toNat result) :
    MunchesFrom s a (result.map (t :: ·)) := by
  cases result with
  | ok ts =>
      obtain ⟨us, rfl, hus⟩ := h
      exact ⟨t :: us, rfl, hgap, ht, hus⟩
  | error e =>
      obtain ⟨us, hus, he⟩ := h
      exact ⟨t :: us, ⟨hgap, ht, hus⟩, he⟩

theorem readsAt_behind_gap {s : String} (hsize : s.utf8ByteSize ≤ Cursor.sourceLimit)
    {before gap lexeme rest : List Char} {reading : Except LexError.Cause Item}
    (hs : s.toList = before ++ (gap ++ (lexeme ++ rest))) (hgap : Blank gap)
    (hlexeme : Spells lexeme rest.head? reading) {span : Span}
    (hspan : span = .cover (byteLength before + byteLength gap) lexeme) :
    BlankBetween s (byteLength before) span.start.toNat ∧ ReadsAt s span reading ∧
      span.stop.toNat = byteLength (before ++ gap ++ lexeme) := by
  have hs' : s.toList = before ++ gap ++ (lexeme ++ rest) := by simpa using hs
  obtain ⟨hstart, hstop⟩ := Span.toNat_cover hsize hs'
  rw [← byteLength_append] at hspan
  subst hspan
  refine ⟨?_, readsAt_of_toList hs' hsize hlexeme, ?_⟩
  · rw [hstart, byteLength_append]
    exact blankBetween_of_toList hs hgap
  · rw [hstop, ← byteLength_append]

theorem Segments.munchesFrom {s : String} (hsize : s.utf8ByteSize ≤ Cursor.sourceLimit)
    {offset : Nat} {cs : List Char} {result : Except LexError (List Token)}
    (h : Segments offset cs result) {before : List Char} (hs : s.toList = before ++ cs)
    (hbefore : byteLength before = offset) : MunchesFrom s offset result := by
  induction h generalizing before with
  | done hgap =>
      rename_i gap
      subst hbefore
      have hs' : s.toList = before ++ (gap ++ []) := by simpa using hs
      have hlength : s.utf8ByteSize = byteLength before + byteLength gap := by
        rw [← byteLength_toList, hs, byteLength_append]
      refine ⟨[], ?_, ?_⟩
      · rw [hlength]
        rfl
      · rw [hlength]
        exact blankBetween_of_toList hs' hgap
  | token hgap hlexeme hrest ih =>
      rename_i gap lexeme rest item result
      subst hbefore
      obtain ⟨hblank, hreads, hstop⟩ := readsAt_behind_gap hsize hs hgap hlexeme rfl
      have hs' : s.toList = before ++ gap ++ lexeme ++ rest := by simpa using hs
      have htail := ih hs' (by simp [Nat.add_assoc])
      apply MunchesFrom.cons hblank hreads
      rw [hstop, byteLength_append, byteLength_append]
      exact htail
  | error hgap hlexeme =>
      subst hbefore
      obtain ⟨hblank, hreads, -⟩ := readsAt_behind_gap hsize hs hgap hlexeme rfl
      exact ⟨[], hblank, hreads⟩

/-- Tokens that stand in order up to offset `b` begin a division of the text, however the rest is
divided behind the last gap. -/
theorem Tiles.segments {s : String} {us : List Token} {b : Nat}
    {r : Except LexError (List Token)}
    (hfinal : ∀ front gap rest, s.toList = front ++ (gap ++ rest) → Blank gap →
      b = byteLength (front ++ gap) → Segments (byteLength front) (gap ++ rest) r)
    {before cs : List Char} (hs : s.toList = before ++ cs)
    (h : Tiles s (byteLength before) us b) :
    Segments (byteLength before) cs (r.map (us ++ ·)) := by
  induction us generalizing before cs with
  | nil =>
      obtain ⟨gap, hslice, hgap⟩ := h
      obtain ⟨rest, rfl, hb⟩ := exists_of_slice?_eq_some hs hslice
      have := hfinal before gap.toList rest hs hgap hb
      cases r <;> exact this
  | cons t us ih =>
      obtain ⟨⟨gap, hslice, hgap⟩, hreads, hus⟩ := h
      obtain ⟨cs, rfl, hstart⟩ := exists_of_slice?_eq_some hs hslice
      have hs' : s.toList = before ++ gap.toList ++ cs := by simpa using hs
      obtain ⟨lexeme, rest, rfl, hspan, hstop, hlexeme⟩ := exists_of_readsAt hs' hstart hreads
      rw [hstop] at hus
      have hs'' : s.toList = before ++ gap.toList ++ lexeme ++ rest := by simpa using hs
      have hrest := ih hs'' hus
      simp only [byteLength_append] at hrest
      have htoken := Segments.token hgap hlexeme hrest
      rw [← byteLength_append, ← hspan] at htoken
      cases r <;> exact htoken

theorem segments_of_munchesFrom {s : String} {before cs : List Char}
    {result : Except LexError (List Token)} (hs : s.toList = before ++ cs)
    (h : MunchesFrom s (byteLength before) result) : Segments (byteLength before) cs result := by
  cases result with
  | ok ts =>
      obtain ⟨us, rfl, hus⟩ := h
      refine Tiles.segments ?_ hs hus (r := .ok [_])
      intro front gap rest hfront hgap hend
      have hrest : rest = [] := by
        apply byteLength_eq_zero.mp
        rw [← byteLength_toList, hfront] at hend
        simp only [byteLength_append] at hend
        omega
      subst hrest
      rw [List.append_nil, hend, byteLength_append]
      exact .done hgap
  | error e =>
      obtain ⟨span, cause⟩ := e
      obtain ⟨us, hus, hreads⟩ := h
      refine Tiles.segments ?_ hs hus (r := .error _)
      intro front gap rest hfront hgap hstart
      have hfront' : s.toList = front ++ gap ++ rest := by simpa using hfront
      obtain ⟨lexeme, rest, rfl, hspan, -, hlexeme⟩ := exists_of_readsAt hfront' hstart hreads
      dsimp only at hspan hlexeme
      rw [hspan, byteLength_append]
      exact .error hgap hlexeme

theorem lex_eq_ok_iff_maximalMunch (s : String) (h : s.utf8ByteSize ≤ Cursor.sourceLimit) :
    (∀ result, lex s = .ok result ↔ MaximalMunch s result) ∧ ∃! result, MaximalMunch s result := by
  have hiff : ∀ result, lex s = .ok result ↔ MaximalMunch s result := by
    intro result
    rw [lex_eq_ok_iff_segments h]
    constructor
    · intro hsegments
      exact hsegments.munchesFrom h (List.nil_append _).symm rfl
    · intro hmunch
      exact segments_of_munchesFrom (List.nil_append _).symm hmunch
  refine ⟨hiff, ?_⟩
  obtain ⟨result, hsegments⟩ := exists_segments 0 s.toList
  have hlex := (lex_eq_ok_iff_segments h).mpr hsegments
  refine ⟨result, (hiff result).mp hlex, ?_⟩
  intro result' hmunch
  exact Except.ok.inj (((hiff result').mpr hmunch).symm.trans hlex)

theorem lex_eq_ok_iff_maximalMunch_signs :
    "-1-2 - \"é\"extern_".utf8ByteSize ≤ Cursor.sourceLimit ∧
      MaximalMunch "-1-2 - \"é\"extern_"
        (.ok [⟨⟨0, 2⟩, .integer (-1)⟩, ⟨⟨2, 4⟩, .integer (-2)⟩, ⟨⟨5, 6⟩, .unknown⟩,
          ⟨⟨7, 11⟩, .string "é"⟩, ⟨⟨11, 18⟩, .identifier "extern_"⟩, ⟨⟨18, 18⟩, .endOfFile⟩]) :=
  ⟨by decide, ((lex_eq_ok_iff_maximalMunch _ (by decide)).1 _).mp (by decide +kernel)⟩

end Lexis
