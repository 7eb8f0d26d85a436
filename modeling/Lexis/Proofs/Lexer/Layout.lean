import Mathlib.Data.List.Forall2
import Lexis.Proofs.Lexer.MaximalMunch

namespace Lexis

open Text

/-- The text of an item with a gap in front of it. -/
structure Piece where
  gap : String
  text : String
  item : Item

/-- Gaps of whitespace, of which only the first and the final one may be empty. -/
structure Spaced (gaps : List String) (final : String) : Prop where
  blank : ∀ gap ∈ gaps, Blank gap.toList
  between : ∀ gap ∈ gaps.tail, gap ≠ ""
  final_blank : Blank final.toList

instance (cs : List Char) : Decidable (Blank cs) :=
  decidable_of_iff (cs.all isWhitespace = true) List.all_eq_true

instance (gaps : List String) (final : String) : Decidable (Spaced gaps final) :=
  decidable_of_iff ((∀ gap ∈ gaps, Blank gap.toList) ∧ (∀ gap ∈ gaps.tail, gap ≠ "") ∧
      Blank final.toList)
    ⟨fun h => ⟨h.1, h.2.1, h.2.2⟩, fun h => ⟨h.blank, h.between, h.final_blank⟩⟩

namespace Piece

/-- The pieces one behind the other, and a final gap. -/
def join : List Piece → String → String
  | [], final => final
  | p :: ps, final => p.gap ++ p.text ++ join ps final

/-- The items of the pieces at the places of their texts, when the pieces begin at byte `offset`. -/
def tokens : Nat → List Piece → List Token
  | _, [] => []
  | offset, p :: ps =>
      ⟨.cover (offset + p.gap.utf8ByteSize) p.text.toList, p.item⟩ ::
        tokens (offset + p.gap.utf8ByteSize + p.text.utf8ByteSize) ps

/-- Lexing the pieces yields their items, each with the span that cuts out its text, and the end of
file behind them. -/
def ReadsBack (ps : List Piece) (final : String) : Prop :=
  lex (join ps final) = .ok (.ok (tokens 0 ps ++
    [⟨.point (UInt32.ofNat (join ps final).utf8ByteSize), .endOfFile⟩])) ∧
  List.Forall₂ (fun (t : Token) (p : Piece) =>
    slice? (join ps final) t.span.start.toNat t.span.stop.toNat = some p.text) (tokens 0 ps) ps

end Piece

theorem Blank.head?_all {cs : List Char} (h : Blank cs) : cs.head?.all isWhitespace = true := by
  cases cs with
  | nil => rfl
  | cons c cs => exact h c (by simp)

theorem Spaced.tail {gap final : String} {gaps : List String} (h : Spaced (gap :: gaps) final) :
    Spaced gaps final where
  blank := fun gap' hgap' => h.blank gap' (List.mem_cons_of_mem gap hgap')
  between := fun gap' hgap' => h.between gap' (List.mem_of_mem_tail hgap')
  final_blank := h.final_blank

namespace Piece

variable {ps : List Piece} {final : String}

theorem join_eq_zipWith (ps : List Piece) (final : String) :
    join ps final =
      String.join (List.zipWith (· ++ ·) (ps.map gap) (ps.map text)) ++ final := by
  induction ps with
  | nil => simp [join]
  | cons p ps ih => simp [join, ih, String.append_assoc]

theorem head?_join {p : Piece} (h : Spaced ((p :: ps).map gap) final) :
    (join ps final).toList.head?.all isWhitespace = true := by
  cases ps with
  | nil => exact h.final_blank.head?_all
  | cons q ps =>
      have hblank : Blank q.gap.toList := h.blank q.gap (by simp)
      have hne : q.gap.toList ≠ [] := by
        rw [ne_eq, String.toList_eq_nil_iff]
        exact h.between q.gap (by simp)
      rw [join, String.toList_append, String.toList_append, List.append_assoc,
        List.head?_append_of_ne_nil _ hne]
      exact hblank.head?_all

theorem segments_join (offset : Nat) (h : Spaced (ps.map gap) final)
    (hspells : ∀ p ∈ ps, ∃ next, Spells p.text.toList next (.ok p.item)) :
    Segments offset (join ps final).toList (.ok (tokens offset ps ++
      [⟨.cover (offset + (join ps final).utf8ByteSize) [], .endOfFile⟩])) := by
  induction ps generalizing offset with
  | nil =>
      rw [join, ← byteLength_toList]
      exact .done h.final_blank
  | cons p ps ih =>
      obtain ⟨next, hp⟩ := hspells p (by simp)
      have hlexeme := hp.ok_of_isWhitespace (head?_join h)
      have hrest := ih (offset + byteLength p.gap.toList + byteLength p.text.toList) h.tail
        (fun q hq => hspells q (List.mem_cons_of_mem p hq))
      have htoken := Segments.token (h.blank p.gap (by simp)) hlexeme hrest
      simp only [byteLength_toList] at htoken
      simp only [join, String.toList_append, String.utf8ByteSize_append, List.append_assoc,
        ← Nat.add_assoc]
      exact htoken

theorem forall₂_slice? {s : String} (hsize : s.utf8ByteSize ≤ Cursor.sourceLimit)
    {front : List Char} (hs : s.toList = front ++ (join ps final).toList) :
    List.Forall₂ (fun (t : Token) (p : Piece) =>
      slice? s t.span.start.toNat t.span.stop.toNat = some p.text)
      (tokens (byteLength front) ps) ps := by
  induction ps generalizing front with
  | nil => exact .nil
  | cons p ps ih =>
      have hp : s.toList = front ++ p.gap.toList ++ (p.text.toList ++ (join ps final).toList) := by
        rw [hs, join]
        simp
      have hps : s.toList = front ++ p.gap.toList ++ p.text.toList ++ (join ps final).toList := by
        rw [hp, List.append_assoc (front ++ p.gap.toList)]
      have hrest := ih hps
      obtain ⟨hstart, hstop⟩ := Span.toNat_cover hsize hp
      simp only [byteLength_append, byteLength_toList] at hstart hstop hrest
      refine .cons ?_ hrest
      dsimp only
      rw [hstart, hstop]
      have hslice := slice?_of_toList_eq hp
      rw [String.ofList_toList] at hslice
      simpa only [byteLength_append, byteLength_toList] using hslice

theorem readsBack_of_spells (h : Spaced (ps.map gap) final)
    (hspells : ∀ p ∈ ps, ∃ next, Spells p.text.toList next (.ok p.item))
    (hsize : (join ps final).utf8ByteSize ≤ Cursor.sourceLimit) : ReadsBack ps final := by
  refine ⟨?_, forall₂_slice? hsize (List.nil_append _).symm⟩
  have hsegments := segments_join 0 h hspells
  rw [Nat.zero_add] at hsegments
  exact (lex_eq_ok_iff_segments hsize).mpr hsegments

end Piece

theorem Tiles.readsAt {s : String} {a b : Nat} {us : List Token} (h : Tiles s a us b) :
    ∀ t ∈ us, ReadsAt s t.span (.ok t.item) := by
  induction us generalizing a with
  | nil => simp
  | cons u us ih =>
      obtain ⟨-, hu, hus⟩ := h
      intro t ht
      rcases List.mem_cons.mp ht with rfl | ht
      · exact hu
      · exact ih hus t ht

theorem readsAt_of_lex_eq_ok {s : String} (hsize : s.utf8ByteSize ≤ Cursor.sourceLimit)
    {ts : List Token} {eof : Token} (h : lex s = .ok (.ok (ts ++ [eof]))) :
    ∀ t ∈ ts, ReadsAt s t.span (.ok t.item) := by
  rw [lex_eq_ok_iff_segments hsize] at h
  obtain ⟨us, hus, htiles⟩ := h.munchesFrom hsize (List.nil_append _).symm rfl
  obtain ⟨rfl, -⟩ := List.append_inj' hus rfl
  exact htiles.readsAt

theorem exists_pieces {s : String} {ts : List Token} {gaps : List String}
    (hlength : gaps.length = ts.length) (h : ∀ t ∈ ts, ReadsAt s t.span (.ok t.item)) :
    ∃ ps : List Piece, ps.map Piece.gap = gaps ∧ ps.map Piece.item = ts.map Token.item ∧
      ts.map (fun t => slice? s t.span.start.toNat t.span.stop.toNat) =
        ps.map (fun p => some p.text) ∧
      ∀ p ∈ ps, ∃ next, Spells p.text.toList next (.ok p.item) := by
  induction ts generalizing gaps with
  | nil =>
      obtain rfl := List.length_eq_zero_iff.mp hlength
      exact ⟨[], rfl, rfl, rfl, by simp⟩
  | cons t ts ih =>
      cases gaps with
      | nil => contradiction
      | cons gap gaps =>
          obtain ⟨lexeme, rest, hslice, -, hlexeme⟩ := h t (by simp)
          obtain ⟨ps, hgaps, hitems, htexts, hspells⟩ := ih (Nat.succ.inj hlength)
            (fun u hu => h u (List.mem_cons_of_mem t hu))
          refine ⟨⟨gap, lexeme, t.item⟩ :: ps, ?_, ?_, ?_, ?_⟩
          · rw [List.map_cons, hgaps]
          · rw [List.map_cons, hitems, List.map_cons]
          · rw [List.map_cons, hslice, htexts, List.map_cons]
          · intro p hp
            rcases List.mem_cons.mp hp with rfl | hp
            · exact ⟨_, hlexeme⟩
            · exact hspells p hp

/-- The lexemes of a source with any other whitespace around them are the same tokens. -/
theorem lex_respaced (s : String) (hsize : s.utf8ByteSize ≤ Cursor.sourceLimit) (ts : List Token)
    (eof : Token) (hlex : lex s = .ok (.ok (ts ++ [eof]))) (gaps : List String) (final : String)
    (hlength : gaps.length = ts.length) (hspaced : Spaced gaps final) :
    ∃ ps : List Piece, ps.map Piece.gap = gaps ∧ ps.map Piece.item = ts.map Token.item ∧
      ts.map (fun t => slice? s t.span.start.toNat t.span.stop.toNat) =
        ps.map (fun p => some p.text) ∧
      ((Piece.join ps final).utf8ByteSize ≤ Cursor.sourceLimit → Piece.ReadsBack ps final) := by
  obtain ⟨ps, hgaps, hitems, htexts, hspells⟩ :=
    exists_pieces hlength (readsAt_of_lex_eq_ok hsize hlex)
  refine ⟨ps, hgaps, hitems, htexts, ?_⟩
  apply Piece.readsBack_of_spells _ hspells
  rw [hgaps]
  exact hspaced

theorem lex_respaced_touching_tokens :
    ∃ ts eof, lex "12ab-x==1-2" = .ok (.ok (ts ++ [eof])) ∧
      Spaced ["", "\n", " ", "\t", "  ", "\r\n", "\u3000", " "] "\n" ∧
      ∃ ps : List Piece,
        ps.map Piece.gap = ["", "\n", " ", "\t", "  ", "\r\n", "\u3000", " "] ∧
        ps.map Piece.item = ts.map Token.item ∧
        ts.map (fun t => slice? "12ab-x==1-2" t.span.start.toNat t.span.stop.toNat) =
          ps.map (fun p => some p.text) ∧
        Piece.join ps "\n" = "12\nab -\tx  =\r\n=\u30001 -2\n" ∧ Piece.ReadsBack ps "\n" := by
  have hlex : lex "12ab-x==1-2" = .ok (.ok ([⟨⟨0, 2⟩, .integer 12⟩, ⟨⟨2, 4⟩, .identifier "ab"⟩,
      ⟨⟨4, 5⟩, .unknown⟩, ⟨⟨5, 6⟩, .identifier "x"⟩, ⟨⟨6, 7⟩, .punctuation .assign⟩,
      ⟨⟨7, 8⟩, .punctuation .assign⟩, ⟨⟨8, 9⟩, .integer 1⟩, ⟨⟨9, 11⟩, .integer (-2)⟩] ++
      [⟨⟨11, 11⟩, .endOfFile⟩])) := by
    decide +kernel
  have hspaced : Spaced ["", "\n", " ", "\t", "  ", "\r\n", "\u3000", " "] "\n" := by
    decide
  obtain ⟨ps, hgaps, hitems, htexts, hreads⟩ :=
    lex_respaced _ (by decide) _ _ hlex _ _ rfl hspaced
  have hcuts : ps.map Piece.text = ["12", "ab", "-", "x", "=", "=", "1", "-2"] := by
    apply (List.map_inj_right fun _ _ => Option.some.inj).mp
    rw [List.map_map]
    refine htexts.symm.trans ?_
    decide
  have hjoin : Piece.join ps "\n" = "12\nab -\tx  =\r\n=\u30001 -2\n" := by
    rw [Piece.join_eq_zipWith, hgaps, hcuts]
    decide
  refine ⟨_, _, hlex, hspaced, ps, hgaps, hitems, htexts, hjoin, ?_⟩
  apply hreads
  rw [hjoin]
  decide

end Lexis
