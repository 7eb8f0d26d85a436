import Mathlib.Control.Monad.Basic
import Lexis.Proofs.Lexer.Segmentation

/-!
Lexing at line breaks. No lexeme reaches across a line break and none looks behind it, so a text that
is continued behind a line break is lexed as the two texts by themselves, the second one shifted. A
string that is still open where the first text ends is the only lexeme that changes: the end of the
input becomes the end of the line. A whole text is therefore lexed line by line.
-/

namespace Lexis

open Text

/-- The span `k` bytes further on. -/
def Span.shift (k : Nat) (span : Span) : Span :=
  ⟨UInt32.ofNat (span.start.toNat + k), UInt32.ofNat (span.stop.toNat + k)⟩

/-- The result of a text `k` bytes further on. -/
def shiftResult (k : Nat) : Except LexError (List Token) → Except LexError (List Token)
  | .ok ts => .ok (ts.map fun t => { t with span := t.span.shift k })
  | .error e => .error { e with span := e.span.shift k }

/-- The error where a line break follows in place of the end of the input. -/
def LexError.atLineBreak (e : LexError) : LexError :=
  if e.cause = .endOfInput then { e with cause := .lineBreak } else e

/-- The result of a text that goes on behind a line break: the first error, or all tokens but the
first end of file. -/
def continueResult (first second : Except LexError (List Token)) : Except LexError (List Token) :=
  match first with
  | .ok ts => second.map (ts.dropLast ++ ·)
  | .error e => .error e.atLineBreak

theorem Span.shift_cover (k offset : Nat) (text : List Char) :
    (Span.cover offset text).shift k = Span.cover (offset + k) text := by
  have hword : ∀ n, UInt32.ofNat ((UInt32.ofNat n).toNat + k) = UInt32.ofNat (n + k) := by
    intro n
    rw [← UInt32.toNat_inj]
    simp
  simp only [Span.shift, Span.cover, hword, Span.mk.injEq, true_and]
  congr 1
  omega

theorem Segments.shift {offset : Nat} {cs : List Char} {result : Except LexError (List Token)}
    (h : Segments offset cs result) (k : Nat) : Segments (offset + k) cs (shiftResult k result) := by
  induction h with
  | done hgap =>
      simp only [shiftResult, List.map_cons, List.map_nil, Span.shift_cover]
      rw [Nat.add_right_comm]
      exact .done hgap
  | token hgap hlexeme hrest ih =>
      rename_i offset gap lexeme rest item result
      have hoffset : offset + byteLength gap + byteLength lexeme + k =
          offset + k + byteLength gap + byteLength lexeme := by omega
      rw [hoffset] at ih
      have htoken := Segments.token hgap hlexeme ih
      rw [Nat.add_right_comm offset k, ← Span.shift_cover] at htoken
      cases result <;> exact htoken
  | error hgap hlexeme =>
      simp only [shiftResult, Span.shift_cover]
      rw [Nat.add_right_comm]
      exact .error hgap hlexeme

theorem Blank.append {gap gap' : List Char} (h : Blank gap) (h' : Blank gap') :
    Blank (gap ++ gap') := by
  intro c hc
  rcases List.mem_append.mp hc with hc | hc
  · exact h c hc
  · exact h' c hc

theorem Segments.prepend {offset : Nat} {gap cs : List Char}
    {result : Except LexError (List Token)} (hgap : Blank gap)
    (h : Segments (offset + byteLength gap) cs result) : Segments offset (gap ++ cs) result := by
  have hoffset : ∀ gap' : List Char, offset + byteLength gap + byteLength gap' =
      offset + byteLength (gap ++ gap') := by
    intro gap'
    rw [byteLength_append, Nat.add_assoc]
  cases h with
  | done hgap' =>
      rw [hoffset]
      exact .done (hgap.append hgap')
  | token hgap' hlexeme hrest =>
      rw [← List.append_assoc, hoffset]
      rw [hoffset] at hrest
      exact .token (hgap.append hgap') hlexeme hrest
  | error hgap' hlexeme =>
      rw [← List.append_assoc, hoffset]
      exact .error (hgap.append hgap') hlexeme

theorem Segments.ok_ne_nil {offset : Nat} {cs : List Char} {ts : List Token}
    (h : Segments offset cs (.ok ts)) : ts ≠ [] := by
  generalize hresult : Except.ok ts = result at h
  cases h with
  | done => exact fun hnil => by simp [hnil] at hresult
  | token hgap hlexeme hrest =>
      rename_i result
      rintro rfl
      cases result <;> cases hresult
  | error => cases hresult

theorem Spells.error_of_isLineBreak {lexeme : List Char} {cause : LexError.Cause} {c : Char}
    (h : Spells lexeme none (.error cause)) (hc : isLineBreak c = true) (span : Span) :
    Spells lexeme (some c) (.error (LexError.atLineBreak ⟨span, cause⟩).cause) := by
  have hdigit : (some c).any Char.isDigit = false := isDigit_eq_false_of_isLineBreak hc
  cases h with
  | integerRange hdigits _ hrange => exact .integerRange hdigits hdigit hrange
  | endOfInput hbody => exact .lineBreak hbody hc

theorem LexError.atLineBreak_of_spells {lexeme : List Char} {cause : LexError.Cause} {c : Char}
    (h : Spells lexeme (some c) (.error cause)) (span : Span) :
    LexError.atLineBreak ⟨span, cause⟩ = ⟨span, cause⟩ := by
  cases h <;> rfl

theorem continueResult_map {t : Token} {offset : Nat} {cs : List Char}
    {first : Except LexError (List Token)} (h : Segments offset cs first)
    (second : Except LexError (List Token)) :
    continueResult (first.map (t :: ·)) second =
      (continueResult first second).map (t :: ·) := by
  cases first with
  | error e => rfl
  | ok ts =>
      have hlast : (t :: ts).dropLast = t :: ts.dropLast := List.dropLast_cons_of_ne_nil h.ok_ne_nil
      cases second with
      | error e => rfl
      | ok us => simp [continueResult, Except.map, hlast]

theorem Segments.append_lineBreak {offset : Nat} {front back : List Char} {c : Char}
    {first second : Except LexError (List Token)} (hc : isLineBreak c = true)
    (h : Segments offset front first)
    (hback : Segments (offset + byteLength front + 1) back second) :
    Segments offset (front ++ c :: back) (continueResult first second) := by
  have hsize : c.utf8Size = 1 := by
    rcases isLineBreak_iff.mp hc with rfl | rfl <;> decide
  induction h with
  | done hgap =>
      rename_i offset gap
      have hbreak : Blank (gap ++ [c]) :=
        hgap.append (by simpa [Blank] using isWhitespace_of_isLineBreak hc)
      have hback' : Segments (offset + byteLength (gap ++ [c])) back second := by
        simpa [hsize, Nat.add_assoc] using hback
      have hwhole := hback'.prepend hbreak
      rw [List.append_assoc, List.singleton_append] at hwhole
      cases second <;> exact hwhole
  | token hgap hlexeme hrest ih =>
      rename_i offset gap lexeme rest item result
      have hback' : Segments (offset + byteLength gap + byteLength lexeme + byteLength rest + 1)
          back second := by
        simpa [Nat.add_assoc] using hback
      have hlexeme' : Spells lexeme (rest ++ c :: back).head? (.ok item) := by
        cases rest with
        | nil => exact hlexeme.ok_of_isWhitespace (isWhitespace_of_isLineBreak hc)
        | cons d rest => exact hlexeme
      rw [continueResult_map hrest, List.append_assoc, List.append_assoc]
      exact .token hgap hlexeme' (ih hback')
  | error hgap hlexeme =>
      rename_i offset gap lexeme rest cause
      have hspan : ∀ e : LexError, e.atLineBreak = ⟨e.span, e.atLineBreak.cause⟩ := by
        intro e
        unfold LexError.atLineBreak
        split <;> rfl
      rw [List.append_assoc, List.append_assoc, continueResult, hspan]
      cases rest with
      | nil => exact .error hgap (hlexeme.error_of_isLineBreak hc _)
      | cons d rest =>
          rw [LexError.atLineBreak_of_spells hlexeme]
          exact .error hgap hlexeme

/-- Lines and the line breaks between them as one text. -/
def joinLines (first : String) : List (Char × String) → String
  | [] => first
  | (c, line) :: lines => first ++ String.singleton c ++ joinLines line lines

/-- The result of a text, from the size and the result of each of its lines. -/
def continueLines (first : Nat × Except LexError (List Token)) :
    List (Nat × Except LexError (List Token)) → Except LexError (List Token)
  | [] => first.2
  | line :: lines => continueResult first.2 (shiftResult (first.1 + 1) (continueLines line lines))

theorem lex_append_lineBreak {a b : String} {c : Char} (hc : isLineBreak c = true)
    (h : (a ++ String.singleton c ++ b).utf8ByteSize ≤ Cursor.sourceLimit)
    {first second : Except LexError (List Token)} (ha : lex a = .ok first)
    (hb : lex b = .ok second) :
    lex (a ++ String.singleton c ++ b) =
      .ok (continueResult first (shiftResult (a.utf8ByteSize + 1) second)) := by
  have hsize := h
  simp only [String.utf8ByteSize_append] at hsize
  rw [lex_eq_ok_iff_segments (by omega)] at ha hb
  rw [lex_eq_ok_iff_segments h, String.toList_append, String.toList_append,
    String.toList_singleton, List.append_assoc, List.singleton_append]
  apply Segments.append_lineBreak hc ha
  have hshift := hb.shift (a.utf8ByteSize + 1)
  rw [byteLength_toList]
  simpa [Nat.add_assoc] using hshift

theorem lex_joinLines {results : String → Except LexError (List Token)} {first : String}
    {lines : List (Char × String)} (hbreaks : ∀ p ∈ lines, isLineBreak p.1 = true)
    (h : (joinLines first lines).utf8ByteSize ≤ Cursor.sourceLimit)
    (hlex : ∀ line ∈ first :: lines.map Prod.snd, lex line = .ok (results line)) :
    lex (joinLines first lines) =
      .ok (continueLines (first.utf8ByteSize, results first)
        (lines.map fun p => (p.2.utf8ByteSize, results p.2))) := by
  induction lines generalizing first with
  | nil => exact hlex first (by simp)
  | cons p lines ih =>
      obtain ⟨c, line⟩ := p
      have hsize : (joinLines line lines).utf8ByteSize ≤ Cursor.sourceLimit := by
        simp only [joinLines, String.utf8ByteSize_append] at h
        omega
      have hlines := ih (fun p hp => hbreaks p (by simp [hp])) hsize
        (fun line' hline => hlex line' (by
          rcases List.mem_cons.mp hline with rfl | hline
          · simp
          · exact List.mem_cons_of_mem _ (List.mem_cons_of_mem _ hline)))
      exact lex_append_lineBreak (hbreaks (c, line) (by simp)) h (hlex first (by simp)) hlines

theorem exists_lex_eq_ok {s : String} (h : s.utf8ByteSize ≤ Cursor.sourceLimit) :
    ∃ result, lex s = .ok result := by
  obtain ⟨result, hresult⟩ := exists_segments 0 s.toList
  exact ⟨result, (lex_eq_ok_iff_segments h).mpr hresult⟩

theorem lex_at_lineBreaks :
    (∀ (a b : String) (c : Char), c = '\n' ∨ c = '\r' →
      (a ++ String.singleton c ++ b).utf8ByteSize ≤ Cursor.sourceLimit →
        (∀ ta eof, lex a = .ok (.ok (ta ++ [eof])) →
          ∃ rb, lex b = .ok rb ∧ lex (a ++ String.singleton c ++ b) =
            .ok ((shiftResult (a.utf8ByteSize + 1) rb).map (ta ++ ·))) ∧
        (∀ span, lex a = .ok (.error ⟨span, .endOfInput⟩) →
          lex (a ++ String.singleton c ++ b) = .ok (.error ⟨span, .lineBreak⟩)) ∧
        (∀ e, lex a = .ok (.error e) → e.cause ≠ .endOfInput →
          lex (a ++ String.singleton c ++ b) = .ok (.error e))) ∧
      ∀ (results : String → Except LexError (List Token)) (first : String)
        (lines : List (Char × String)), (∀ p ∈ lines, p.1 = '\n' ∨ p.1 = '\r') →
        (joinLines first lines).utf8ByteSize ≤ Cursor.sourceLimit →
        (∀ line ∈ first :: lines.map Prod.snd, lex line = .ok (results line)) →
          lex (joinLines first lines) =
            .ok (continueLines (first.utf8ByteSize, results first)
              (lines.map fun p => (p.2.utf8ByteSize, results p.2))) := by
  refine ⟨?_, ?_⟩
  · intro a b c hc h
    have hbreak : isLineBreak c = true := isLineBreak_iff.mpr hc.symm
    have hsize := h
    simp only [String.utf8ByteSize_append] at hsize
    have hsizeb : b.utf8ByteSize ≤ Cursor.sourceLimit := by omega
    obtain ⟨rb, hb⟩ := exists_lex_eq_ok hsizeb
    refine ⟨?_, ?_, ?_⟩
    · intro ta eof ha
      refine ⟨rb, hb, ?_⟩
      rw [lex_append_lineBreak hbreak h ha hb, continueResult, List.dropLast_concat]
    · intro span ha
      rw [lex_append_lineBreak hbreak h ha hb]
      rfl
    · intro e ha hcause
      rw [lex_append_lineBreak hbreak h ha hb, continueResult, LexError.atLineBreak,
        if_neg hcause]
  · intro results first lines hbreaks h hlex
    exact lex_joinLines (fun p hp => isLineBreak_iff.mpr (hbreaks p hp).symm) h hlex

theorem lex_at_lineBreaks_open_string :
    (∃ rb, lex "2" = .ok rb ∧ lex ("é" ++ String.singleton '\n' ++ "2") =
        .ok ((shiftResult 3 rb).map ([⟨⟨0, 2⟩, .identifier "é"⟩] ++ ·))) ∧
      lex ("1 \"x" ++ String.singleton '\r' ++ "2\"") = .ok (.error ⟨⟨2, 4⟩, .lineBreak⟩) :=
  ⟨(lex_at_lineBreaks.1 "é" "2" '\n' (.inl rfl) (by decide)).1 _ ⟨⟨2, 2⟩, .endOfFile⟩ (by decide +kernel),
    (lex_at_lineBreaks.1 "1 \"x" "2\"" '\r' (.inr rfl) (by decide)).2.1 _ (by decide +kernel)⟩

end Lexis
