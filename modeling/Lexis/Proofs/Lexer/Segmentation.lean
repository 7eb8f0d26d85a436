import Lexis.Proofs.Lexer.Step

/-!
Lexing a whole source as one division of its text. `Segments` derives a result from the text: gaps
of whitespace and lexemes in turn, up to the end or to the first lexeme that is an error. Every text
has such a division, and reading along any division yields its result, so there is only one.
-/

namespace Lexis

open Text

/-- The text that begins at byte `offset` divides into gaps and lexemes with this result. -/
inductive Segments : Nat → List Char → Except LexError (List Token) → Prop where
  | done {offset : Nat} {gap : List Char} (hgap : Blank gap) :
      Segments offset gap (.ok [⟨.cover (offset + byteLength gap) [], .endOfFile⟩])
  | token {offset : Nat} {gap lexeme rest : List Char} {item : Item}
      {result : Except LexError (List Token)} (hgap : Blank gap)
      (hlexeme : Spells lexeme rest.head? (.ok item))
      (hrest : Segments (offset + byteLength gap + byteLength lexeme) rest result) :
      Segments offset (gap ++ (lexeme ++ rest))
        (result.map (⟨.cover (offset + byteLength gap) lexeme, item⟩ :: ·))
  | error {offset : Nat} {gap lexeme rest : List Char} {cause : LexError.Cause}
      (hgap : Blank gap) (hlexeme : Spells lexeme rest.head? (.error cause)) :
      Segments offset (gap ++ (lexeme ++ rest))
        (.error ⟨.cover (offset + byteLength gap) lexeme, cause⟩)

theorem Spells.item_ne_endOfFile {lexeme : List Char} {next : Option Char} {item : Item}
    (h : Spells lexeme next (.ok item)) : item ≠ .endOfFile := by
  rintro rfl
  cases h

theorem Token.isEndOfFile_eq_false {span : Span} {item : Item} (h : item ≠ .endOfFile) :
    Token.isEndOfFile ⟨span, item⟩ = false := by
  cases item with
  | endOfFile => exact absurd rfl h
  | _ => rfl

namespace Lexer

theorem collect_of_error {l l' : Lexer} {e : LexError} (h : l.next = .ok (.error e, l'))
    (done : List Token) : l.collect done = .ok (.error e) := by
  rw [collect]
  split <;> simp_all

theorem collect_of_endOfFile {l l' : Lexer} {t : Token} (h : l.next = .ok (.ok t, l'))
    (ht : t.isEndOfFile = true) (done : List Token) :
    l.collect done = .ok (.ok (done.reverse ++ [t])) := by
  rw [collect]
  split <;> simp_all

theorem collect_of_token {l l' : Lexer} {t : Token} (h : l.next = .ok (.ok t, l'))
    (ht : t.isEndOfFile = false) (done : List Token) :
    l.collect done = l'.collect (t :: done) := by
  rw [collect]
  split <;> simp_all

end Lexer

theorem Segments.collect {offset : Nat} {cs : List Char} {result : Except LexError (List Token)}
    (h : Segments offset cs result) {before : List Char} (hbefore : byteLength before = offset)
    (hsize : byteLength (before ++ cs) ≤ Cursor.sourceLimit) (last : Option Char)
    (done : List Token) :
    (Lexer.placed before cs last).collect done = .ok (result.map (done.reverse ++ ·)) := by
  induction h generalizing before last done with
  | done hgap =>
      rw [Lexer.collect_of_endOfFile (Lexer.next_of_blank last hgap hsize) rfl,
        byteLength_append, hbefore]
      rfl
  | token hgap hlexeme hrest ih =>
      rename_i gap lexeme rest item result
      have hnext := Lexer.next_of_spells last hgap hlexeme (by simpa using hsize)
      have hplace : byteLength (before ++ gap) = byteLength before + byteLength gap := by simp
      rw [Lexer.collect_of_token hnext (Token.isEndOfFile_eq_false hlexeme.item_ne_endOfFile),
        ih (by simp [hbefore, Nat.add_assoc]) (by simpa using hsize), hplace, hbefore]
      cases result with
      | error e => rfl
      | ok ts => simp [Except.map]
  | error hgap hlexeme =>
      have hnext := Lexer.next_of_spells last hgap hlexeme (by simpa using hsize)
      rw [Lexer.collect_of_error hnext, byteLength_append, hbefore]
      rfl

theorem exists_segments (offset : Nat) (cs : List Char) : ∃ result, Segments offset cs result := by
  rcases Lexer.blank_or_exists_spells cs with
    hgap | ⟨gap, lexeme, rest, reading, hcs, hgap, hlexeme⟩
  · exact ⟨_, .done hgap⟩
  · cases reading with
    | error cause =>
        rw [hcs]
        exact ⟨_, .error hgap hlexeme⟩
    | ok item =>
        have hlength : rest.length < cs.length := by
          have := List.length_pos_iff.mpr hlexeme.ne_nil
          simp only [hcs, List.length_append]
          omega
        obtain ⟨result, hrest⟩ :=
          exists_segments (offset + byteLength gap + byteLength lexeme) rest
        rw [hcs]
        exact ⟨_, .token hgap hlexeme hrest⟩
termination_by cs.length
decreasing_by exact hlength

theorem Segments.exists_spells_of_error {offset : Nat} {cs : List Char} {e : LexError}
    (h : Segments offset cs (.error e)) :
    ∃ front lexeme rest, cs = front ++ (lexeme ++ rest) ∧
      e.span = .cover (offset + byteLength front) lexeme ∧
      Spells lexeme rest.head? (.error e.cause) := by
  generalize hresult : Except.error e = result at h
  induction h with
  | done => contradiction
  | token hgap hlexeme hrest ih =>
      rename_i gap lexeme rest item result
      cases result with
      | ok ts => contradiction
      | error e' =>
          cases hresult
          obtain ⟨front, lexeme', rest', hrest, hspan, hspells⟩ := ih rfl
          refine ⟨gap ++ (lexeme ++ front), lexeme', rest', by simp [hrest], ?_, hspells⟩
          rw [hspan]
          simp [Nat.add_assoc]
  | error _ hlexeme =>
      cases hresult
      exact ⟨_, _, _, rfl, rfl, hlexeme⟩

theorem lex_eq_ok_iff_segments {s : String} (h : s.utf8ByteSize ≤ Cursor.sourceLimit)
    {result : Except LexError (List Token)} :
    lex s = .ok result ↔ Segments 0 s.toList result := by
  have hlex {result : Except LexError (List Token)} (hresult : Segments 0 s.toList result) :
      lex s = .ok result := by
    rw [lex, Lexer.ofSource_eq_placed h,
      hresult.collect rfl (by simpa [byteLength_toList] using h)]
    cases result <;> simp [Except.map]
  constructor
  · intro hresult
    obtain ⟨result', hresult'⟩ := exists_segments 0 s.toList
    rw [hlex hresult', Except.ok.injEq] at hresult
    exact hresult ▸ hresult'
  · exact hlex

end Lexis
