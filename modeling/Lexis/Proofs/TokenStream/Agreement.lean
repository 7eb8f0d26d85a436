import Mathlib.Data.List.Infix
import Lexis.Proofs.Lexer.Calls
import Lexis.Proofs.TokenStream.Elements

namespace Lexis

open Text

namespace TokenStream

/-- The answers to `n` pulls in a row, those behind the end included. -/
def pulls : Nat → TokenStream → Checked (List (Option Outcome))
  | 0, _ => return []
  | n + 1, t => do
      let (element, t) ← t.next
      let later ← t.pulls n
      return element :: later

/-- The first `n` entries of the sequence that lists `items` and is `none` from there on. -/
def entries (items : List Outcome) (n : Nat) : List (Option Outcome) :=
  (List.range n).map fun k => items[k]?

/-- The stream has these elements and is over behind them. -/
inductive Yields : TokenStream → List Outcome → Prop where
  | done {t t' : TokenStream} (hnext : t.next = .ok (none, t')) (hover : t'.finished = true) :
      Yields t []
  | item {t t' : TokenStream} {outcome : Outcome} {items : List Outcome}
      (hnext : t.next = .ok (some outcome, t')) (hitems : Yields t' items) :
      Yields t (outcome :: items)

theorem entries_cons (outcome : Outcome) (items : List Outcome) (n : Nat) :
    entries (outcome :: items) (n + 1) = some outcome :: entries items n := by
  rw [entries, List.range_succ_eq_map, List.map_cons, List.map_map]
  rfl

theorem entries_nil (n : Nat) : entries [] (n + 1) = none :: entries [] n := by
  rw [entries, List.range_succ_eq_map, List.map_cons, List.map_map]
  rfl

theorem eq_of_entries_eq {items items' : List Outcome}
    (h : ∀ n, entries items n = entries items' n) : items = items' := by
  apply List.ext_getElem?
  intro k
  have hk := congrArg (fun entries => entries[k]?) (h (k + 1))
  simpa [entries] using hk

theorem pulls_succ {t t' : TokenStream} {element : Option Outcome}
    (h : t.next = .ok (element, t')) (n : Nat) : t.pulls (n + 1) = do
      let later ← t'.pulls n
      return element :: later := by
  rw [pulls, h]
  rfl

theorem pulls_of_finished {t : TokenStream} (h : t.finished = true) (n : Nat) :
    t.pulls n = .ok (entries [] n) := by
  induction n with
  | zero => rfl
  | succ n ih =>
      have hnext : t.next = .ok (none, t) := by
        rw [next, if_pos h]
        rfl
      rw [pulls_succ hnext, ih, entries_nil]
      rfl

theorem Yields.pulls {t : TokenStream} {items : List Outcome} (h : t.Yields items) (n : Nat) :
    t.pulls n = .ok (entries items n) := by
  induction h generalizing n with
  | done hnext hover =>
      cases n with
      | zero => rfl
      | succ n =>
          rw [pulls_succ hnext, pulls_of_finished hover, entries_nil]
          rfl
  | item hnext _ ih =>
      cases n with
      | zero => rfl
      | succ n =>
          rw [pulls_succ hnext, ih, entries_cons]
          rfl

theorem Yields.take {t : TokenStream} {items : List Outcome} (h : t.Yields items) (n : Nat) :
    t.take n = .ok (items.take n) := by
  induction h generalizing n with
  | done hnext _ => rw [take_of_none hnext, List.take_nil]
  | item hnext _ ih =>
      cases n with
      | zero => rfl
      | succ n =>
          rw [take_succ_of_some hnext, ih, List.take_succ_cons]
          rfl

end TokenStream

/-- What a stream shows of a result that was reached behind the tokens `us`. -/
def shown (us : List Token) : Except LexError (List Token) → List Outcome
  | .ok _ => us.map .ok
  | .error e => us.map .ok ++ [.error e]

/-- The result as `lex` gives it: with the end of file at the end of the text, or only the error. -/
def Closes (stop : Nat) (us : List Token) : Except LexError (List Token) → Prop
  | .ok ts => ts = us ++ [⟨.point (UInt32.ofNat stop), .endOfFile⟩]
  | .error _ => True

theorem Closes.cons {stop : Nat} {t : Token} {us : List Token}
    {result : Except LexError (List Token)} (h : Closes stop us result) :
    Closes stop (t :: us) (result.map (t :: ·)) := by
  cases result with
  | error e => trivial
  | ok ts => exact congrArg (t :: ·) h

theorem shown_cons (t : Token) (us : List Token) (result : Except LexError (List Token)) :
    shown (t :: us) (result.map (t :: ·)) = .ok t :: shown us result := by
  cases result <;> rfl

theorem Segments.yields {offset : Nat} {cs : List Char} {result : Except LexError (List Token)}
    (h : Segments offset cs result) {before : List Char} (hbefore : byteLength before = offset)
    (hsize : byteLength (before ++ cs) ≤ Cursor.sourceLimit) (last : Option Char) :
    ∃ us, (∀ u ∈ us, u.isEndOfFile = false) ∧ Closes (offset + byteLength cs) us result ∧
      (TokenStream.ofLexer (.placed before cs last)).Yields (shown us result) := by
  induction h generalizing before last with
  | done hgap =>
      refine ⟨[], by simp, rfl, .done (TokenStream.next_of_endOfFile
        (Lexer.next_of_blank last hgap hsize) rfl) rfl⟩
  | token hgap hlexeme hrest ih =>
      rename_i offset gap lexeme rest item result
      have hplace : byteLength (before ++ gap) = offset + byteLength gap := by
        rw [byteLength_append, hbefore]
      have hbehind : byteLength (before ++ gap ++ lexeme) =
          offset + byteLength gap + byteLength lexeme := by
        rw [byteLength_append, hplace]
      have hstop : offset + byteLength (gap ++ (lexeme ++ rest)) =
          offset + byteLength gap + byteLength lexeme + byteLength rest := by
        simp only [byteLength_append]
        omega
      have hnext := Lexer.next_of_spells last hgap hlexeme (by simpa using hsize)
      have hitem : Token.isEndOfFile ⟨.cover (offset + byteLength gap) lexeme, item⟩ = false :=
        Token.isEndOfFile_eq_false hlexeme.item_ne_endOfFile
      rw [hplace] at hnext
      obtain ⟨us, hus, hclose, hyields⟩ := ih hbehind (by simpa using hsize) lexeme.getLast?
      refine ⟨⟨.cover (offset + byteLength gap) lexeme, item⟩ :: us, ?_, ?_, ?_⟩
      · simpa [hitem] using hus
      · rw [hstop]
        exact hclose.cons
      · rw [shown_cons]
        exact .item (TokenStream.next_of_token hnext hitem) hyields
  | error hgap hlexeme =>
      rename_i offset gap lexeme rest cause
      have hplace : byteLength (before ++ gap) = offset + byteLength gap := by
        rw [byteLength_append, hbefore]
      have hnext := Lexer.next_of_spells last hgap hlexeme (by simpa using hsize)
      rw [hplace] at hnext
      exact ⟨[], by simp, trivial, .item (TokenStream.next_of_error hnext) (.done rfl rfl)⟩

theorem exists_lex_yields {s : String} (h : s.utf8ByteSize ≤ Cursor.sourceLimit) :
    ∃ us result, lex s = .ok result ∧ (∀ u ∈ us, u.isEndOfFile = false) ∧
      Closes s.utf8ByteSize us result ∧ (TokenStream.ofSource s).Yields (shown us result) := by
  obtain ⟨result, hresult⟩ := exists_segments 0 s.toList
  have hsize : byteLength ([] ++ s.toList) ≤ Cursor.sourceLimit :=
    Cursor.byteLength_le_sourceLimit h rfl
  obtain ⟨us, hus, hclose, hyields⟩ := hresult.yields rfl hsize none
  rw [Nat.zero_add, byteLength_toList] at hclose
  rw [← Lexer.ofSource_eq_placed h] at hyields
  exact ⟨us, result, (lex_eq_ok_iff_segments h).mpr hresult, hus, hclose, hyields⟩

theorem isEndOfFile_of_mem_shown {us : List Token} (hus : ∀ u ∈ us, u.isEndOfFile = false)
    {result : Except LexError (List Token)} :
    ∀ item ∈ shown us result, item.isEndOfFile = false := by
  have htokens : ∀ item ∈ shown us (.ok us), item.isEndOfFile = false := by
    intro item hitem
    obtain ⟨u, hu, rfl⟩ := List.mem_map.mp hitem
    exact hus u hu
  cases result with
  | ok ts => exact htokens
  | error e =>
      intro item hitem
      rcases List.mem_append.mp hitem with hitem | hitem
      · exact htokens item hitem
      · obtain rfl := List.mem_singleton.mp hitem
        rfl

theorem exists_ok_of_mem_dropLast_shown {us : List Token}
    {result : Except LexError (List Token)} :
    ∀ item ∈ (shown us result).dropLast, ∃ t, item = .ok t := by
  have htokens : ∀ item ∈ us.map (Except.ok : Token → Outcome), ∃ t, item = .ok t := by
    intro item hitem
    obtain ⟨u, -, rfl⟩ := List.mem_map.mp hitem
    exact ⟨u, rfl⟩
  cases result with
  | ok ts => exact fun item hitem => htokens item (List.mem_of_mem_dropLast hitem)
  | error e =>
      rw [shown, List.dropLast_concat]
      exact htokens

theorem Token.eq_endOfFile {t : Token} {span : Span} (hkind : t.kind = .endOfFile)
    (hspan : t.span = span) : t = ⟨span, .endOfFile⟩ := by
  obtain ⟨_, item⟩ := t
  obtain rfl := hspan
  cases item <;> first | rfl | cases hkind

theorem map_ok_ne_append_error (us vs : List Token) (e : LexError) :
    us.map (Except.ok : Token → Outcome) ≠ vs.map .ok ++ [.error e] := by
  intro h
  have hmem : (Except.error e : Outcome) ∈ us.map (Except.ok : Token → Outcome) := by
    rw [h]
    exact List.mem_append_right _ List.mem_cons_self
  obtain ⟨t, -, ht⟩ := List.mem_map.mp hmem
  contradiction

/-- Eager and lazy reading agree. The stream lists the tokens of `lex` and then says `none` for
good, or lists the tokens in front of an error, the error, and then `none` for good. It does not
show the end of file, so where that stands is said of the eager side alone. -/
theorem lex_iff_pulls (s : String) (h : s.utf8ByteSize ≤ Cursor.sourceLimit) :
    (∃ result, lex s = .ok result) ∧
    (∀ ts, lex s = .ok (.ok ts) ↔
      ∃ us eof, ts = us ++ [eof] ∧ eof.kind = .endOfFile ∧
        eof.span = .point (UInt32.ofNat s.utf8ByteSize) ∧ (∀ u ∈ us, u.kind ≠ .endOfFile) ∧
        ∀ n, (TokenStream.ofSource s).pulls n = .ok (TokenStream.entries (us.map .ok) n)) ∧
    (∀ e, lex s = .ok (.error e) ↔
      ∃ us : List Token, ∀ n, (TokenStream.ofSource s).pulls n =
        .ok (TokenStream.entries (us.map .ok ++ [.error e]) n)) ∧
    ∃ items, (∀ n, (TokenStream.ofSource s).take n = .ok (items.take n)) ∧
      (∀ item ∈ items, item.isEndOfFile = false) ∧
      (∀ item ∈ items.dropLast, ∃ t, item = .ok t) ∧
      (∀ ts, lex s = .ok (.ok ts) → items = ts.dropLast.map .ok) ∧
      ∀ e, lex s = .ok (.error e) → items.getLast? = some (.error e) := by
  obtain ⟨us, result, hlex, hus, hclose, hyields⟩ := exists_lex_yields h
  have hpulls := hyields.pulls
  have hkind : ∀ u ∈ us, u.kind ≠ .endOfFile := by
    intro u hu
    simpa [Token.isEndOfFile] using hus u hu
  -- The stream has one sequence of elements, so any other description of it is the same list.
  have hunique : ∀ items, (∀ n, (TokenStream.ofSource s).pulls n =
      .ok (TokenStream.entries items n)) → shown us result = items := by
    intro items hitems
    apply TokenStream.eq_of_entries_eq
    intro n
    exact Except.ok.inj ((hpulls n).symm.trans (hitems n))
  refine ⟨⟨result, hlex⟩, ?_, ?_, shown us result, hyields.take, isEndOfFile_of_mem_shown hus,
    exists_ok_of_mem_dropLast_shown, ?_, ?_⟩
  · intro ts
    constructor
    · intro hts
      obtain rfl := Except.ok.inj (hlex.symm.trans hts)
      exact ⟨us, _, hclose, rfl, rfl, hkind, hpulls⟩
    · rintro ⟨vs, eof, rfl, heof, hspan, -, hvs⟩
      have hshown := hunique _ hvs
      cases result with
      | error e => exact absurd hshown.symm (map_ok_ne_append_error vs us e)
      | ok ts =>
          obtain rfl : us = vs := List.map_injective_iff.mpr (fun _ _ => Except.ok.inj) hshown
          rw [hlex, show ts = _ from hclose, Token.eq_endOfFile heof hspan]
  · intro e
    constructor
    · intro he
      obtain rfl := Except.ok.inj (hlex.symm.trans he)
      exact ⟨us, hpulls⟩
    · rintro ⟨vs, hvs⟩
      have hshown := hunique _ hvs
      cases result with
      | ok ts => exact absurd hshown (map_ok_ne_append_error us vs e)
      | error e' =>
          obtain ⟨-, he⟩ := List.append_inj' hshown rfl
          cases he
          exact hlex
  · intro ts hts
    obtain rfl := Except.ok.inj (hlex.symm.trans hts)
    rw [show ts = _ from hclose, List.dropLast_concat]
    rfl
  · intro e he
    obtain rfl := Except.ok.inj (hlex.symm.trans he)
    exact List.getLast?_concat

/-- The elements of the stream do not tell where the end of file stands: with a wrong place for it
they are described just as well. -/
theorem pulls_leave_endOfFile_open :
    "".utf8ByteSize ≤ Cursor.sourceLimit ∧
      ¬ (lex "" = .ok (.ok [⟨⟨5, 5⟩, .endOfFile⟩]) ↔
        ∃ us eof, [⟨⟨5, 5⟩, .endOfFile⟩] = us ++ [eof] ∧ eof.kind = .endOfFile ∧
          (∀ u ∈ us, u.kind ≠ .endOfFile) ∧
          ∀ n, (TokenStream.ofSource "").pulls n =
            .ok (TokenStream.entries (us.map .ok) n)) := by
  have hlex : lex "" = .ok (.ok [⟨⟨0, 0⟩, .endOfFile⟩]) := by decide +kernel
  have hnext : (TokenStream.ofSource "").next = .ok (none, ⟨.ofSource "", true⟩) := by decide +kernel
  have hyields : (TokenStream.ofSource "").Yields [] := .done hnext rfl
  refine ⟨by decide, ?_⟩
  intro hiff
  have hwrong := hiff.mpr ⟨[], _, rfl, rfl, by simp, hyields.pulls⟩
  rw [hlex] at hwrong
  contradiction

theorem lex_iff_pulls_open_string :
    "-1 é\"x\ny".utf8ByteSize ≤ Cursor.sourceLimit ∧
      lex "-1 é\"x\ny" = .ok (.error ⟨⟨5, 7⟩, .lineBreak⟩) ∧
      (∃ us : List Token, ∀ n, (TokenStream.ofSource "-1 é\"x\ny").pulls n =
        .ok (TokenStream.entries (us.map .ok ++ [.error ⟨⟨5, 7⟩, .lineBreak⟩]) n)) ∧
      "(\"é\"\n".utf8ByteSize ≤ Cursor.sourceLimit ∧
      ∃ us eof, lex "(\"é\"\n" = .ok (.ok (us ++ [eof])) ∧ eof.kind = .endOfFile ∧
        eof.span = .point 6 ∧ (∀ u ∈ us, u.kind ≠ .endOfFile) ∧
        ∀ n, (TokenStream.ofSource "(\"é\"\n").pulls n =
          .ok (TokenStream.entries (us.map .ok) n) := by
  have htokens : lex "(\"é\"\n" = .ok (.ok [⟨⟨0, 1⟩, .punctuation .leftParen⟩,
      ⟨⟨1, 5⟩, .string "é"⟩, ⟨⟨6, 6⟩, .endOfFile⟩]) := by
    decide +kernel
  have herror : lex "-1 é\"x\ny" = .ok (.error ⟨⟨5, 7⟩, .lineBreak⟩) := by decide +kernel
  have hpulls := ((lex_iff_pulls _ (by decide)).2.2.1 _).mp herror
  obtain ⟨us, eof, hts, hkind, hspan, hus, hall⟩ :=
    ((lex_iff_pulls _ (by decide)).2.1 _).mp htokens
  rw [hts] at htokens
  exact ⟨by decide, herror, hpulls, by decide, us, eof, htokens, hkind, hspan, hus, hall⟩

end Lexis
