import Mathlib.Data.List.Basic
import Lexis.Proofs.Lexer.Calls
import Lexis.Proofs.TokenStream.Elements

namespace Lexis.TokenStream

open Text

theorem take_one {before gap lexeme rest : List Char} (last : Option Char)
    {reading : Except LexError.Cause Item} (hgap : Blank gap)
    (hlexeme : Spells lexeme rest.head? reading)
    (h : byteLength (before ++ gap ++ lexeme ++ rest) ≤ Cursor.sourceLimit) :
    (ofLexer (.placed before (gap ++ (lexeme ++ rest)) last)).take 1 =
      .ok [.ofReading (.cover (byteLength (before ++ gap)) lexeme) reading] := by
  cases reading with
  | error cause => exact take_succ_of_error last hgap hlexeme h 0
  | ok item => exact take_succ_of_token last hgap hlexeme h 0

theorem exists_spells_of_take {k : Nat} {before cs : List Char} (last : Option Char)
    (hsize : byteLength (before ++ cs) ≤ Cursor.sourceLimit) {items : List Outcome}
    {item : Outcome} (hitems : (ofLexer (.placed before cs last)).take k = .ok items)
    (hitem : item ∈ items) :
    ∃ gap lexeme rest reading, cs = gap ++ (lexeme ++ rest) ∧ Blank gap ∧
      Spells lexeme rest.head? reading := by
  rcases Lexer.blank_or_exists_spells cs with hgap | hspells
  · rw [take_of_blank last hgap hsize, Except.ok.injEq] at hitems
    subst hitems
    contradiction
  · exact hspells

/-- The elements up to the one at `k` are read from a front part of the text ahead, and from any
text that begins with it and goes on with the same character. -/
theorem exists_front_of_take {k : Nat} {before cs : List Char} (last : Option Char)
    (hsize : byteLength (before ++ cs) ≤ Cursor.sourceLimit) {items : List Outcome}
    {item : Outcome} (hitems : (ofLexer (.placed before cs last)).take (k + 1) = .ok items)
    (hitem : items[k]? = some item) :
    ∃ front back, cs = front ++ back ∧ front ≠ [] ∧
      item.span.stop = UInt32.ofNat (byteLength (before ++ front)) ∧
      ∀ back' last', back'.head? = back.head? →
        byteLength (before ++ (front ++ back')) ≤ Cursor.sourceLimit →
        (ofLexer (.placed before (front ++ back') last')).take (k + 1) = .ok items := by
  induction k generalizing before cs last items with
  | zero =>
      obtain ⟨gap, lexeme, rest, reading, rfl, hgap, hlexeme⟩ :=
        exists_spells_of_take last hsize hitems (List.mem_of_getElem? hitem)
      rw [take_one last hgap hlexeme (by simpa using hsize)] at hitems
      cases hitems
      obtain rfl : Outcome.ofReading (.cover (byteLength (before ++ gap)) lexeme) reading = item :=
        Option.some.inj hitem
      refine ⟨gap ++ lexeme, rest, by simp, by simp [hlexeme.ne_nil], ?_, ?_⟩
      · rw [Outcome.span_ofReading, Span.cover, ← byteLength_append, List.append_assoc]
      · intro back' last' hnext hsize'
        rw [List.append_assoc]
        exact take_one last' hgap (hnext ▸ hlexeme) (by simpa using hsize')
  | succ k ih =>
      obtain ⟨gap, lexeme, rest, reading, rfl, hgap, hlexeme⟩ :=
        exists_spells_of_take last hsize hitems (List.mem_of_getElem? hitem)
      cases reading with
      | error cause =>
          rw [take_succ_of_error last hgap hlexeme (by simpa using hsize)] at hitems
          cases hitems
          contradiction
      | ok token =>
          rw [take_succ_of_token last hgap hlexeme (by simpa using hsize)] at hitems
          obtain ⟨later, hlater, hitems⟩ := Checked.bind_eq_ok_iff.mp hitems
          cases hitems
          obtain ⟨front, back, rfl, hfront, hstop, hsame⟩ :=
            ih lexeme.getLast? (by simpa using hsize) hlater hitem
          refine ⟨gap ++ (lexeme ++ front), back, by simp, by simp [hfront], ?_, ?_⟩
          · rw [hstop]
            simp only [List.append_assoc]
          · intro back' last' hnext hsize'
            -- The lexeme sees no more than the first character of `front`, which stays.
            have hhead : (front ++ back').head? = (front ++ back).head? := by
              rw [List.head?_append_of_ne_nil front hfront,
                List.head?_append_of_ne_nil front hfront]
            have hsize₁ : byteLength (before ++ gap ++ lexeme ++ (front ++ back')) ≤
                Cursor.sourceLimit := by simpa using hsize'
            rw [List.append_assoc, List.append_assoc,
              take_succ_of_token last' hgap (hhead ▸ hlexeme) hsize₁,
              hsame back' _ hnext hsize₁]
            rfl

/-- A source that agrees with `s` up to the end of an element and in the one character behind it
has the same elements up to that one. -/
theorem take_eq_of_same_lookahead (s s' : String) (hsize : s.utf8ByteSize ≤ Cursor.sourceLimit)
    (hsize' : s'.utf8ByteSize ≤ Cursor.sourceLimit) (k : Nat) (items : List Outcome)
    (item : Outcome) (hitems : (ofSource s).take (k + 1) = .ok items)
    (hitem : items[k]? = some item)
    (hbytes : s.toByteArray.extract 0 item.span.stop.toNat =
      s'.toByteArray.extract 0 item.span.stop.toNat)
    (hnext : charAt? s item.span.stop.toNat = charAt? s' item.span.stop.toNat) :
    (ofSource s').take (k + 1) = .ok items := by
  rw [ofSource, Lexer.ofSource_eq_placed hsize] at hitems
  rw [ofSource, Lexer.ofSource_eq_placed hsize']
  have hlength : byteLength ([] ++ s.toList) ≤ Cursor.sourceLimit :=
    Cursor.byteLength_le_sourceLimit hsize rfl
  obtain ⟨front, back, hs, -, hstop, hsame⟩ := exists_front_of_take none hlength hitems hitem
  have hend : item.span.stop.toNat = byteLength front := by
    rw [hstop, List.nil_append]
    exact Cursor.toNat_ofNat_byteLength (Cursor.byteLength_le_sourceLimit hsize hs)
  rw [hend] at hbytes hnext
  obtain ⟨back', hs'⟩ := exists_toList_eq_of_extract_eq hs hbytes
  rw [charAt?_of_toList_eq hs, charAt?_of_toList_eq hs'] at hnext
  rw [hs']
  exact hsame back' none hnext.symm (Cursor.byteLength_le_sourceLimit hsize' hs')

theorem take_eq_of_same_lookahead_open_string :
    ∃ items item, (ofSource "-7é\"x\n'").take 3 = .ok items ∧ items[2]? = some item ∧
      item = .error ⟨⟨4, 6⟩, .lineBreak⟩ ∧
      (ofSource "-7é\"x\n\"+").take 3 = .ok items := by
  have hitems : (ofSource "-7é\"x\n'").take 3 = .ok [.ok ⟨⟨0, 2⟩, .integer (-7)⟩,
      .ok ⟨⟨2, 4⟩, .identifier "é"⟩, .error ⟨⟨4, 6⟩, .lineBreak⟩] := by
    decide +kernel
  exact ⟨_, _, hitems, rfl, rfl, take_eq_of_same_lookahead _ _ (by decide) (by decide) 2 _ _ hitems
    rfl (by decide) (by decide)⟩

end Lexis.TokenStream
