import Lexis.TokenStream
import Lexis.Proofs.Lexer.Segmentation

namespace Lexis.TokenStream

open Text

theorem next_of_token {l l' : Lexer} {t : Token} (h : l.next = .ok (.ok t, l'))
    (ht : t.isEndOfFile = false) : (ofLexer l).next = .ok (some (.ok t), ofLexer l') := by
  rw [next, ofLexer, if_neg Bool.false_ne_true, h]
  change (if t.isEndOfFile = true then _ else _) = _
  rw [ht, if_neg Bool.false_ne_true]
  rfl

theorem next_of_endOfFile {l l' : Lexer} {t : Token} (h : l.next = .ok (.ok t, l'))
    (ht : t.isEndOfFile = true) : (ofLexer l).next = .ok (none, ⟨l', true⟩) := by
  rw [next, ofLexer, if_neg Bool.false_ne_true, h]
  change (if t.isEndOfFile = true then _ else _) = _
  rw [if_pos ht]
  rfl

theorem next_of_error {l l' : Lexer} {e : LexError} (h : l.next = .ok (.error e, l')) :
    (ofLexer l).next = .ok (some (.error e), ⟨l', true⟩) := by
  rw [next, ofLexer, if_neg Bool.false_ne_true, h]
  rfl

theorem takeOnto_eq (n : Nat) (seen : List Outcome) (s : TokenStream) :
    s.takeOnto n seen = do
      let later ← s.take n
      return seen.reverse ++ later := by
  induction n generalizing seen s with
  | zero =>
      change Except.ok seen.reverse = Except.ok (seen.reverse ++ [])
      rw [List.append_nil]
  | succ n ih =>
      rw [take, takeOnto, takeOnto]
      cases s.next with
      | error fault => rfl
      | ok pulled =>
          obtain ⟨element, s'⟩ := pulled
          cases element with
          | none =>
              change Except.ok seen.reverse = Except.ok (seen.reverse ++ [])
              rw [List.append_nil]
          | some outcome =>
              change s'.takeOnto n (outcome :: seen) = (s'.takeOnto n [outcome] >>= _)
              rw [ih (outcome :: seen) s', ih [outcome] s', List.reverse_cons]
              cases s'.take n with
              | error fault => rfl
              | ok later =>
                  change Except.ok (seen.reverse ++ [outcome] ++ later) =
                    Except.ok (seen.reverse ++ ([outcome] ++ later))
                  rw [List.append_assoc]

theorem take_succ_of_some {s s' : TokenStream} {outcome : Outcome}
    (h : s.next = .ok (some outcome, s')) (n : Nat) :
    s.take (n + 1) = do
      let later ← s'.take n
      return outcome :: later := by
  rw [take, takeOnto, h]
  exact takeOnto_eq n [outcome] s'

theorem take_of_none {s s' : TokenStream} (h : s.next = .ok (none, s')) (n : Nat) :
    s.take n = .ok [] := by
  cases n with
  | zero => rfl
  | succ n =>
      rw [take, takeOnto, h]
      rfl

variable {before gap lexeme rest : List Char} (last : Option Char)

theorem take_of_blank (hgap : Blank gap)
    (h : byteLength (before ++ gap) ≤ Cursor.sourceLimit) (n : Nat) :
    (ofLexer (.placed before gap last)).take n = .ok [] :=
  take_of_none (next_of_endOfFile (Lexer.next_of_blank last hgap h) rfl) n

theorem take_succ_of_token {item : Item} (hgap : Blank gap)
    (hlexeme : Spells lexeme rest.head? (.ok item))
    (h : byteLength (before ++ gap ++ lexeme ++ rest) ≤ Cursor.sourceLimit) (n : Nat) :
    (ofLexer (.placed before (gap ++ (lexeme ++ rest)) last)).take (n + 1) = do
      let later ← (ofLexer (.placed (before ++ gap ++ lexeme) rest lexeme.getLast?)).take n
      return .ok ⟨.cover (byteLength (before ++ gap)) lexeme, item⟩ :: later := by
  apply take_succ_of_some
  exact next_of_token (Lexer.next_of_spells last hgap hlexeme h)
    (Token.isEndOfFile_eq_false hlexeme.item_ne_endOfFile)

theorem take_succ_of_error {cause : LexError.Cause} (hgap : Blank gap)
    (hlexeme : Spells lexeme rest.head? (.error cause))
    (h : byteLength (before ++ gap ++ lexeme ++ rest) ≤ Cursor.sourceLimit) (n : Nat) :
    (ofLexer (.placed before (gap ++ (lexeme ++ rest)) last)).take (n + 1) =
      .ok [.error ⟨.cover (byteLength (before ++ gap)) lexeme, cause⟩] := by
  rw [take_succ_of_some (next_of_error (Lexer.next_of_spells last hgap hlexeme h)),
    take_of_none rfl]
  rfl

end Lexis.TokenStream
