import Lexis.Lexer.Scan
import Lexis.Text.Whitespace

/-!
The lexer. Every call of `next` skips whitespace, reads one lexeme and closes the window behind it,
whether the lexeme is a token or an error; so a caller may go on after an error, and at the end of
the source the answer is the end of file again and again. `lex` collects the tokens of a whole
source up to the first error. Since every lexeme takes at least one character, it comes to an end.
-/

namespace Lexis

open Text

abbrev Outcome := Except LexError Token

/-- A cursor that stands between lexemes. -/
structure Lexer where
  cursor : Cursor
  deriving DecidableEq

namespace Lexer

def ofCursor (c : Cursor) : Lexer :=
  ⟨c.advance⟩

def ofSource (source : String) : Lexer :=
  ofCursor (.ofSource source)

/-- Gives what was read the span of the window and closes the window. -/
def settle (reading : Except LexError.Cause Item) (c : Cursor) : Checked (Outcome × Lexer) := do
  let span ← c.span
  let outcome := match reading with
    | .ok item => .ok ⟨span, item⟩
    | .error cause => .error ⟨span, cause⟩
  return (outcome, ofCursor c)

def next (l : Lexer) : Checked (Outcome × Lexer) := do
  let c ← l.cursor.skipWhile isWhitespace
  match c.peek? with
  | none => settle (.ok .endOfFile) c
  | some first =>
      let (_, c) ← c.take
      let (reading, c) ← Scan.lexeme first c
      settle reading c

theorem settle_rest {reading : Except LexError.Cause Item} {c : Cursor} {o : Outcome} {l : Lexer}
    (h : settle reading c = .ok (o, l)) : l.cursor.rest = c.rest := by
  obtain ⟨span, -, h⟩ := Checked.bind_eq_ok_iff.mp h
  obtain ⟨-, rfl⟩ := Prod.mk.inj (Checked.pure_eq_ok_iff.mp h)
  rfl

theorem settle_endOfFile {c : Cursor} {t : Token} {l : Lexer}
    (h : settle (.ok .endOfFile) c = .ok (.ok t, l)) : t.isEndOfFile = true := by
  obtain ⟨span, -, h⟩ := Checked.bind_eq_ok_iff.mp h
  obtain ⟨ht, -⟩ := Prod.mk.inj (Checked.pure_eq_ok_iff.mp h)
  rw [← Except.ok.inj ht]
  rfl

/-- A token that is not the end of file leaves less to read. -/
theorem next_rest_length {l l' : Lexer} {t : Token} (h : l.next = .ok (.ok t, l'))
    (ht : t.isEndOfFile = false) : l'.cursor.rest.length < l.cursor.rest.length := by
  obtain ⟨c, hskip, h⟩ := Checked.bind_eq_ok_iff.mp h
  have hc : c.rest.length ≤ l.cursor.rest.length := by
    rw [Cursor.skipWhile_rest hskip]
    exact (List.dropWhile_sublist _).length_le
  split at h
  · rw [settle_endOfFile h] at ht
    contradiction
  · rename_i first hpeek
    obtain ⟨⟨found, d⟩, htake, h⟩ := Checked.bind_eq_ok_iff.mp h
    obtain ⟨⟨reading, e⟩, hread, h⟩ := Checked.bind_eq_ok_iff.mp h
    have hd : d.rest.length = c.rest.length - 1 := by
      rw [Cursor.take_rest htake, List.length_tail]
    have he : e.rest.length ≤ d.rest.length := Scan.lexeme_rest_length hread
    have hpos : 0 < c.rest.length := by
      cases hnil : c.rest with
      | nil => simp [Cursor.peek?, hnil] at hpeek
      | cons ch rest => simp
    rw [settle_rest h]
    omega

/-- Reads on until the end of file or the first error, behind the tokens that are `done`. -/
def collect (l : Lexer) (done : List Token) : Checked (Except LexError (List Token)) :=
  match _h : l.next with
  | .error fault => .error fault
  | .ok (.error e, _) => .ok (.error e)
  | .ok (.ok t, l') =>
      if _ht : t.isEndOfFile then .ok (.ok (t :: done).reverse)
      else l'.collect (t :: done)
termination_by l.cursor.rest.length
decreasing_by
  exact next_rest_length _h (by simpa using _ht)

end Lexer

/-- The tokens of a source, with the end of file as the last one, or the first error. -/
def lex (source : String) : Checked (Except LexError (List Token)) :=
  (Lexer.ofSource source).collect []

end Lexis
