import Lexis.Cursor
import Lexis.Lexer.Error
import Lexis.Text.Alphanumeric
import Lexis.Text.Decimal
import Lexis.Token

/-!
Scanning one lexeme. The first character, already in the window, decides what is being read; only
a minus sign needs a look at the character after it. Each scanner takes exactly the characters of
its lexeme, also where it ends in an error, and leaves the window open.
-/

namespace Lexis

open Text

/-- What a scanner makes of its lexeme, and the cursor behind that lexeme. -/
abbrev Reading := Except LexError.Cause Item × Cursor

namespace Scan

/-- A digit begins a number, and so does a minus sign right before a digit. -/
def startsNumber (first : Char) (c : Cursor) : Bool :=
  first.isDigit || (first == '-' && c.peekIs Char.isDigit)

def startsString (first : Char) : Bool :=
  first == '"'

def startsName (first : Char) : Bool :=
  first == '_' || isAlphabetic first

def continuesName (c : Char) : Bool :=
  c == '_' || isAlphanumeric c

/-- All digits that follow belong to the number, however many there are. -/
def number (c : Cursor) : Checked Reading := do
  let c ← c.takeWhile Char.isDigit
  match Decimal.parseInt64 c.window with
  | .ok n => return (.ok (.integer n), c)
  | .error _ => return (.error (.integerRange c.content), c)

/-- A string runs to the next quotation mark on its line. There are no escapes, and the marks
around the body are not part of the value. -/
def string (c : Cursor) : Checked Reading := do
  let c ← c.takeUntilAscii [0x22, 0x0D, 0x0A]
  let body := c.window.drop 1
  if c.peekIs isLineBreak then
    return (.error .lineBreak, c)
  else
    let (closed, c) ← c.takeIf '"'
    if closed then return (.ok (.string (String.ofList body)), c)
    else return (.error .endOfInput, c)

/-- A name runs as far as it can; whether it is a keyword is decided on the whole word. -/
def name (c : Cursor) : Checked Reading := do
  let c ← c.takeWhile continuesName
  match Keyword.ofText? c.content with
  | some word => return (.ok (.keyword word), c)
  | none => return (.ok (.identifier c.content), c)

def single (first : Char) : Item :=
  match Punctuation.ofChar? first with
  | some mark => .punctuation mark
  | none => .unknown

/-- Reads the lexeme whose first character has just been taken. -/
def lexeme (first : Char) (c : Cursor) : Checked Reading :=
  if startsNumber first c then number c
  else if startsString first then string c
  else if startsName first then name c
  else return (.ok (single first), c)

theorem number_rest_length {c c' : Cursor} {r : Except LexError.Cause Item}
    (h : number c = .ok (r, c')) : c'.rest.length ≤ c.rest.length := by
  obtain ⟨d, htake, h⟩ := Checked.bind_eq_ok_iff.mp h
  have hd : d = c' := by
    split at h
    all_goals exact (Prod.mk.inj (Checked.pure_eq_ok_iff.mp h)).2
  rw [← hd, Cursor.takeWhile_rest htake]
  exact (List.dropWhile_sublist _).length_le

theorem string_rest_length {c c' : Cursor} {r : Except LexError.Cause Item}
    (h : string c = .ok (r, c')) : c'.rest.length ≤ c.rest.length := by
  obtain ⟨d, htake, h⟩ := Checked.bind_eq_ok_iff.mp h
  have hd := Cursor.takeUntilAscii_rest_length htake
  split at h
  · obtain ⟨-, rfl⟩ := Prod.mk.inj (Checked.pure_eq_ok_iff.mp h)
    exact hd
  · obtain ⟨⟨closed, e⟩, hquote, h⟩ := Checked.bind_eq_ok_iff.mp h
    have he := Cursor.takeIf_rest_length hquote
    have hcursor : e = c' := by
      dsimp only at h
      split at h
      all_goals exact (Prod.mk.inj (Checked.pure_eq_ok_iff.mp h)).2
    rw [← hcursor]
    omega

theorem name_rest_length {c c' : Cursor} {r : Except LexError.Cause Item}
    (h : name c = .ok (r, c')) : c'.rest.length ≤ c.rest.length := by
  obtain ⟨d, htake, h⟩ := Checked.bind_eq_ok_iff.mp h
  have hd : d = c' := by
    split at h
    all_goals exact (Prod.mk.inj (Checked.pure_eq_ok_iff.mp h)).2
  rw [← hd, Cursor.takeWhile_rest htake]
  exact (List.dropWhile_sublist _).length_le

/-- No scanner gives characters back. -/
theorem lexeme_rest_length {first : Char} {c c' : Cursor} {r : Except LexError.Cause Item}
    (h : lexeme first c = .ok (r, c')) : c'.rest.length ≤ c.rest.length := by
  unfold lexeme at h
  split at h
  · exact number_rest_length h
  · split at h
    · exact string_rest_length h
    · split at h
      · exact name_rest_length h
      · obtain ⟨-, rfl⟩ := Prod.mk.inj (Checked.pure_eq_ok_iff.mp h)
        exact Nat.le_refl _

end Scan

end Lexis
