import Lexis.Span
import Lexis.Text.Bytes

/-!
A cursor over a source text. Behind it lies text that is done with; the *window* is the text taken
since then; `rest` is the text ahead. Taking moves characters from the rest into the window,
`advance` closes the window, and skipping moves past text without taking it. The byte offsets of
both ends of the window are carried along in 32 bits, so every move is checked.
-/

namespace Lexis

open Text

/-- A place in a source text, with the window of text taken there. -/
structure Cursor where
  source : String
  start : UInt32
  stop : UInt32
  window : List Char
  rest : List Char
  /-- The character taken most recently. Skipped characters do not count. -/
  last : Option Char
  deriving DecidableEq

namespace Cursor

/-- The most bytes of a source that 32-bit offsets can address. -/
def sourceLimit : Nat := UInt32.size - 1

/-- A cursor at the start of a source. What lies past the limit is cut off. -/
def ofSource (source : String) : Cursor :=
  let source := clip sourceLimit source
  { source, start := 0, stop := 0, window := [], rest := source.toList, last := none }

def peek? (c : Cursor) : Option Char :=
  c.rest.head?

/-- Whether there is a character ahead and it passes the test. -/
def peekIs (c : Cursor) (p : Char → Bool) : Bool :=
  c.rest.head?.any p

def atEnd (c : Cursor) : Bool :=
  c.rest.isEmpty

def content (c : Cursor) : String :=
  String.ofList c.window

def span (c : Cursor) : Checked Span :=
  Span.between c.start c.stop

/-- Closes the window: a new and empty one begins where it ended. -/
def advance (c : Cursor) : Cursor :=
  { c with start := c.stop, window := [] }

/-- Moves `taken` from the front of the rest to the window and leaves `rest` ahead. -/
def extend (c : Cursor) (taken rest : List Char) : Checked Cursor := do
  let stop ← addOffset c.stop (byteLength taken)
  return { c with stop, window := c.window ++ taken, rest, last := taken.getLast?.or c.last }

def take (c : Cursor) : Checked (Bool × Cursor) :=
  match c.rest with
  | [] => return (false, c)
  | ch :: rest => return (true, ← c.extend [ch] rest)

/-- Takes the character ahead if it is the expected one, and says whether it was. -/
def takeIf (c : Cursor) (expected : Char) : Checked (Bool × Cursor) :=
  if c.peekIs (· == expected) then c.take else return (false, c)

def takeWhile (c : Cursor) (p : Char → Bool) : Checked Cursor :=
  c.extend (c.rest.takeWhile p) (c.rest.dropWhile p)

def takeUntil (c : Cursor) (p : Char → Bool) : Checked Cursor :=
  c.takeWhile fun ch => !p ch

/-- Takes everything up to the first byte that equals a needle. Only ASCII needles are allowed:
no byte of a longer encoding equals one, so the window still ends between characters. -/
def takeUntilAscii (c : Cursor) (needles : List UInt8) : Checked Cursor :=
  if needles.all (· < 128) then
    let parts := splitAtByte (byteIndex needles.contains c.rest) c.rest
    c.extend parts.1 parts.2
  else
    .error .needleNotAscii

/-- Moves past characters that pass the test without taking them. The window has to be empty. -/
def skipWhile (c : Cursor) (p : Char → Bool) : Checked Cursor :=
  if c.start = c.stop then do
    let stop ← addOffset c.stop (byteLength (c.rest.takeWhile p))
    return { c with start := stop, stop, window := [], rest := c.rest.dropWhile p }
  else
    .error (.windowNotEmpty c.start c.stop)

@[simp] theorem advance_rest (c : Cursor) : c.advance.rest = c.rest := rfl

theorem extend_rest {c c' : Cursor} {taken rest : List Char} (h : c.extend taken rest = .ok c') :
    c'.rest = rest := by
  obtain ⟨stop, -, h⟩ := Checked.bind_eq_ok_iff.mp h
  rw [← Checked.pure_eq_ok_iff.mp h]

theorem take_rest {c c' : Cursor} {found : Bool} (h : c.take = .ok (found, c')) :
    c'.rest = c.rest.tail := by
  unfold take at h
  split at h
  · rename_i hrest
    obtain ⟨-, rfl⟩ := Prod.mk.inj (Checked.pure_eq_ok_iff.mp h)
    rw [hrest]
    rfl
  · rename_i ch rest hrest
    obtain ⟨d, hext, h⟩ := Checked.bind_eq_ok_iff.mp h
    obtain ⟨-, rfl⟩ := Prod.mk.inj (Checked.pure_eq_ok_iff.mp h)
    rw [extend_rest hext, hrest]
    rfl

theorem takeIf_rest_length {c c' : Cursor} {expected : Char} {found : Bool}
    (h : c.takeIf expected = .ok (found, c')) : c'.rest.length ≤ c.rest.length := by
  unfold takeIf at h
  split at h
  · rw [take_rest h, List.length_tail]
    omega
  · obtain ⟨-, rfl⟩ := Prod.mk.inj (Checked.pure_eq_ok_iff.mp h)
    exact Nat.le_refl _

theorem takeWhile_rest {c c' : Cursor} {p : Char → Bool} (h : c.takeWhile p = .ok c') :
    c'.rest = c.rest.dropWhile p :=
  extend_rest h

theorem takeUntilAscii_rest_length {c c' : Cursor} {needles : List UInt8}
    (h : c.takeUntilAscii needles = .ok c') : c'.rest.length ≤ c.rest.length := by
  unfold takeUntilAscii at h
  split at h
  · rw [extend_rest h]
    have := congrArg List.length (splitAtByte_append (byteIndex needles.contains c.rest) c.rest)
    rw [List.length_append] at this
    omega
  · simp at h

theorem skipWhile_rest {c c' : Cursor} {p : Char → Bool} (h : c.skipWhile p = .ok c') :
    c'.rest = c.rest.dropWhile p := by
  unfold skipWhile at h
  split at h
  · obtain ⟨stop, -, h⟩ := Checked.bind_eq_ok_iff.mp h
    rw [← Checked.pure_eq_ok_iff.mp h]
  · simp at h

end Cursor

end Lexis
