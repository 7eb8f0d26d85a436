import Lexis.Cursor

/-!
The operations on a cursor as data. A history of a cursor is then a list, and what holds after any
history is proved by going through the seven of them once.
-/

namespace Lexis.Cursor

/-- The operations that change a cursor, as data, so that a history is a list of them. -/
inductive Move where
  | take
  | takeIf (expected : Char)
  | takeWhile (p : Char → Bool)
  | takeUntil (p : Char → Bool)
  | takeUntilAscii (needles : List UInt8)
  | skipWhile (p : Char → Bool)
  | advance

/-- Carries out one operation. Only `take` and `takeIf` have an answer. -/
def move (c : Cursor) : Move → Checked (Option Bool × Cursor)
  | .take => do
      let (found, c) ← c.take
      return (some found, c)
  | .takeIf expected => do
      let (found, c) ← c.takeIf expected
      return (some found, c)
  | .takeWhile p => return (none, ← c.takeWhile p)
  | .takeUntil p => return (none, ← c.takeUntil p)
  | .takeUntilAscii needles => return (none, ← c.takeUntilAscii needles)
  | .skipWhile p => return (none, ← c.skipWhile p)
  | .advance => return (none, c.advance)

end Lexis.Cursor
