import Lexis.Bisect
import Lexis.Fault
import Lexis.Text.Alphanumeric
import Lexis.Text.Slice

/-!
Lines and columns of a text. A table holds the byte offset at which each line begins, a line
beginning after every line feed; a position is found by bisection. Lines and columns count from
one, columns in characters, and both fit in 32 bits or the look-up is a fault.
-/

namespace Lexis

open Text

structure LineTable where
  starts : Array UInt32
  deriving DecidableEq, Inhabited

/-- A place in a text as people count it. -/
structure Position where
  line : UInt32
  column : UInt32
  deriving DecidableEq, Repr

def Position.render (p : Position) : String :=
  Decimal.ofNat p.line.toNat ++ ":" ++ Decimal.ofNat p.column.toNat

namespace LineTable

def empty : LineTable :=
  ⟨#[]⟩

/-- Reads one character at byte offset `state.1`; after a line feed a line begins. -/
def readChar (state : Nat × Array UInt32) (c : Char) : Nat × Array UInt32 :=
  let next := state.1 + c.utf8Size
  (next, if c = '\n' then state.2.push (UInt32.ofNat next) else state.2)

/-- The table of a text. The first line begins at the start of the text, also of an empty one. -/
def ofText (text : String) : LineTable :=
  ⟨(text.toList.foldl readChar (0, #[0])).2⟩

def lineCount (t : LineTable) : Nat :=
  t.starts.size

def start? (t : LineTable) (line : UInt32) : Option UInt32 :=
  if line = 0 then none else t.starts[line.toNat - 1]?

/-- The line an offset stands in: the last one that begins at or before it. -/
def line (t : LineTable) (offset : UInt32) : Checked UInt32 :=
  let begun := bisect (fun i => t.starts[i]?.any (· ≤ offset)) 0 t.starts.size
  addOffset (UInt32.ofNat (begun - 1)) 1

/-- A number of characters as a 32-bit word. A number beyond 32 bits becomes the greatest one that
still has a successor. -/
def columnsBefore (count : Nat) : UInt32 :=
  if count < UInt32.size then UInt32.ofNat count else UInt32.ofNat (UInt32.size - 2)

/-- Line and column of an offset. Offsets past the end of the text count as its end, and an offset
inside a character stands in the first column. -/
def position (t : LineTable) (text : String) (offset : UInt32) : Checked Position := do
  let line ← t.line offset
  let start := (t.start? line).getD 0
  let stop := min offset.toNat text.utf8ByteSize
  let before := (slice? text start.toNat stop).getD ""
  let column ← addOffset (columnsBefore before.length) 1
  return ⟨line, column⟩

def trimLineEnd (text : String) : String :=
  String.ofList (text.toList.reverse.dropWhile isLineBreak).reverse

/-- The text of a line, without the line breaks at its end. -/
def lineText (t : LineTable) (text : String) (line : UInt32) : Checked (Option String) :=
  match t.start? line with
  | none => return none
  | some start => do
      let following ← addOffset line 1
      let stop := match t.start? following with
        | some next => next.toNat
        | none => text.utf8ByteSize
      return (slice? text start.toNat stop).map trimLineEnd

end LineTable

end Lexis
