import Lexis.Lexer

/-!
Tokens on demand. A stream yields what the lexer reads, token by token, and is over at the end of
file or after the first error; the end of file itself is not an element.
-/

namespace Lexis

/-- A lexer that stops for good at the end of file and after an error. -/
structure TokenStream where
  lexer : Lexer
  finished : Bool
  deriving DecidableEq

namespace TokenStream

def ofLexer (lexer : Lexer) : TokenStream :=
  ⟨lexer, false⟩

def ofSource (source : String) : TokenStream :=
  ofLexer (.ofSource source)

def next (s : TokenStream) : Checked (Option Outcome × TokenStream) :=
  if s.finished then return (none, s)
  else do
    let (outcome, lexer) ← s.lexer.next
    match outcome with
    | .ok t =>
        if t.isEndOfFile then return (none, ⟨lexer, true⟩)
        else return (some (.ok t), ⟨lexer, false⟩)
    | .error e => return (some (.error e), ⟨lexer, true⟩)

/-- The first `n` elements, or all of them if there are fewer, behind those already `seen`. -/
def takeOnto : Nat → List Outcome → TokenStream → Checked (List Outcome)
  | 0, seen, _ => return seen.reverse
  | n + 1, seen, s => do
      let (element, s) ← s.next
      match element with
      | none => return seen.reverse
      | some outcome => s.takeOnto n (outcome :: seen)

def take (n : Nat) (s : TokenStream) : Checked (List Outcome) :=
  s.takeOnto n []

/-- All elements. Each one takes at least one character, so there are no more elements than
characters ahead. -/
def toList (s : TokenStream) : Checked (List Outcome) :=
  s.take s.lexer.cursor.rest.length

end TokenStream

end Lexis
