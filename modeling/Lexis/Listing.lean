import Lexis.Lexer
import Lexis.LineTable

/-!
The listing of a source: one row per token, with its line and column, its kind and its value. A
source with an error has no listing at all, however many tokens come before the error.
-/

namespace Lexis

namespace Listing

def row (p : Position) (t : Token) : String :=
  let value := if t.value.isNull then "" else " " ++ t.value.render
  p.render ++ " " ++ t.kind.name ++ value ++ "\n"

/-- Reads on to the end of file or the first error and adds a row per token to `rows`. -/
def collect (lines : LineTable) (source : String) (l : Lexer) (rows : String) :
    Checked (Except LexError String) :=
  match _h : l.next with
  | .error fault => .error fault
  | .ok (.error e, _) => .ok (.error e)
  | .ok (.ok t, l') =>
      match lines.position source t.span.start with
      | .error fault => .error fault
      | .ok p =>
          if _ht : t.isEndOfFile then .ok (.ok (rows ++ row p t))
          else collect lines source l' (rows ++ row p t)
termination_by l.cursor.rest.length
decreasing_by
  exact Lexer.next_rest_length _h (by simpa using _ht)

end Listing

def listing (source : String) : Checked (Except LexError String) :=
  Listing.collect (.ofText source) source (.ofSource source) ""

end Lexis
