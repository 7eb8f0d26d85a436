import Lexis.Text.Alphabetic
import Lexis.Text.Numeric

namespace Lexis.Text

def isAlphanumeric (c : Char) : Bool :=
  isAlphabetic c || isNumeric c

/-- Carriage return and line feed, the two characters that no string literal holds. -/
def isLineBreak (c : Char) : Bool :=
  c == '\r' || c == '\n'

end Lexis.Text
