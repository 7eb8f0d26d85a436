import Lexis.Text.Decimal
import Lexis.Text.Quoted
import Lexis.Token.Kind

/-!
The value a token carries, and its two written forms: `render` for listings and `describe` for
messages about the value itself.
-/

namespace Lexis

open Text

/-- The payload of a token. Keywords, punctuation and the end of input have none. -/
inductive Value where
  | null
  | identifier (name : String)
  | integer (number : Int64)
  | string (body : String)
  deriving DecidableEq

instance : Inhabited Value := ⟨.null⟩

namespace Value

def isNull : Value → Bool
  | null => true
  | _ => false

def text? : Value → Option String
  | identifier name => some name
  | string body => some body
  | _ => none

def integer? : Value → Option Int64
  | integer number => some number
  | _ => none

/-- Whether a token of the given kind may carry the value. -/
def fits : Value → Kind → Bool
  | null, kind => !kind.expectsValue
  | identifier _, kind => kind == .identifier
  | integer _, kind => kind == .integer
  | string _, kind => kind == .string

/-- The value as a listing shows it: names bare, integers in decimal, strings quoted. -/
def render : Value → String
  | null => "null"
  | identifier name => name
  | integer number => Decimal.ofInt number.toInt
  | string body => quote body

def describe : Value → String
  | null => "Null"
  | identifier name => "Identifier(" ++ quote name ++ ")"
  | integer number => "Integer(" ++ Decimal.ofInt number.toInt ++ ")"
  | string body => "String(" ++ quote body ++ ")"

end Value

end Lexis
