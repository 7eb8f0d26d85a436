import Lexis.Span

namespace Lexis

open Text

inductive LexError.Cause where
  /-- A string literal was still open at the end of its line. -/
  | lineBreak
  /-- A string literal was still open at the end of the source. -/
  | endOfInput
  /-- An integer literal denotes a number outside the 64-bit range. -/
  | integerRange (literal : String)
  deriving DecidableEq, Repr

def LexError.Cause.message : LexError.Cause → String
  | lineBreak => "unterminated string: unexpected newline"
  | endOfInput => "unterminated string: unexpected end-of-file"
  | integerRange literal => "integer literal `" ++ literal ++ "` does not fit in 64 bits"

/-- Text that is no token: what is wrong with it and where it stands. -/
structure LexError where
  span : Span
  cause : LexError.Cause
  deriving DecidableEq, Repr

namespace LexError

def message (e : LexError) : String :=
  e.cause.message

def render (e : LexError) : String :=
  e.message ++ " at " ++ e.span.render

end LexError

end Lexis
