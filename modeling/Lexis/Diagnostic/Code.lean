namespace Lexis

/-- The classes of errors that have a number and an explanation. -/
inductive Diagnostic.Code where
  | unclosedString
  | integerRange
  deriving DecidableEq, Repr

namespace Diagnostic.Code

def text : Code → String
  | unclosedString => "E0001"
  | integerRange => "E0002"

/-- The class with the given number, in letters of either case. -/
def parse? (number : String) : Option Code :=
  let upper := String.ofList (number.toList.map Char.toUpper)
  if upper = "E0001" then some unclosedString
  else if upper = "E0002" then some integerRange
  else none

def explanation : Code → String
  | unclosedString =>
      "A string literal was opened with `\"` but not closed on the same line.\n\n"
        ++ "String literals cannot contain raw line breaks, and there are no escape\n"
        ++ "sequences, so a `\"` cannot appear inside a string either.\n\n"
        ++ "Example:\n\n    greet(\"hello\n    world\")\n\n"
        ++ "Close the string before the end of the line."
  | integerRange =>
      "An integer literal does not fit in a signed 64-bit integer.\n\n"
        ++ "Integer literals range from -9223372036854775808 to 9223372036854775807.\n\n"
        ++ "Example:\n\n    def big() = 99999999999999999999"

end Diagnostic.Code

end Lexis
