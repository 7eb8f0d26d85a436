import Lexis.Diagnostic.Code
import Lexis.Lexer.Error

/-!
Diagnostics: what a reader is told about an error. A diagnostic has a numbered class, a message,
labels on stretches of the source and notes, and is built up from an empty one part by part.
-/

namespace Lexis

open Text

/-- Whether a label marks the error itself or something that belongs to it. -/
inductive Label.Role where
  | primary
  | secondary
  deriving DecidableEq, Repr

structure Label where
  role : Label.Role
  span : Span
  message : String
  deriving DecidableEq, Repr

def Label.isPrimary (l : Label) : Bool :=
  l.role == .primary

/-- An error report before it is laid out. -/
structure Diagnostic where
  code : Diagnostic.Code
  message : String
  labels : List Label
  notes : List String
  deriving DecidableEq, Repr

namespace Diagnostic

def error (code : Code) : Diagnostic :=
  { code, message := "", labels := [], notes := [] }

def withMessage (d : Diagnostic) (message : String) : Diagnostic :=
  { d with message }

def withLabel (d : Diagnostic) (span : Span) (message : String) : Diagnostic :=
  { d with labels := d.labels ++ [⟨.primary, span, message⟩] }

def withSecondaryLabel (d : Diagnostic) (span : Span) (message : String) : Diagnostic :=
  { d with labels := d.labels ++ [⟨.secondary, span, message⟩] }

def withNote (d : Diagnostic) (note : String) : Diagnostic :=
  { d with notes := d.notes ++ [note] }

def primarySpan? (d : Diagnostic) : Option Span :=
  (d.labels.find? Label.isPrimary).map Label.span

def headline (d : Diagnostic) : String :=
  "error[" ++ d.code.text ++ "]: " ++ d.message

/-- What a reader is told about a lexical error. A string that its line cuts off is marked a second
time where the line ends. -/
def ofLexError (e : LexError) : Diagnostic :=
  match e.cause with
  | .lineBreak =>
      (error .unclosedString).withMessage e.message
        |>.withLabel e.span "string literal is never closed"
        |>.withSecondaryLabel (.point e.span.stop) "line ends here"
        |>.withNote
          "string literals cannot span lines; close it with `\"` before the line ends"
  | .endOfInput =>
      (error .unclosedString).withMessage e.message
        |>.withLabel e.span "string literal is never closed"
        |>.withNote "add a closing `\"`"
  | .integerRange _ =>
      (error .integerRange).withMessage e.message
        |>.withLabel e.span "integer literal out of range"
        |>.withNote ("integer literals must lie between " ++ Decimal.ofInt Int64.minValue.toInt
          ++ " and " ++ Decimal.ofInt Int64.maxValue.toInt)

end Diagnostic

end Lexis
