import Lexis.Cursor.Move
import Lexis.TokenStream

/-!
Sessions: one cursor, lexer or token stream, worked on step by step, handed from one form to the
next, and set aside for later.
-/

namespace Lexis

inductive Subject where
  | cursor (cursor : Cursor)
  | lexer (lexer : Lexer)
  | stream (stream : TokenStream)

/-- The current subject and those set aside, latest first. -/
structure Session where
  subject : Subject
  saved : List Subject

namespace Session

inductive Action where
  | move (m : Cursor.Move)
  | peek (p : Char → Bool)
  | source
  /-- Reads a token from the lexer or an element from the stream. -/
  | next
  | toLexer
  | toCursor
  | toStream
  | save
  | restore

inductive Reply where
  | silent
  | flag (b : Bool)
  | text (s : String)
  | element (outcome : Option Outcome)

inductive Obstacle where
  | fault (f : Fault)
  /-- The action does not exist for this subject, or nothing was set aside. -/
  | notApplicable

def start (subject : Subject) : Session :=
  ⟨subject, []⟩

def Reply.ofFlag? : Option Bool → Reply
  | some b => .flag b
  | none => .silent

/-- The effect of an action on a subject. Saving and restoring leave it alone. -/
def act : Subject → Action → Option (Checked (Reply × Subject))
  | .cursor c, .move m => some do
      let (found, c) ← c.move m
      return (.ofFlag? found, .cursor c)
  | .cursor c, .peek p => some (return (.flag (c.peekIs p), .cursor c))
  | .cursor c, .source => some (return (.text c.source, .cursor c))
  | .cursor c, .toLexer => some (return (.silent, .lexer (.ofCursor c)))
  | .lexer l, .next => some do
      let (outcome, l) ← l.next
      return (.element (some outcome), .lexer l)
  | .lexer l, .source => some (return (.text l.cursor.source, .lexer l))
  | .lexer l, .toCursor => some (return (.silent, .cursor l.cursor))
  | .lexer l, .toStream => some (return (.silent, .stream (.ofLexer l)))
  | .stream s, .next => some do
      let (element, s) ← s.next
      return (.element element, .stream s)
  | _, _ => none

def step (s : Session) : Action → Except Obstacle (Reply × Session)
  | .save => .ok (.silent, { s with saved := s.subject :: s.saved })
  | .restore =>
      match s.saved with
      | [] => .error .notApplicable
      | subject :: saved => .ok (.silent, ⟨subject, saved⟩)
  | action =>
      match act s.subject action with
      | none => .error .notApplicable
      | some (.error f) => .error (.fault f)
      | some (.ok (reply, subject)) => .ok (reply, { s with subject })

/-- The answers to a list of actions, each with the subject after it. An action without an answer
ends the session. -/
def trace (s : Session) : List Action → List (Except Obstacle (Reply × Subject))
  | [] => []
  | action :: actions =>
      match s.step action with
      | .ok (reply, next) => .ok (reply, next.subject) :: next.trace actions
      | .error obstacle => [.error obstacle]

end Session

end Lexis
