import Lexis.Session
import Lexis.Proofs.Cursor.Standing
import Lexis.Proofs.Lexer.Calls

namespace Lexis

open Text

/-- The lexer stands between two parts of `s`. -/
inductive Lexer.StandsIn (s : String) : Lexer → Prop where
  | intro {before rest : List Char} {last : Option Char} (hs : s.toList = before ++ rest) :
      StandsIn s (placed before rest last)

def Subject.StandsIn (s : String) : Subject → Prop
  | .cursor c => c.StandsIn s
  | .lexer l => l.StandsIn s
  | .stream t => t.lexer.StandsIn s

namespace Session

/-- The subjects that work on `s` leads to when it begins with a cursor at the front. -/
inductive Reachable (s : String) : Subject → Prop where
  | start : Reachable s (.cursor (.ofSource s))
  | act {subject subject' : Subject} {action : Action} {reply : Reply}
      (h : Reachable s subject) (hact : act subject action = some (.ok (reply, subject'))) :
      Reachable s subject'

end Session

variable {s : String}

theorem Cursor.StandsIn.ofCursor {c : Cursor} (h : c.StandsIn s) :
    (Lexer.ofCursor c).StandsIn s := by
  obtain ⟨hs, -⟩ := h
  rw [Lexer.ofCursor_placed]
  exact .intro hs

namespace Lexer

theorem StandsIn.cursor {l : Lexer} (h : l.StandsIn s) : l.cursor.StandsIn s := by
  obtain ⟨hs⟩ := h
  exact .intro (by simpa using hs) (fun hwindow => absurd rfl hwindow)

theorem StandsIn.next (hsize : s.utf8ByteSize ≤ Cursor.sourceLimit) {l : Lexer}
    (h : l.StandsIn s) : ∃ outcome l', l.next = .ok (outcome, l') ∧ l'.StandsIn s := by
  obtain ⟨hs⟩ := h
  rename_i before cs last
  have hlength := Cursor.byteLength_le_sourceLimit hsize hs
  obtain ⟨gap, lexeme, rest, last', outcome, rfl, -, hnext, -, -⟩ := exists_next last hlength
  exact ⟨outcome, _, hnext, .intro (by simpa using hs)⟩

theorem StandsIn.of_next_eq_ok (hsize : s.utf8ByteSize ≤ Cursor.sourceLimit) {l l' : Lexer}
    (h : l.StandsIn s) {outcome : Outcome} (hnext : l.next = .ok (outcome, l')) :
    l'.StandsIn s := by
  obtain ⟨outcome', l'', hnext', hl''⟩ := h.next hsize
  rw [hnext, Except.ok.injEq] at hnext'
  obtain ⟨-, rfl⟩ := Prod.mk.inj hnext'
  exact hl''

end Lexer

namespace Subject

/-- The cursor that a subject works on, be it inside a lexer or a stream. -/
def innerCursor : Subject → Cursor
  | .cursor c => c
  | .lexer l => l.cursor
  | .stream t => t.lexer.cursor

def innerLexer? : Subject → Option Lexer
  | .cursor _ => none
  | .lexer l => some l
  | .stream t => some t.lexer

theorem StandsIn.innerCursor {subject : Subject} (h : subject.StandsIn s) :
    subject.innerCursor.StandsIn s := by
  cases subject with
  | cursor c => exact h
  | lexer l => exact Lexer.StandsIn.cursor h
  | stream t => exact Lexer.StandsIn.cursor h

theorem StandsIn.innerLexer {subject : Subject} (h : subject.StandsIn s) {l : Lexer}
    (hl : subject.innerLexer? = some l) : l.StandsIn s := by
  cases subject with
  | cursor c => contradiction
  | lexer l => exact Option.some.inj hl ▸ h
  | stream t => exact Option.some.inj hl ▸ h

end Subject

theorem TokenStream.standsIn_of_next_eq_ok (hsize : s.utf8ByteSize ≤ Cursor.sourceLimit)
    {t t' : TokenStream} (h : t.lexer.StandsIn s) {element : Option Outcome}
    (hnext : t.next = .ok (element, t')) : t'.lexer.StandsIn s := by
  unfold TokenStream.next at hnext
  split at hnext
  · obtain ⟨-, rfl⟩ := Prod.mk.inj (Checked.pure_eq_ok_iff.mp hnext)
    exact h
  · obtain ⟨⟨outcome, l⟩, hread, hnext⟩ := Checked.bind_eq_ok_iff.mp hnext
    have hl := h.of_next_eq_ok hsize hread
    dsimp only at hnext
    split at hnext
    · split at hnext
      · obtain ⟨-, rfl⟩ := Prod.mk.inj (Checked.pure_eq_ok_iff.mp hnext)
        exact hl
      · obtain ⟨-, rfl⟩ := Prod.mk.inj (Checked.pure_eq_ok_iff.mp hnext)
        exact hl
    · obtain ⟨-, rfl⟩ := Prod.mk.inj (Checked.pure_eq_ok_iff.mp hnext)
      exact hl

namespace Session

theorem act_cursor_move {c c' : Cursor} {m : Cursor.Move} {found : Option Bool}
    (hmove : c.move m = .ok (found, c')) :
    act (.cursor c) (.move m) = some (.ok (.ofFlag? found, .cursor c')) := by
  rw [act, hmove]
  rfl

theorem act_lexer_next {l l' : Lexer} {outcome : Outcome} (hnext : l.next = .ok (outcome, l')) :
    act (.lexer l) .next = some (.ok (.element (some outcome), .lexer l')) := by
  rw [act, hnext]
  rfl

theorem act_stream_next {t t' : TokenStream} {element : Option Outcome}
    (hnext : t.next = .ok (element, t')) :
    act (.stream t) .next = some (.ok (.element element, .stream t')) := by
  rw [act, hnext]
  rfl

theorem standsIn_of_act_eq_ok (hsize : s.utf8ByteSize ≤ Cursor.sourceLimit)
    {subject subject' : Subject} (h : subject.StandsIn s) {action : Action} {reply : Reply}
    (hact : act subject action = some (.ok (reply, subject'))) : subject'.StandsIn s := by
  cases subject with
  | cursor c =>
      cases action with
      | move m =>
          obtain ⟨⟨found, c'⟩, hmove, hact⟩ := Checked.bind_eq_ok_iff.mp (Option.some.inj hact)
          cases hact
          exact Cursor.StandsIn.of_move_eq_ok hsize h hmove
      | toLexer =>
          cases hact
          exact Cursor.StandsIn.ofCursor h
      | peek p =>
          cases hact
          exact h
      | source =>
          cases hact
          exact h
      | _ => cases hact
  | lexer l =>
      cases action with
      | next =>
          obtain ⟨⟨outcome, l'⟩, hnext, hact⟩ := Checked.bind_eq_ok_iff.mp (Option.some.inj hact)
          cases hact
          exact Lexer.StandsIn.of_next_eq_ok hsize h hnext
      | toCursor =>
          cases hact
          exact Lexer.StandsIn.cursor h
      | toStream =>
          cases hact
          exact h
      | source =>
          cases hact
          exact h
      | _ => cases hact
  | stream t =>
      cases action with
      | next =>
          obtain ⟨⟨element, t'⟩, hnext, hact⟩ := Checked.bind_eq_ok_iff.mp (Option.some.inj hact)
          cases hact
          exact TokenStream.standsIn_of_next_eq_ok hsize h hnext
      | _ => cases hact

theorem Reachable.standsIn (hsize : s.utf8ByteSize ≤ Cursor.sourceLimit) {subject : Subject}
    (h : Reachable s subject) : subject.StandsIn s := by
  induction h with
  | start => exact Cursor.standsIn_ofSource hsize
  | act _ hact ih => exact standsIn_of_act_eq_ok hsize ih hact

end Session

end Lexis
