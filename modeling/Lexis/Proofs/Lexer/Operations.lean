import Lexis.Proofs.Cursor.History
import Lexis.Proofs.Lexer.Calls

/-!
A call of the lexer, taken apart into the operations on its cursor. Every call goes through one of a
few short histories, whatever it reads, so what holds of a cursor after any history also holds in
the middle of a call. The cursor at the end of the history still has the lexeme in its window; the
outcome takes its span from there.
-/

namespace Lexis

open Text

namespace Cursor

variable {c c' d : Cursor}

theorem follow_cons {m : Move} {answer : Option Bool} (h : c.move m = .ok (answer, d))
    (history : List Move) : c.follow (m :: history) = d.follow history := by
  rw [follow, h]
  rfl

theorem follow_take {history : List Move} (h : c.follow history = .ok c') (k : Nat) :
    ∃ d, c.follow (history.take k) = .ok d := by
  induction history generalizing c k with
  | nil => exact ⟨c, by rw [List.take_nil]; rfl⟩
  | cons m history ih =>
      cases k with
      | zero => exact ⟨c, rfl⟩
      | succ k =>
          obtain ⟨⟨answer, d⟩, hmove, hfollow⟩ := Checked.bind_eq_ok_iff.mp h
          obtain ⟨e, he⟩ := ih hfollow k
          exact ⟨e, by rw [List.take_succ_cons, follow_cons hmove, he]⟩

theorem move_take {found : Bool} (h : c.take = .ok (found, d)) :
    c.move .take = .ok (some found, d) := by
  rw [move, h]
  rfl

theorem move_takeIf {expected : Char} {found : Bool} (h : c.takeIf expected = .ok (found, d)) :
    c.move (.takeIf expected) = .ok (some found, d) := by
  rw [move, h]
  rfl

theorem move_takeWhile {p : Char → Bool} (h : c.takeWhile p = .ok d) :
    c.move (.takeWhile p) = .ok (none, d) := by
  rw [move, h]
  rfl

theorem move_takeUntilAscii {needles : List UInt8} (h : c.takeUntilAscii needles = .ok d) :
    c.move (.takeUntilAscii needles) = .ok (none, d) := by
  rw [move, h]
  rfl

theorem move_skipWhile {p : Char → Bool} (h : c.skipWhile p = .ok d) :
    c.move (.skipWhile p) = .ok (none, d) := by
  rw [move, h]
  rfl

end Cursor

namespace Scan

/-- How a lexeme is read whose first character has been taken: a number, a string that meets a line
break, any other string, a name, or a single character. -/
def histories : List (List Cursor.Move) :=
  [[.takeWhile Char.isDigit], [.takeUntilAscii [0x22, 0x0D, 0x0A]],
    [.takeUntilAscii [0x22, 0x0D, 0x0A], .takeIf '"'], [.takeWhile continuesName], []]

variable {c c' : Cursor} {reading : Except LexError.Cause Item}

theorem takeWhile_of_number (h : number c = .ok (reading, c')) :
    c.takeWhile Char.isDigit = .ok c' := by
  obtain ⟨d, htake, h⟩ := Checked.bind_eq_ok_iff.mp h
  have hd : d = c' := by
    split at h
    all_goals exact (Prod.mk.inj (Checked.pure_eq_ok_iff.mp h)).2
  rwa [← hd]

theorem takeWhile_of_name (h : name c = .ok (reading, c')) :
    c.takeWhile continuesName = .ok c' := by
  obtain ⟨d, htake, h⟩ := Checked.bind_eq_ok_iff.mp h
  have hd : d = c' := by
    split at h
    all_goals exact (Prod.mk.inj (Checked.pure_eq_ok_iff.mp h)).2
  rwa [← hd]

theorem exists_history_of_string (h : string c = .ok (reading, c')) :
    ∃ history ∈ histories, c.follow history = .ok c' := by
  obtain ⟨d, htake, h⟩ := Checked.bind_eq_ok_iff.mp h
  have hfirst := Cursor.move_takeUntilAscii htake
  split at h
  · obtain ⟨-, rfl⟩ := Prod.mk.inj (Checked.pure_eq_ok_iff.mp h)
    exact ⟨[.takeUntilAscii [0x22, 0x0D, 0x0A]], by simp [histories], Cursor.follow_cons hfirst []⟩
  · obtain ⟨⟨closed, e⟩, hquote, h⟩ := Checked.bind_eq_ok_iff.mp h
    have he : e = c' := by
      dsimp only at h
      split at h
      all_goals exact (Prod.mk.inj (Checked.pure_eq_ok_iff.mp h)).2
    refine ⟨[.takeUntilAscii [0x22, 0x0D, 0x0A], .takeIf '"'], by simp [histories], ?_⟩
    rw [Cursor.follow_cons hfirst, Cursor.follow_cons (Cursor.move_takeIf hquote), he]
    rfl

theorem exists_history_of_lexeme {first : Char} (h : lexeme first c = .ok (reading, c')) :
    ∃ history ∈ histories, c.follow history = .ok c' := by
  unfold lexeme at h
  split at h
  · exact ⟨[.takeWhile Char.isDigit], by simp [histories],
      Cursor.follow_cons (Cursor.move_takeWhile (takeWhile_of_number h)) []⟩
  · split at h
    · exact exists_history_of_string h
    · split at h
      · exact ⟨[.takeWhile continuesName], by simp [histories],
          Cursor.follow_cons (Cursor.move_takeWhile (takeWhile_of_name h)) []⟩
      · obtain ⟨-, rfl⟩ := Prod.mk.inj (Checked.pure_eq_ok_iff.mp h)
        exact ⟨[], by simp [histories], rfl⟩

end Scan

namespace Lexer

/-- The operations of a call: whitespace is skipped, and unless the text is over one character is
taken and the rest of its lexeme read. -/
def histories : List (List Cursor.Move) :=
  [.skipWhile isWhitespace] ::
    Scan.histories.map fun more => .skipWhile isWhitespace :: .take :: more

theorem settle_eq_ok {reading : Except LexError.Cause Item} {c : Cursor} {outcome : Outcome}
    {l : Lexer} (h : settle reading c = .ok (outcome, l)) :
    l = ofCursor c ∧ c.span = .ok outcome.span := by
  obtain ⟨span, hspan, h⟩ := Checked.bind_eq_ok_iff.mp h
  obtain ⟨rfl, rfl⟩ := Prod.mk.inj (Checked.pure_eq_ok_iff.mp h)
  rw [hspan]
  cases reading <;> exact ⟨rfl, rfl⟩

theorem exists_history_of_next {l l' : Lexer} {outcome : Outcome}
    (h : l.next = .ok (outcome, l')) :
    ∃ history ∈ histories, ∃ c, l.cursor.follow history = .ok c ∧ l' = ofCursor c ∧
      c.span = .ok outcome.span := by
  obtain ⟨c, hskip, h⟩ := Checked.bind_eq_ok_iff.mp h
  have hfirst := Cursor.move_skipWhile hskip
  split at h
  · exact ⟨[.skipWhile isWhitespace], by simp [histories], c, Cursor.follow_cons hfirst [],
      settle_eq_ok h⟩
  · obtain ⟨⟨found, d⟩, htake, h⟩ := Checked.bind_eq_ok_iff.mp h
    obtain ⟨⟨reading, e⟩, hread, h⟩ := Checked.bind_eq_ok_iff.mp h
    obtain ⟨more, hmore, hfollow⟩ := Scan.exists_history_of_lexeme hread
    refine ⟨.skipWhile isWhitespace :: .take :: more, ?_, e, ?_, settle_eq_ok h⟩
    · exact List.mem_cons_of_mem _ (List.mem_map_of_mem hmore)
    · rw [Cursor.follow_cons hfirst, Cursor.follow_cons (Cursor.move_take htake), hfollow]

end Lexer

end Lexis
