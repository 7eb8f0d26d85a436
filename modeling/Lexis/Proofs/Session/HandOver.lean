import Mathlib.Logic.Function.Iterate
import Lexis.Proofs.Lexer.LineBreaks
import Lexis.Proofs.Session.Reachable

namespace Lexis

open Text

/-- The outcome `k` bytes further on. -/
def Outcome.shift (k : Nat) : Outcome → Outcome
  | .ok t => .ok { t with span := t.span.shift k }
  | .error e => .error { e with span := e.span.shift k }

theorem Outcome.shift_ofReading (k offset : Nat) (text : List Char)
    (reading : Except LexError.Cause Item) :
    (ofReading (.cover offset text) reading).shift k =
      ofReading (.cover (offset + k) text) reading := by
  rw [← Span.shift_cover]
  cases reading <;> rfl

namespace Lexer

/-- The outcomes of `n` calls in a row. -/
def outcomes (n : Nat) (l : Lexer) : Checked (List Outcome) := do
  let results ← l.calls n
  return results.map Prod.fst

/-- A new lexer takes over the cursor that `l` gives back. -/
def handOver (l : Lexer) : Lexer :=
  ofCursor l.cursor

/-- The outcomes of a row of calls; `plan` says how often the cursor changes hands before each. -/
def relay : List Nat → Lexer → Checked (List Outcome)
  | [], _ => return []
  | hands :: plan, l => do
      let (outcome, l) ← (handOver^[hands] l).next
      let later ← l.relay plan
      return outcome :: later

theorem outcomes_succ {l l' : Lexer} {outcome : Outcome} (hnext : l.next = .ok (outcome, l'))
    (n : Nat) : l.outcomes (n + 1) = do
      let later ← l'.outcomes n
      return outcome :: later := by
  rw [outcomes, calls, hnext]
  change ((l'.calls n >>= _) >>= _) = ((l'.calls n >>= _) >>= _)
  cases l'.calls n <;> rfl

theorem handOver_placed (before rest : List Char) (last : Option Char) :
    (placed before rest last).handOver = placed before rest last := by
  rw [handOver]
  change ofCursor (.placed before [] rest last) = _
  rw [ofCursor_placed, List.append_nil]

theorem exists_next_shift {k : Nat} {before before' cs : List Char} (last last' : Option Char)
    (hk : byteLength before' = byteLength before + k)
    (hsize : byteLength (before' ++ cs) ≤ Cursor.sourceLimit) :
    ∃ outcome front rest next next', cs = front ++ rest ∧
      (placed before cs last).next = .ok (outcome, placed (before ++ front) rest next) ∧
      (placed before' cs last').next =
        .ok (outcome.shift k, placed (before' ++ front) rest next') := by
  have hsize' : byteLength (before ++ cs) ≤ Cursor.sourceLimit := by
    rw [byteLength_append] at hsize ⊢
    omega
  have hplace : ∀ gap : List Char,
      byteLength (before' ++ gap) = byteLength (before ++ gap) + k := by
    intro gap
    rw [byteLength_append, byteLength_append]
    omega
  rcases blank_or_exists_spells cs with hgap | ⟨gap, lexeme, rest, reading, rfl, hgap, hlexeme⟩
  · refine ⟨_, cs, [], _, last', (List.append_nil cs).symm, next_of_blank last hgap hsize', ?_⟩
    rw [next_of_blank last' hgap hsize, hplace, ← Span.shift_cover]
    rfl
  · refine ⟨.ofReading (.cover (byteLength (before ++ gap)) lexeme) reading, gap ++ lexeme, rest,
      lexeme.getLast?, lexeme.getLast?, (List.append_assoc gap lexeme rest).symm, ?_, ?_⟩
    · rw [next_of_spells last hgap hlexeme (by simpa using hsize'), List.append_assoc]
    · rw [next_of_spells last' hgap hlexeme (by simpa using hsize), hplace,
        ← Outcome.shift_ofReading, List.append_assoc]

theorem exists_outcomes_shift (n : Nat) {k : Nat} {before before' cs : List Char}
    (last last' : Option Char) (hk : byteLength before' = byteLength before + k)
    (hsize : byteLength (before' ++ cs) ≤ Cursor.sourceLimit) :
    ∃ results, (placed before cs last).outcomes n = .ok results ∧
      (placed before' cs last').outcomes n = .ok (results.map (.shift k)) := by
  induction n generalizing before before' cs last last' with
  | zero => exact ⟨[], rfl, rfl⟩
  | succ n ih =>
      obtain ⟨outcome, front, rest, next, next', rfl, hnext, hnext'⟩ :=
        exists_next_shift last last' hk hsize
      have hk' : byteLength (before' ++ front) = byteLength (before ++ front) + k := by
        rw [byteLength_append, byteLength_append]
        omega
      obtain ⟨later, hlater, hlater'⟩ := ih next next' hk' (by simpa using hsize)
      refine ⟨outcome :: later, ?_, ?_⟩
      · rw [outcomes_succ hnext, hlater]
        rfl
      · rw [outcomes_succ hnext', hlater']
        rfl

theorem relay_placed (plan : List Nat) {before cs : List Char} (last : Option Char)
    (hsize : byteLength (before ++ cs) ≤ Cursor.sourceLimit) :
    (placed before cs last).relay plan = (placed before cs last).outcomes plan.length := by
  induction plan generalizing before cs last with
  | nil => rfl
  | cons hands plan ih =>
      obtain ⟨gap, lexeme, rest, last', outcome, rfl, -, hnext, -, -⟩ := exists_next last hsize
      rw [relay, Function.iterate_fixed (handOver_placed _ _ _), hnext, List.length_cons,
        outcomes_succ hnext]
      change (relay plan _ >>= _) = _
      rw [ih last' (by simpa using hsize)]

theorem exists_outcomes (n : Nat) {rest : List Char}
    (hsize : byteLength rest ≤ Cursor.sourceLimit) :
    ∃ results, (placed [] rest none).outcomes n = .ok results ∧ ∀ outcome ∈ results,
      outcome.span.start ≤ outcome.span.stop ∧ outcome.span.stop.toNat ≤ byteLength rest := by
  rw [← utf8ByteSize_ofList] at hsize
  have hrest : byteLength ([] ++ rest) ≤ Cursor.sourceLimit := by
    rwa [utf8ByteSize_ofList] at hsize
  obtain ⟨calls, hcalls, -, htrail⟩ := exists_trail n none hrest
  refine ⟨calls.map Prod.fst, ?_, ?_⟩
  · rw [outcomes, hcalls]
    rfl
  · intro outcome houtcome
    obtain ⟨call, hcall, rfl⟩ := List.mem_map.mp houtcome
    have hsettled := htrail.settled hsize String.toList_ofList call hcall
    refine ⟨hsettled.ordered, ?_⟩
    rw [← utf8ByteSize_ofList]
    exact hsettled.bounded

/-- A lexer that takes over a cursor reads what the text ahead holds, moved by the end of the
window, whatever else the cursor carries and however often it changes hands on the way. -/
theorem outcomes_ofCursor_eq_shift (s : String) (h : s.utf8ByteSize ≤ Cursor.sourceLimit)
    (c : Cursor) (hc : Session.Reachable s (.cursor c)) (n : Nat) :
    ∃ ahead results, slice? s c.stop.toNat s.utf8ByteSize = some ahead ∧
      (ofSource ahead).outcomes n = .ok results ∧
      (∀ outcome ∈ results, outcome.span.start ≤ outcome.span.stop ∧
        outcome.span.stop.toNat + c.stop.toNat ≤ s.utf8ByteSize) ∧
      (ofCursor c).outcomes n = .ok (results.map (.shift c.stop.toNat)) ∧
      (∀ start window last, (ofCursor { c with start, window, last }).outcomes n =
        .ok (results.map (.shift c.stop.toNat))) ∧
      ∀ plan : List Nat, plan.length = n →
        (ofCursor c).relay plan = .ok (results.map (.shift c.stop.toNat)) := by
  have hstands : c.StandsIn s := hc.standsIn h
  have hslice := hstands.slice?_stop h
  obtain ⟨hs, -⟩ := hstands
  rename_i before window rest last
  have hlength := Cursor.byteLength_le_sourceLimit h hs
  have hend := utf8ByteSize_of_toList hs
  have hrest : byteLength rest ≤ Cursor.sourceLimit := by omega
  have hsource : ofSource (String.ofList rest) = placed [] rest none := by
    rw [ofSource_eq_placed (by rwa [utf8ByteSize_ofList]), String.toList_ofList]
  have hstop : (Cursor.placed before window rest last).stop.toNat = byteLength (before ++ window) :=
    Cursor.toNat_ofNat_byteLength hlength
  obtain ⟨results, houtcomes, hbounds⟩ := exists_outcomes n hrest
  have hshift : ∀ last', (placed (before ++ window) rest last').outcomes n =
      .ok (results.map (.shift (byteLength (before ++ window)))) := by
    intro last'
    have hk : byteLength (before ++ window) = byteLength [] + byteLength (before ++ window) := by
      rw [byteLength_nil, Nat.zero_add]
    obtain ⟨results', hresults, hresults'⟩ := exists_outcomes_shift n none last' hk hlength
    rw [houtcomes, Except.ok.injEq] at hresults
    rw [hresults', hresults]
  refine ⟨String.ofList rest, results, hslice, ?_, ?_, ?_, ?_, ?_⟩
  · rw [hsource, houtcomes]
  · intro outcome houtcome
    obtain ⟨hordered, hbounded⟩ := hbounds outcome houtcome
    exact ⟨hordered, by omega⟩
  · rw [ofCursor_placed, hshift, hstop]
  · intro start window' last'
    rw [hstop, ← hshift last']
    change outcomes n (ofCursor (.placed before window rest last')) = _
    rw [ofCursor_placed]
  · rintro plan rfl
    rw [ofCursor_placed, relay_placed plan last hlength, hshift, hstop]

theorem outcomes_ofCursor_eq_shift_within_name :
    ∃ c, Session.Reachable "aé12 \"x" (.cursor c) ∧ c.content = "aé" ∧
      ∃ ahead results, slice? "aé12 \"x" c.stop.toNat 8 = some ahead ∧
        (ofSource ahead).outcomes 3 = .ok results ∧
        (∀ outcome ∈ results, outcome.span.start ≤ outcome.span.stop ∧
          outcome.span.stop.toNat + c.stop.toNat ≤ 8) ∧
        (ofCursor c).outcomes 3 = .ok (results.map (.shift c.stop.toNat)) ∧
        (∀ start window last, (ofCursor { c with start, window, last }).outcomes 3 =
          .ok (results.map (.shift c.stop.toNat))) ∧
        ∀ plan : List Nat, plan.length = 3 →
          (ofCursor c).relay plan = .ok (results.map (.shift c.stop.toNat)) := by
  let once : Cursor := ⟨"aé12 \"x", 0, 1, ['a'], ['é', '1', '2', ' ', '"', 'x'], some 'a'⟩
  let twice : Cursor := ⟨"aé12 \"x", 0, 3, ['a', 'é'], ['1', '2', ' ', '"', 'x'], some 'é'⟩
  have hfirst : (Cursor.ofSource "aé12 \"x").move .take = .ok (some true, once) := by decide +kernel
  have hsecond : once.move .take = .ok (some true, twice) := by decide +kernel
  have hreachable := Session.Reachable.act (.act .start (Session.act_cursor_move hfirst))
    (Session.act_cursor_move hsecond)
  exact ⟨_, hreachable, by decide, outcomes_ofCursor_eq_shift _ (by decide) _ hreachable 3⟩

end Lexer

end Lexis
