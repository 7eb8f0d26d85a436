import Lexis.Listing
import Lexis.Proofs.Session.Reachable
import Lexis.Proofs.TokenStream.Agreement

/-!
Reading gets on and comes to an end. A call passes at least one character that is not whitespace,
also when it ends in an error, or there is none ahead and the call is the end of file, which no
later call leaves again. So the number of visible characters ahead bounds the calls up to the end of
file, and with them the rounds of every loop over a lexer or a stream.
-/

namespace Lexis

open Text

/-- The number of characters that are not whitespace. -/
def visible (cs : List Char) : Nat :=
  cs.countP fun c => !isWhitespace c

theorem visible_append (cs cs' : List Char) : visible (cs ++ cs') = visible cs + visible cs' :=
  List.countP_append

theorem visible_le_length (cs : List Char) : visible cs ≤ cs.length :=
  List.countP_le_length

theorem visible_eq_zero_iff {cs : List Char} : visible cs = 0 ↔ Blank cs := by
  simp [visible, Blank, List.countP_eq_zero]

theorem Spells.visible_pos {lexeme : List Char} {next : Option Char}
    {reading : Except LexError.Cause Item} (h : Spells lexeme next reading) :
    0 < visible lexeme := by
  obtain ⟨first, more, rfl, hfirst⟩ := h.exists_cons
  rw [visible, List.countP_pos_iff]
  exact ⟨first, List.mem_cons_self, by simp [hfirst]⟩

/-- The end of file, at the end of `s`. -/
structure Token.EndsFile (s : String) (t : Token) : Prop where
  kind_eq : t.kind = .endOfFile
  value_eq : t.value = .null
  start_eq : t.span.start.toNat = s.utf8ByteSize
  stop_eq : t.span.stop.toNat = s.utf8ByteSize

namespace Lexer

/-- A call with `ahead` in front of it: it is the end of file and remains so, or it passes a visible
character. From here on there are no more calls to the end of file than visible characters ahead,
and one for the end of file itself. -/
structure GetsOn (s : String) (l : Lexer) (ahead : String) (outcome : Outcome) (l' : Lexer) :
    Prop where
  ahead_eq : slice? s l.cursor.stop.toNat s.utf8ByteSize = some ahead
  next_eq : l.next = .ok (outcome, l')
  endOfFile_iff : outcome.isEndOfFile = true ↔ Blank ahead.toList
  endsFile : outcome.isEndOfFile = true → ∃ t, outcome = .ok t ∧ t.EndsFile s
  absorbs : outcome.isEndOfFile = true →
    ∀ n, l'.calls n = .ok (List.replicate n (outcome, l'))
  passes : outcome.isEndOfFile = false → ∃ passed,
    slice? s l.cursor.stop.toNat l'.cursor.stop.toNat = some passed ∧ 0 < visible passed.toList
  ends : ∃ n ≤ visible ahead.toList, ∃ front last, l.calls (n + 1) = .ok (front ++ [last]) ∧
    (∀ call ∈ front, call.1.isEndOfFile = false) ∧ last.1.isEndOfFile = true

variable {s : String} {l l' : Lexer} {outcome : Outcome}

theorem calls_succ (h : l.next = .ok (outcome, l')) (n : Nat) : l.calls (n + 1) = do
    let later ← l'.calls n
    return (outcome, l') :: later := by
  rw [calls, h]
  rfl

theorem calls_of_next_eq_self (h : l.next = .ok (outcome, l)) (n : Nat) :
    l.calls n = .ok (List.replicate n (outcome, l)) := by
  induction n with
  | zero => rfl
  | succ n ih =>
      rw [calls_succ h, ih, List.replicate_succ]
      rfl

theorem toNat_stop_placed {before rest : List Char} (last : Option Char)
    (h : byteLength (before ++ rest) ≤ Cursor.sourceLimit) :
    (placed before rest last).cursor.stop.toNat = byteLength before := by
  rw [placed, Cursor.placed, List.append_nil]
  exact Cursor.toNat_ofNat_byteLength h

theorem StandsIn.next_cases (hsize : s.utf8ByteSize ≤ Cursor.sourceLimit) (h : l.StandsIn s) :
    (Blank l.cursor.rest ∧ ∃ t l', t.EndsFile s ∧ l.next = .ok (.ok t, l') ∧
      l'.next = .ok (.ok t, l')) ∨
    ∃ outcome l' passed, l.next = .ok (outcome, l') ∧ outcome.isEndOfFile = false ∧
      l.cursor.rest = passed ++ l'.cursor.rest ∧ 0 < visible passed ∧
      slice? s l.cursor.stop.toNat l'.cursor.stop.toNat = some (String.ofList passed) := by
  obtain ⟨hs⟩ := h
  rename_i before cs last
  have hlength := Cursor.byteLength_le_sourceLimit hsize hs
  rcases blank_or_exists_spells cs with hgap | ⟨gap, lexeme, rest, reading, rfl, hgap, hlexeme⟩
  · -- The call goes to the end of the text, and from there a call goes nowhere.
    left
    have hend : s.toList = before ++ cs ++ ([] ++ []) := by simpa using hs
    have hstay : byteLength (before ++ cs ++ []) ≤ Cursor.sourceLimit := by simpa using hlength
    obtain ⟨hstart, hstop⟩ := Span.toNat_cover hsize hend
    have hagain := next_of_blank last (show Blank [] by simp [Blank]) hstay
    rw [List.append_nil] at hagain
    refine ⟨hgap, _, _, ⟨rfl, rfl, ?_, ?_⟩, next_of_blank last hgap hlength, hagain⟩
    · rw [hstart, ← hs, byteLength_toList]
    · rw [hstop, ← hs, byteLength_toList, byteLength_nil, Nat.add_zero]
  · right
    have hpassed : s.toList = before ++ (gap ++ lexeme ++ rest) := by simpa using hs
    have hstop := toNat_stop_placed last hlength
    have hstop' := toNat_stop_placed lexeme.getLast?
      (show byteLength (before ++ (gap ++ lexeme) ++ rest) ≤ Cursor.sourceLimit by
        simpa using hlength)
    refine ⟨_, _, gap ++ lexeme, next_of_spells last hgap hlexeme (by simpa using hlength),
      ?_, ?_, ?_, ?_⟩
    · cases reading with
      | error cause => rfl
      | ok item => exact Token.isEndOfFile_eq_false hlexeme.item_ne_endOfFile
    · simp [placed]
    · rw [visible_append]
      exact Nat.lt_of_lt_of_le hlexeme.visible_pos (Nat.le_add_left _ _)
    · rw [List.append_assoc, hstop, hstop', byteLength_append]
      exact slice?_of_toList_eq hpassed

theorem StandsIn.visible_lt (hsize : s.utf8ByteSize ≤ Cursor.sourceLimit) (h : l.StandsIn s)
    (hnext : l.next = .ok (outcome, l')) (hfile : outcome.isEndOfFile = false) :
    visible l'.cursor.rest < visible l.cursor.rest := by
  obtain ⟨-, t, end', ht, hend, -⟩ | ⟨outcome', l'', passed, hpass, -, hrest, hpos, -⟩ :=
    h.next_cases hsize
  · rw [hend, Except.ok.injEq] at hnext
    obtain ⟨rfl, -⟩ := Prod.mk.inj hnext
    have hfile : (t.kind == .endOfFile) = false := hfile
    rw [ht.kind_eq] at hfile
    contradiction
  · rw [hpass, Except.ok.injEq] at hnext
    obtain ⟨-, rfl⟩ := Prod.mk.inj hnext
    rw [hrest, visible_append]
    omega

theorem StandsIn.exists_calls (hsize : s.utf8ByteSize ≤ Cursor.sourceLimit) (h : l.StandsIn s) :
    ∃ n ≤ visible l.cursor.rest, ∃ front last, l.calls (n + 1) = .ok (front ++ [last]) ∧
      (∀ call ∈ front, call.1.isEndOfFile = false) ∧ last.1.isEndOfFile = true := by
  induction hcount : visible l.cursor.rest using Nat.strong_induction_on generalizing l with
  | _ count ih =>
      subst hcount
      obtain ⟨outcome, l', hnext, hl'⟩ := h.next hsize
      cases hfile : outcome.isEndOfFile with
      | true =>
          refine ⟨0, Nat.zero_le _, [], (outcome, l'), ?_, by simp, hfile⟩
          rw [calls_succ hnext]
          rfl
      | false =>
          have hlt := h.visible_lt hsize hnext hfile
          obtain ⟨n, hn, front, last, hcalls, hfront, hlast⟩ := ih _ hlt hl' rfl
          refine ⟨n + 1, by omega, (outcome, l') :: front, last, ?_, ?_, hlast⟩
          · rw [calls_succ hnext, hcalls]
            rfl
          · simpa [hfile] using hfront

theorem StandsIn.getsOn (hsize : s.utf8ByteSize ≤ Cursor.sourceLimit) (h : l.StandsIn s) :
    ∃ ahead outcome l', l.GetsOn s ahead outcome l' := by
  have hahead := h.cursor.slice?_stop hsize
  have hends := h.exists_calls hsize
  obtain ⟨hblank, t, l', ht, hnext, hagain⟩ | ⟨outcome, l', passed, hnext, hfile, hrest, hpos,
    hpassed⟩ := h.next_cases hsize
  · have hfile : Outcome.isEndOfFile (.ok t) = true := beq_iff_eq.mpr ht.kind_eq
    refine ⟨_, .ok t, l', hahead, hnext, ?_, fun _ => ⟨t, rfl, ht⟩,
      fun _ => calls_of_next_eq_self hagain, ?_, ?_⟩
    · simpa [hfile] using hblank
    · simp [hfile]
    · simpa using hends
  · refine ⟨_, outcome, l', hahead, hnext, ?_, by simp [hfile], by simp [hfile], ?_, ?_⟩
    · have hvisible : ¬ Blank l.cursor.rest := by
        rw [← visible_eq_zero_iff, hrest, visible_append]
        omega
      simpa [hfile] using hvisible
    · intro _
      exact ⟨_, hpassed, by simpa using hpos⟩
    · simpa using hends

end Lexer

/-- The result of a loop that repeats `round`, if it comes to one within `n` rounds. -/
def rounds {σ ρ : Type} (round : σ → ρ ⊕ σ) : Nat → σ → Option ρ
  | 0, _ => none
  | n + 1, x =>
      match round x with
      | .inl result => some result
      | .inr x' => rounds round n x'

/-- If every round makes a measure smaller, the loop ends, and its result is that of the function
which the rounds unfold. -/
theorem rounds_eq_some {σ ρ : Type} {round : σ → ρ ⊕ σ} {f : σ → ρ} (Keeps : σ → Prop)
    (measure : σ → Nat) (hf : ∀ x, f x = Sum.elim id f (round x))
    (hround : ∀ x x', Keeps x → round x = .inr x' → Keeps x' ∧ measure x' < measure x)
    {n : Nat} {x : σ} (hx : Keeps x) (hn : measure x < n) : rounds round n x = some (f x) := by
  induction n generalizing x with
  | zero => omega
  | succ n ih =>
      rw [rounds, hf x]
      cases hx' : round x with
      | inl result => rfl
      | inr x' =>
          obtain ⟨hkeeps, hless⟩ := hround x x' hx hx'
          exact ih hkeeps (by omega)

namespace Lexer

variable {α : Type} {add : Token → α → Checked α}

/-- One round of a loop that reads a token and adds it to what it has built. An error ends the loop,
and so does the end of file once it is added. -/
def round (add : Token → α → Checked α) (x : Lexer × α) :
    Checked (Except LexError α) ⊕ (Lexer × α) :=
  match x.1.next with
  | .error fault => .inl (.error fault)
  | .ok (.error e, _) => .inl (.ok (.error e))
  | .ok (.ok t, l) =>
      match add t x.2 with
      | .error fault => .inl (.error fault)
      | .ok built => if t.isEndOfFile then .inl (.ok (.ok built)) else .inr (l, built)

def push (t : Token) (ts : List Token) : Checked (List Token) :=
  return ts ++ [t]

theorem next_of_round_eq_inr {x x' : Lexer × α} (h : round add x = .inr x') :
    ∃ t, x.1.next = .ok (.ok t, x'.1) ∧ t.isEndOfFile = false := by
  unfold round at h
  split at h
  · contradiction
  · contradiction
  · rename_i t l' hnext
    split at h
    · contradiction
    · split at h
      · contradiction
      · rename_i hfile
        cases h
        exact ⟨t, hnext, by simpa using hfile⟩

/-- To unfold `collect`, which holds its tokens latest first, is one round. -/
theorem collect_eq_round (l : Lexer) (ts : List Token) :
    l.collect ts.reverse = Sum.elim id (fun x => x.1.collect x.2.reverse) (round push (l, ts)) := by
  unfold round
  split
  · rename_i fault hnext
    rw [collect]
    split <;> simp_all
  · rename_i e l' hnext
    exact collect_of_error hnext _
  · rename_i t l' hnext
    cases hfile : t.isEndOfFile with
    | true =>
        rw [collect_of_endOfFile hnext hfile, List.reverse_reverse]
        rfl
    | false =>
        rw [collect_of_token hnext hfile]
        change _ = Lexer.collect l' (ts ++ [t]).reverse
        rw [List.reverse_append]
        rfl

theorem StandsIn.rounds_eq_some {s : String} (hsize : s.utf8ByteSize ≤ Cursor.sourceLimit)
    {f : Lexer × α → Checked (Except LexError α)}
    (hf : ∀ x, f x = Sum.elim id f (round add x)) {l : Lexer} (h : l.StandsIn s) (built : α)
    {n : Nat} (hn : visible l.cursor.rest < n) :
    rounds (round add) n (l, built) = some (f (l, built)) := by
  apply Lexis.rounds_eq_some (fun x => x.1.StandsIn s) (fun x => visible x.1.cursor.rest) hf
  · intro x x' hx hx'
    obtain ⟨t, hnext, hfile⟩ := next_of_round_eq_inr hx'
    exact ⟨hx.of_next_eq_ok hsize hnext, hx.visible_lt hsize hnext hfile⟩
  · exact h
  · exact hn

end Lexer

namespace Listing

def addRow (lines : LineTable) (source : String) (t : Token) (rows : String) :
    Checked String := do
  let p ← lines.position source t.span.start
  return rows ++ row p t

theorem collect_eq_round (lines : LineTable) (source : String) (l : Lexer) (rows : String) :
    collect lines source l rows =
      Sum.elim id (fun x => collect lines source x.1 x.2)
        (Lexer.round (addRow lines source) (l, rows)) := by
  rw [collect]
  unfold Lexer.round
  split
  · rename_i fault hnext
    simp [hnext]
  · rename_i e l' hnext
    simp [hnext]
  · rename_i t l' hnext
    simp only [hnext, addRow]
    cases lines.position source t.span.start with
    | error fault => rfl
    | ok p => cases t.isEndOfFile <;> rfl

end Listing

namespace TokenStream

/-- One round of a loop that takes the elements of a stream. -/
def round (x : TokenStream × List Outcome) :
    Checked (List Outcome) ⊕ (TokenStream × List Outcome) :=
  match x.1.next with
  | .error fault => .inl (.error fault)
  | .ok (none, _) => .inl (.ok x.2)
  | .ok (some outcome, t) => .inr (t, x.2 ++ [outcome])

theorem Yields.rounds_eq_some {t : TokenStream} {items : List Outcome} (h : t.Yields items)
    (seen : List Outcome) {n : Nat} (hn : items.length < n) :
    rounds round n (t, seen) = some (.ok (seen ++ items)) := by
  induction h generalizing seen n with
  | done hnext _ =>
      obtain ⟨n, rfl⟩ := Nat.exists_eq_add_one.mpr hn
      rw [rounds, round, hnext, List.append_nil]
  | item hnext _ ih =>
      rename_i t t' outcome items hitems
      obtain ⟨n, rfl⟩ := Nat.exists_eq_add_one.mpr (Nat.zero_lt_of_lt hn)
      rw [rounds, round, hnext]
      change rounds round n (t', seen ++ [outcome]) = _
      rw [ih (seen ++ [outcome]) (Nat.lt_of_succ_lt_succ hn), List.append_assoc]
      rfl

/-- The visible characters that a stream has yet to go through: none once it is over. -/
def pending (t : TokenStream) : Nat :=
  if t.finished then 0 else visible t.lexer.cursor.rest

variable {s : String}

theorem pending_lt (hsize : s.utf8ByteSize ≤ Cursor.sourceLimit) {t t' : TokenStream}
    (h : t.lexer.StandsIn s) {outcome : Outcome} (hnext : t.next = .ok (some outcome, t')) :
    t'.pending < t.pending := by
  obtain ⟨l, finished⟩ := t
  cases finished with
  | true => cases hnext
  | false =>
      obtain ⟨outcome', l', hread, -⟩ := Lexer.StandsIn.next hsize h
      have hlt := Lexer.StandsIn.visible_lt hsize h hread
      cases outcome' with
      | error e =>
          rw [← ofLexer, next_of_error hread] at hnext
          cases hnext
          exact Nat.zero_lt_of_lt (hlt rfl)
      | ok token =>
          cases hfile : token.isEndOfFile with
          | true =>
              rw [← ofLexer, next_of_endOfFile hread hfile] at hnext
              cases hnext
          | false =>
              rw [← ofLexer, next_of_token hread hfile] at hnext
              cases hnext
              exact hlt hfile

theorem Yields.length_le (hsize : s.utf8ByteSize ≤ Cursor.sourceLimit) {t : TokenStream}
    {items : List Outcome} (h : t.Yields items) (hstands : t.lexer.StandsIn s) :
    items.length ≤ t.pending := by
  induction h with
  | done hnext _ => exact Nat.zero_le _
  | item hnext _ ih =>
      have hlt := pending_lt hsize hstands hnext
      have hle := ih (standsIn_of_next_eq_ok hsize hstands hnext)
      rw [List.length_cons]
      omega

end TokenStream

theorem Lexer.ofSource_clip (s : String) :
    ofSource (clip Cursor.sourceLimit s) = ofSource s := by
  rw [ofSource, Cursor.ofSource, clip_eq_self (utf8ByteSize_clip_le _ s)]
  rfl

/-- From every lexer that work on a source leads to, reading gets on to the end of file and stays
there. The loops over a whole text, be it past the limit or not, end within one round more than it
has visible characters: the one behind `lex`, the one behind `listing`, and one that takes all
elements of a stream. -/
theorem reading_ends (s : String) :
    (s.utf8ByteSize ≤ Cursor.sourceLimit → ∀ subject l, Session.Reachable s subject →
      subject.innerLexer? = some l → ∃ ahead outcome l', l.GetsOn s ahead outcome l') ∧
    (∃ result, lex s = .ok result ∧
      rounds (Lexer.round Lexer.push) (visible s.toList + 1) (.ofSource s, []) =
        some (.ok result)) ∧
    rounds (Lexer.round (Listing.addRow (.ofText s) s)) (visible s.toList + 1) (.ofSource s, "") =
      some (listing s) ∧
    ∃ items, (TokenStream.ofSource s).toList = .ok items ∧
      rounds TokenStream.round (visible s.toList + 1) (.ofSource s, []) = some (.ok items) := by
  have hsize := utf8ByteSize_clip_le Cursor.sourceLimit s
  have hstands : (Lexer.ofSource s).StandsIn (clip Cursor.sourceLimit s) :=
    Lexer.ofSource_clip s ▸ (Cursor.standsIn_ofSource hsize).ofCursor
  have hrest : visible (Lexer.ofSource s).cursor.rest ≤ visible s.toList := by
    obtain ⟨cut, hcut⟩ := exists_toList_eq_clip_append Cursor.sourceLimit s
    rw [hcut, visible_append]
    exact Nat.le_add_right _ _
  obtain ⟨us, result, hlex, -, -, hyields⟩ := exists_lex_yields hsize
  rw [lex, Lexer.ofSource_clip] at hlex
  rw [TokenStream.ofSource, Lexer.ofSource_clip] at hyields
  have hitems : (shown us result).length ≤ visible (Lexer.ofSource s).cursor.rest :=
    hyields.length_le hsize hstands
  refine ⟨?_, ⟨result, hlex, ?_⟩, ?_, shown us result, ?_, ?_⟩
  · intro h subject l hsubject hl
    exact ((hsubject.standsIn h).innerLexer hl).getsOn h
  · rw [← hlex]
    exact hstands.rounds_eq_some hsize (fun x => Lexer.collect_eq_round x.1 x.2) []
      (Nat.lt_succ_of_le hrest)
  · exact hstands.rounds_eq_some hsize (fun x => Listing.collect_eq_round _ s x.1 x.2) ""
      (Nat.lt_succ_of_le hrest)
  · have hlength := visible_le_length (Lexer.ofSource s).cursor.rest
    change (TokenStream.ofLexer (.ofSource s)).take (Lexer.ofSource s).cursor.rest.length = _
    rw [hyields.take, List.take_of_length_le (by omega)]
  · exact hyields.rounds_eq_some [] (by omega)

theorem reading_ends_after_open_string :
    ∃ l, Session.Reachable "\"é\n+ " (.lexer l) ∧ l.cursor.stop = 3 ∧
      "\"é\n+ ".utf8ByteSize ≤ Cursor.sourceLimit ∧
      ∃ ahead outcome l', l.GetsOn "\"é\n+ " ahead outcome l' := by
  let behind : Lexer := ⟨⟨"\"é\n+ ", 3, 3, [], ['\n', '+', ' '], some 'é'⟩⟩
  have hconvert : Session.act (.cursor (.ofSource "\"é\n+ ")) .toLexer =
      some (.ok (.silent, .lexer (.ofSource "\"é\n+ "))) := rfl
  have hnext : (Lexer.ofSource "\"é\n+ ").next =
      .ok (.error ⟨⟨0, 3⟩, .lineBreak⟩, behind) := by
    decide +kernel
  have hreach := (Session.Reachable.start.act hconvert).act (Session.act_lexer_next hnext)
  exact ⟨behind, hreach, rfl, by decide,
    (reading_ends "\"é\n+ ").1 (by decide) _ behind hreach rfl⟩

end Lexis
