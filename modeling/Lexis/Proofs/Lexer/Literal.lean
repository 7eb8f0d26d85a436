import Mathlib.Tactic.Ring
import Lexis.Proofs.Session.Reachable

namespace Lexis

open Text

namespace Text.Decimal

/-- The number that a row of digits denotes: the first digit counts as often as its place says. -/
def placeValue : List Char → Nat
  | [] => 0
  | d :: digits => (d.toNat - '0'.toNat) * 10 ^ digits.length + placeValue digits

def signedValue (negative : Bool) (digits : List Char) : Int :=
  if negative then -(placeValue digits : Int) else placeValue digits

theorem ofDigitChars_eq_placeValue (n : Nat) (digits : List Char) :
    Nat.ofDigitChars 10 digits n = n * 10 ^ digits.length + placeValue digits := by
  induction digits generalizing n with
  | nil => simp [placeValue]
  | cons d digits ih =>
      -- Read from the left, the digits so far move up one place with every new digit.
      rw [Nat.ofDigitChars_cons, ih, placeValue, List.length_cons, Nat.pow_succ]
      ring

theorem numeralValue_eq_signedValue (negative : Bool) (digits : List Char) :
    numeralValue negative digits = signedValue negative digits := by
  rw [numeralValue, signedValue, ofDigitChars_eq_placeValue, Nat.zero_mul, Nat.zero_add]

end Text.Decimal

/-- A literal at its place in `s` that denotes a number beyond 64 bits. To read it fails for this
reason: it is neither empty nor is anything in it no digit. -/
structure OutOfRange (s : String) (span : Span) (literal : String) : Prop where
  slice_eq : slice? s span.start.toNat span.stop.toNat = some literal
  value : ∃ negative digits, Decimal.IsDigits digits ∧
    literal.toList = Decimal.numeral negative digits ∧
    ¬ Decimal.InRange (Decimal.signedValue negative digits)
  refusal : Decimal.parseInt64 literal.toList = .error .outOfRange

/-- What a call makes of a literal that denotes `n`: the number itself, or, if 64 bits do not hold
it, an error that quotes the literal. -/
structure Denotes (s : String) (literal : String) (n : Int) (outcome : Outcome) : Prop where
  start_eq : outcome.span.start = 0
  slice_eq : slice? s outcome.span.start.toNat outcome.span.stop.toNat = some literal
  integer_iff : (∃ t v, outcome = .ok t ∧ t.kind = .integer ∧ t.value = .integer v ∧
    v.toInt = n) ↔ Decimal.InRange n
  error_of_not : ¬ Decimal.InRange n → ∃ e, outcome = .error e ∧ e.cause = .integerRange literal

theorem Spells.exists_numeral {lexeme : List Char} {next : Option Char} {literal : String}
    (h : Spells lexeme next (.error (.integerRange literal))) :
    ∃ negative digits, Decimal.IsDigits digits ∧ lexeme = Decimal.numeral negative digits ∧
      literal = String.ofList lexeme ∧
      ¬ Decimal.InRange (Decimal.numeralValue negative digits) := by
  cases h with
  | integerRange hdigits _ hrange => exact ⟨_, _, hdigits, rfl, rfl, hrange⟩

namespace Lexer

variable {s : String}

theorem StandsIn.exists_spells_of_error (hsize : s.utf8ByteSize ≤ Cursor.sourceLimit)
    {l l' : Lexer} (h : l.StandsIn s) {e : LexError} (hnext : l.next = .ok (.error e, l')) :
    ∃ front lexeme rest, s.toList = front ++ (lexeme ++ rest) ∧
      e.span = .cover (byteLength front) lexeme ∧ Spells lexeme rest.head? (.error e.cause) := by
  obtain ⟨hs⟩ := h
  rename_i before cs last
  have hlength := Cursor.byteLength_le_sourceLimit hsize hs
  rcases blank_or_exists_spells cs with hgap | ⟨gap, lexeme, rest, reading, rfl, hgap, hlexeme⟩
  · rw [next_of_blank last hgap hlength] at hnext
    cases hnext
  · rw [next_of_spells last hgap hlexeme (by simpa using hlength)] at hnext
    cases reading with
    | ok item => cases hnext
    | error cause =>
        cases hnext
        exact ⟨before ++ gap, lexeme, rest, by simpa using hs, rfl, hlexeme⟩

theorem outOfRange_of_spells (hsize : s.utf8ByteSize ≤ Cursor.sourceLimit)
    {front lexeme rest : List Char} {literal : String}
    (hs : s.toList = front ++ (lexeme ++ rest))
    (h : Spells lexeme rest.head? (.error (.integerRange literal))) :
    OutOfRange s (.cover (byteLength front) lexeme) literal := by
  obtain ⟨negative, digits, hdigits, rfl, rfl, hrange⟩ := h.exists_numeral
  obtain ⟨hstart, hstop⟩ := Span.toNat_cover hsize hs
  refine ⟨?_, ⟨negative, digits, hdigits, String.toList_ofList, ?_⟩, ?_⟩
  · rw [hstart, hstop]
    exact slice?_of_toList_eq hs
  · rwa [← Decimal.numeralValue_eq_signedValue]
  · rw [String.toList_ofList, Decimal.parseInt64_numeral hdigits,
      Decimal.word_of_not_inRange hrange]

theorem exists_next_ofSource {text rest : String} {reading : Except LexError.Cause Item}
    (hsize : (text ++ rest).utf8ByteSize ≤ Cursor.sourceLimit)
    (h : Spells text.toList rest.toList.head? reading) :
    ∃ l', (ofSource (text ++ rest)).next =
      .ok (.ofReading (.cover 0 text.toList) reading, l') := by
  have hblank : Blank [] := by simp [Blank]
  have hlength : byteLength ([] ++ [] ++ text.toList ++ rest.toList) ≤ Cursor.sourceLimit := by
    simpa [byteLength_toList] using hsize
  have hnext := next_of_spells none hblank h hlength
  rw [List.nil_append, List.append_nil, byteLength_nil] at hnext
  rw [ofSource_eq_placed hsize, String.toList_append]
  exact ⟨_, hnext⟩

theorem slice?_cover_append (text rest : String)
    (hsize : (text ++ rest).utf8ByteSize ≤ Cursor.sourceLimit) :
    slice? (text ++ rest) (Span.cover 0 text.toList).start.toNat
      (Span.cover 0 text.toList).stop.toNat = some text := by
  have hs : (text ++ rest).toList = [] ++ (text.toList ++ rest.toList) := String.toList_append
  obtain ⟨hstart, hstop⟩ := Span.toNat_cover hsize hs
  rw [byteLength_nil] at hstart hstop
  rw [hstart, hstop]
  simpa using slice?_of_toList_eq hs

theorem exists_denotes {text rest : String} {negative : Bool} {digits : List Char}
    (hdigits : Decimal.IsDigits digits) (htext : text.toList = Decimal.numeral negative digits)
    (hrest : rest.toList.head?.any Char.isDigit = false)
    (hsize : (text ++ rest).utf8ByteSize ≤ Cursor.sourceLimit) :
    ∃ outcome l', (ofSource (text ++ rest)).next = .ok (outcome, l') ∧
      Denotes (text ++ rest) text (Decimal.signedValue negative digits) outcome := by
  have hslice := slice?_cover_append text rest hsize
  by_cases hrange : Decimal.InRange (Decimal.signedValue negative digits)
  · obtain ⟨n, hn⟩ := Decimal.exists_toInt_eq hrange
    have hvalue := hn.trans (Decimal.numeralValue_eq_signedValue negative digits).symm
    have hspells : Spells text.toList rest.toList.head? (.ok (.integer n)) := by
      rw [htext]
      exact .integer hdigits hrest hvalue
    obtain ⟨l', hnext⟩ := exists_next_ofSource hsize hspells
    exact ⟨_, l', hnext, rfl, hslice, ⟨fun _ => hrange, fun _ => ⟨_, n, rfl, rfl, rfl, hn⟩⟩,
      fun hout => absurd hrange hout⟩
  · have hvalue : ¬ Decimal.InRange (Decimal.numeralValue negative digits) := by
      rwa [Decimal.numeralValue_eq_signedValue]
    have hliteral : text = String.ofList (Decimal.numeral negative digits) := by
      rw [← htext, String.ofList_toList]
    have hspells : Spells text.toList rest.toList.head? (.error (.integerRange text)) := by
      rw [htext, hliteral]
      exact .integerRange hdigits hrest hvalue
    obtain ⟨l', hnext⟩ := exists_next_ofSource hsize hspells
    refine ⟨_, l', hnext, rfl, hslice, ⟨?_, fun hin => absurd hin hrange⟩,
      fun _ => ⟨_, rfl, rfl⟩⟩
    rintro ⟨t, v, hfalse, -⟩
    contradiction

end Lexer

theorem Session.Reachable.clip {s : String} {subject : Subject} (h : Reachable s subject) :
    Reachable (clip Cursor.sourceLimit s) subject := by
  induction h with
  | start =>
      have hstart : Cursor.ofSource s = Cursor.ofSource (Text.clip Cursor.sourceLimit s) := by
        simp only [Cursor.ofSource, clip_eq_self (utf8ByteSize_clip_le Cursor.sourceLimit s)]
      rw [hstart]
      exact .start
  | act _ hact ih => exact .act ih hact

/-- A signed row of digits with no digit behind it is read as the number it denotes if that lies
between the least and the greatest 64-bit integer, and as an error otherwise; and this error, in
whatever run it comes up, stands for such a literal. -/
theorem literal_denotes_value :
    (∀ (text rest : String) (negative : Bool) (digits : List Char), Decimal.IsDigits digits →
      text.toList = Decimal.numeral negative digits →
      rest.toList.head?.any Char.isDigit = false →
      (text ++ rest).utf8ByteSize ≤ Cursor.sourceLimit →
      ∃ outcome l', (Lexer.ofSource (text ++ rest)).next = .ok (outcome, l') ∧
        Denotes (text ++ rest) text (Decimal.signedValue negative digits) outcome) ∧
    ∀ (s : String) (subject : Subject) (l l' : Lexer) (e : LexError) (literal : String),
      Session.Reachable s subject → subject.innerLexer? = some l →
      l.next = .ok (.error e, l') → e.cause = .integerRange literal →
      OutOfRange (clip Cursor.sourceLimit s) e.span literal := by
  constructor
  · intro text rest negative digits hdigits htext hrest hsize
    exact Lexer.exists_denotes hdigits htext hrest hsize
  · intro s subject l l' e literal hreach hl hnext hcause
    have hsize := utf8ByteSize_clip_le Cursor.sourceLimit s
    have hstands := (hreach.clip.standsIn hsize).innerLexer hl
    obtain ⟨front, lexeme, rest, hs, hspan, hspells⟩ := hstands.exists_spells_of_error hsize hnext
    rw [hcause] at hspells
    rw [hspan]
    exact Lexer.outOfRange_of_spells hsize hs hspells

theorem literal_denotes_value_at_limits :
    (∃ outcome l', (Lexer.ofSource ("-09223372036854775808" ++ "é")).next = .ok (outcome, l') ∧
      Denotes ("-09223372036854775808" ++ "é") "-09223372036854775808" (-9223372036854775808)
        outcome) ∧
    (∃ outcome l', (Lexer.ofSource ("9223372036854775808" ++ "-1")).next = .ok (outcome, l') ∧
      Denotes ("9223372036854775808" ++ "-1") "9223372036854775808" 9223372036854775808 outcome) ∧
    ∃ l l', Session.Reachable "x 9223372036854775808" (.lexer l) ∧
      l.next = .ok (.error ⟨⟨2, 21⟩, .integerRange "9223372036854775808"⟩, l') ∧
      OutOfRange (clip Cursor.sourceLimit "x 9223372036854775808") ⟨2, 21⟩
        "9223372036854775808" := by
  have hleast : Decimal.IsDigits "09223372036854775808".toList :=
    ⟨by decide, List.all_eq_true.mp (by decide +kernel)⟩
  have hmore : Decimal.IsDigits "9223372036854775808".toList :=
    ⟨by decide, List.all_eq_true.mp (by decide +kernel)⟩
  have hvalue : Decimal.signedValue true "09223372036854775808".toList = -9223372036854775808 := by
    decide
  have hvalue' : Decimal.signedValue false "9223372036854775808".toList = 9223372036854775808 := by
    decide
  let behind : Lexer := ⟨⟨"x 9223372036854775808", 1, 1, [], " 9223372036854775808".toList,
    some 'x'⟩⟩
  have hname : (Lexer.ofSource "x 9223372036854775808").next =
      .ok (.ok ⟨⟨0, 1⟩, .identifier "x"⟩, behind) := by
    decide +kernel
  have hconvert : Session.act (.cursor (.ofSource "x 9223372036854775808")) .toLexer =
      some (.ok (.silent, .lexer (.ofSource "x 9223372036854775808"))) := rfl
  have hreach := (Session.Reachable.start.act hconvert).act (Session.act_lexer_next hname)
  have hnext : behind.next = .ok (.error ⟨⟨2, 21⟩, .integerRange "9223372036854775808"⟩,
      ⟨⟨"x 9223372036854775808", 21, 21, [], [], some '8'⟩⟩) := by
    decide +kernel
  refine ⟨?_, ?_, behind, _, hreach, hnext, ?_⟩
  · rw [← hvalue]
    exact literal_denotes_value.1 _ _ true _ hleast (by decide) (by decide) (by decide)
  · rw [← hvalue']
    exact literal_denotes_value.1 _ _ false _ hmore (by decide) (by decide) (by decide)
  · exact literal_denotes_value.2 _ _ behind _ _ _ hreach rfl hnext rfl

end Lexis
