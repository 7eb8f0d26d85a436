import Lexis.Proofs.Lexer.MaximalMunch

namespace Lexis

open Text

namespace Outcome

def span : Outcome → Span
  | .ok t => t.span
  | .error e => e.span

def isEndOfFile : Outcome → Bool
  | .ok t => t.isEndOfFile
  | .error _ => false

@[simp] theorem span_ofReading (span : Span) (reading : Except LexError.Cause Item) :
    (ofReading span reading).span = span := by
  cases reading <;> rfl

end Outcome

namespace Lexer

/-- The outcomes of `n` calls in a row, each with the lexer that it leaves. -/
def calls : Nat → Lexer → Checked (List (Outcome × Lexer))
  | 0, _ => return []
  | n + 1, l => do
      let (outcome, l) ← l.next
      let later ← l.calls n
      return (outcome, l) :: later

/-- The calls go through the text ahead in steps of a gap and a lexeme. Only the end of file has an
empty lexeme. -/
inductive Trail : List Char → List Char → List (Outcome × Lexer) → Prop where
  | nil {before rest : List Char} : Trail before rest []
  | cons {before gap lexeme rest : List Char} {last : Option Char} {outcome : Outcome}
      {later : List (Outcome × Lexer)} (hgap : Blank gap)
      (hspan : outcome.span = .cover (byteLength (before ++ gap)) lexeme)
      (hlexeme : outcome.isEndOfFile = false → lexeme ≠ [])
      (hlater : Trail (before ++ gap ++ lexeme) rest later) :
      Trail before (gap ++ (lexeme ++ rest))
        ((outcome, placed (before ++ gap ++ lexeme) rest last) :: later)

theorem exists_next {before cs : List Char} (last : Option Char)
    (h : byteLength (before ++ cs) ≤ Cursor.sourceLimit) :
    ∃ gap lexeme rest last' outcome, cs = gap ++ (lexeme ++ rest) ∧ Blank gap ∧
      (placed before cs last).next =
        .ok (outcome, placed (before ++ gap ++ lexeme) rest last') ∧
      outcome.span = .cover (byteLength (before ++ gap)) lexeme ∧
      (outcome.isEndOfFile = false → lexeme ≠ []) := by
  rcases blank_or_exists_spells cs with hgap | ⟨gap, lexeme, rest, reading, rfl, hgap, hlexeme⟩
  · refine ⟨cs, [], [], last, .ok ⟨.cover (byteLength (before ++ cs)) [], .endOfFile⟩, by simp,
      hgap, ?_, rfl, ?_⟩
    · rw [next_of_blank last hgap h, List.append_nil]
    · intro hfalse
      contradiction
  · exact ⟨gap, lexeme, rest, _, _, rfl, hgap,
      next_of_spells last hgap hlexeme (by simpa using h), by simp, fun _ => hlexeme.ne_nil⟩

theorem exists_trail (n : Nat) {before cs : List Char} (last : Option Char)
    (h : byteLength (before ++ cs) ≤ Cursor.sourceLimit) :
    ∃ results, (placed before cs last).calls n = .ok results ∧ results.length = n ∧
      Trail before cs results := by
  induction n generalizing before cs last with
  | zero => exact ⟨[], rfl, rfl, .nil⟩
  | succ n ih =>
      obtain ⟨gap, lexeme, rest, last', outcome, rfl, hgap, hnext, hspan, hlexeme⟩ :=
        exists_next last h
      have hsize : byteLength (before ++ gap ++ lexeme ++ rest) ≤ Cursor.sourceLimit := by
        simpa using h
      obtain ⟨later, hcalls, hlength, htrail⟩ := ih last' hsize
      refine ⟨(outcome, placed (before ++ gap ++ lexeme) rest last') :: later, ?_, ?_,
        .cons hgap hspan hlexeme htrail⟩
      · rw [calls, hnext]
        change (calls n _ >>= _) = _
        rw [hcalls]
        rfl
      · rw [List.length_cons, hlength]

end Lexer

/-- A call on `s` whose span is a stretch of `s`, and which left the window empty behind it. -/
structure Settled (s : String) (call : Outcome × Lexer) : Prop where
  ordered : call.1.span.start ≤ call.1.span.stop
  bounded : call.1.span.stop.toNat ≤ s.utf8ByteSize
  start_valid : String.Pos.Raw.IsValid s ⟨call.1.span.start.toNat⟩
  stop_valid : String.Pos.Raw.IsValid s ⟨call.1.span.stop.toNat⟩
  nonempty : call.1.isEndOfFile = false → call.1.span.start < call.1.span.stop
  window_start : call.2.cursor.start = call.1.span.stop
  window_stop : call.2.cursor.stop = call.1.span.stop
  window_empty : call.2.cursor.content = ""

/-- Only whitespace lies in front of each span, back to offset `a` or to the span before it. -/
def BlankGaps (s : String) : Nat → List Span → Prop
  | _, [] => True
  | a, span :: spans => BlankBetween s a span.start.toNat ∧ BlankGaps s span.stop.toNat spans

/-- The gaps and the lexemes that the spans cut out of `s` from offset `a` on, in turn. -/
def cuts (s : String) : Nat → List Span → List (Option String)
  | _, [] => []
  | a, span :: spans =>
      slice? s a span.start.toNat :: slice? s span.start.toNat span.stop.toNat ::
        cuts s span.stop.toNat spans

/-- Where the cursor stands after the calls, if it stood at offset `a` before. -/
def reached : Nat → List (Outcome × Lexer) → Nat
  | a, [] => a
  | _, call :: later => reached call.2.cursor.stop.toNat later

namespace Lexer

variable {s : String} {before cs : List Char} {results : List (Outcome × Lexer)}

theorem settled_placed (hsize : s.utf8ByteSize ≤ Cursor.sourceLimit) {lexeme rest : List Char}
    {outcome : Outcome} (hs : s.toList = before ++ (lexeme ++ rest))
    (hspan : outcome.span = .cover (byteLength before) lexeme)
    (hlexeme : outcome.isEndOfFile = false → lexeme ≠ []) (last : Option Char) :
    Settled s (outcome, placed (before ++ lexeme) rest last) := by
  obtain ⟨hstart, hstop⟩ := Span.toNat_cover hsize hs
  rw [← hspan] at hstart hstop
  have hslice := slice?_of_toList_eq hs
  rw [← hstop, ← hstart] at hslice
  have hlength : s.utf8ByteSize = byteLength before + byteLength lexeme + byteLength rest := by
    rw [← byteLength_toList, hs]
    simp only [byteLength_append]
    omega
  have hwindow : UInt32.ofNat (byteLength (before ++ lexeme)) = outcome.span.stop := by
    rw [byteLength_append, ← hstop, UInt32.ofNat_toNat]
  refine ⟨?_, ?_, (isValid_of_slice?_eq_some hslice).1, (isValid_of_slice?_eq_some hslice).2, ?_,
    hwindow, ?_, rfl⟩
  · rw [UInt32.le_iff_toNat_le]
    change outcome.span.start.toNat ≤ outcome.span.stop.toNat
    omega
  · change outcome.span.stop.toNat ≤ s.utf8ByteSize
    omega
  · intro hfile
    have hpos : byteLength lexeme ≠ 0 := fun hzero => hlexeme hfile (byteLength_eq_zero.mp hzero)
    rw [UInt32.lt_iff_toNat_lt]
    change outcome.span.start.toNat < outcome.span.stop.toNat
    omega
  · change UInt32.ofNat (byteLength (before ++ lexeme ++ [])) = outcome.span.stop
    rw [List.append_nil, hwindow]

theorem Trail.settled (hsize : s.utf8ByteSize ≤ Cursor.sourceLimit)
    (h : Trail before cs results) (hs : s.toList = before ++ cs) :
    ∀ call ∈ results, Settled s call := by
  induction h with
  | nil => simp
  | cons hgap hspan hlexeme hlater ih =>
      intro call hcall
      rcases List.mem_cons.mp hcall with rfl | hcall
      · exact settled_placed hsize (by simpa using hs) hspan hlexeme _
      · exact ih (by simpa using hs) call hcall

theorem Trail.byteLength_le_start (hsize : s.utf8ByteSize ≤ Cursor.sourceLimit)
    (h : Trail before cs results) (hs : s.toList = before ++ cs) :
    ∀ call ∈ results, byteLength before ≤ call.1.span.start.toNat := by
  induction h with
  | nil => simp
  | cons hgap hspan hlexeme hlater ih =>
      rename_i before gap lexeme rest last outcome later
      have hs' : s.toList = before ++ gap ++ (lexeme ++ rest) := by simpa using hs
      intro call hcall
      rcases List.mem_cons.mp hcall with rfl | hcall
      · change byteLength before ≤ outcome.span.start.toNat
        rw [hspan, (Span.toNat_cover hsize hs').1, byteLength_append]
        omega
      · have hle := ih (by simpa using hs) call hcall
        simp only [byteLength_append] at hle
        omega

theorem Trail.pairwise (hsize : s.utf8ByteSize ≤ Cursor.sourceLimit)
    (h : Trail before cs results) (hs : s.toList = before ++ cs) :
    results.Pairwise fun a b => a.1.span.stop ≤ b.1.span.start := by
  induction h with
  | nil => exact .nil
  | cons hgap hspan hlexeme hlater ih =>
      rename_i before gap lexeme rest last outcome later
      have hs' : s.toList = before ++ gap ++ (lexeme ++ rest) := by simpa using hs
      have hrest : s.toList = before ++ gap ++ lexeme ++ rest := by simpa using hs
      refine .cons ?_ (ih hrest)
      intro call hcall
      have hle := hlater.byteLength_le_start hsize hrest call hcall
      rw [UInt32.le_iff_toNat_le]
      change outcome.span.stop.toNat ≤ call.1.span.start.toNat
      rw [hspan, (Span.toNat_cover hsize hs').2, ← byteLength_append]
      exact hle

theorem Trail.blankGaps (hsize : s.utf8ByteSize ≤ Cursor.sourceLimit)
    (h : Trail before cs results) (hs : s.toList = before ++ cs) :
    BlankGaps s (byteLength before) (results.map fun call => call.1.span) := by
  induction h with
  | nil => trivial
  | cons hgap hspan hlexeme hlater ih =>
      rename_i before gap lexeme rest last outcome later
      have hs' : s.toList = before ++ gap ++ (lexeme ++ rest) := by simpa using hs
      obtain ⟨hstart, hstop⟩ := Span.toNat_cover hsize hs'
      rw [← hspan] at hstart hstop
      have htail := ih (by simpa using hs)
      rw [List.map_cons, BlankGaps, hstart, hstop, ← byteLength_append]
      refine ⟨?_, htail⟩
      rw [byteLength_append]
      exact blankBetween_of_toList hs hgap

theorem Trail.join (hsize : s.utf8ByteSize ≤ Cursor.sourceLimit)
    (h : Trail before cs results) (hs : s.toList = before ++ cs) :
    ∃ pieces rest, cuts s (byteLength before) (results.map fun call => call.1.span) =
        pieces.map some ∧ cs = (String.join pieces).toList ++ rest ∧
      reached (byteLength before) results =
        byteLength before + byteLength (String.join pieces).toList := by
  induction h with
  | nil =>
      rename_i before rest
      exact ⟨[], rest, rfl, by simp, by simp [reached]⟩
  | cons hgap hspan hlexeme hlater ih =>
      rename_i before gap lexeme rest last outcome later
      have hs' : s.toList = before ++ gap ++ (lexeme ++ rest) := by simpa using hs
      obtain ⟨hstart, hstop⟩ := Span.toNat_cover hsize hs'
      rw [← hspan] at hstart hstop
      obtain ⟨pieces, rest, hcuts, rfl, hreached⟩ := ih (by simpa using hs)
      refine ⟨String.ofList gap :: String.ofList lexeme :: pieces, rest, ?_, by simp, ?_⟩
      · rw [List.map_cons, cuts, hstart, hstop, slice?_of_toList_eq hs', byteLength_append,
          slice?_of_toList_eq hs, ← byteLength_append, ← byteLength_append, hcuts]
        rfl
      · have hcursor : (UInt32.ofNat (byteLength (before ++ gap ++ lexeme))).toNat =
            byteLength (before ++ gap ++ lexeme) := by
          rw [byteLength_append, ← hstop, UInt32.ofNat_toNat]
        simp only [reached, placed, Cursor.placed, List.append_nil, hcursor, hreached]
        simp only [byteLength_append, String.join_cons, String.toList_append, String.toList_ofList]
        omega

/-- However often the lexer is called on a source, its outcomes divide the source up to the cursor
into whitespace and lexemes, in order and without loss. -/
theorem calls_divide_source (s : String) (h : s.utf8ByteSize ≤ Cursor.sourceLimit) (n : Nat) :
    ∃ results, (ofSource s).calls n = .ok results ∧ results.length = n ∧
      (results.Pairwise fun a b => a.1.span.stop ≤ b.1.span.start) ∧
      (∀ call ∈ results, Settled s call) ∧
      BlankGaps s 0 (results.map fun call => call.1.span) ∧
      ∃ pieces, cuts s 0 (results.map fun call => call.1.span) = pieces.map some ∧
        slice? s 0 (reached 0 results) = some (String.join pieces) := by
  obtain ⟨results, hcalls, hlength, htrail⟩ :=
    exists_trail n none (show byteLength ([] ++ s.toList) ≤ Cursor.sourceLimit by
      rwa [List.nil_append, byteLength_toList])
  have hs : s.toList = [] ++ s.toList := rfl
  obtain ⟨pieces, rest, hcuts, hcs, hreached⟩ := htrail.join h hs
  refine ⟨results, ?_, hlength, htrail.pairwise h hs, htrail.settled h hs, htrail.blankGaps h hs,
    pieces, hcuts, ?_⟩
  · rw [ofSource_eq_placed h, hcalls]
  · rw [byteLength_nil] at hreached
    rw [hreached, slice?_eq_some_iff_toList]
    exact ⟨[], rest, hcs, rfl, by simp⟩

theorem calls_divide_source_errors :
    "\"é\n-7 \"x".utf8ByteSize ≤ Cursor.sourceLimit ∧
      ∃ results, (ofSource "\"é\n-7 \"x").calls 5 = .ok results ∧ results.length = 5 ∧
        (results.Pairwise fun a b => a.1.span.stop ≤ b.1.span.start) ∧
        (∀ call ∈ results, Settled "\"é\n-7 \"x" call) ∧
        BlankGaps "\"é\n-7 \"x" 0 (results.map fun call => call.1.span) ∧
        ∃ pieces, cuts "\"é\n-7 \"x" 0 (results.map fun call => call.1.span) = pieces.map some ∧
          slice? "\"é\n-7 \"x" 0 (reached 0 results) = some (String.join pieces) :=
  ⟨by decide, calls_divide_source _ (by decide) 5⟩

end Lexer

end Lexis
