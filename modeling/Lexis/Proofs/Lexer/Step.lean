import Lexis.Lexer
import Lexis.Proofs.Lexer.Lexeme

/-!
One call of the lexer. Where the text ahead is whitespace and a lexeme, the call reads exactly that
lexeme and stops right behind it (`next_of_spells`); where it is whitespace alone, it yields the
end of file (`next_of_blank`). One of the two is always the case (`blank_or_exists_spells`), so these
equations are all that is ever needed of the scanners.
-/

namespace Lexis

open Text

namespace Scan

theorem isNeedle_eq_endsString (c : Char) : isNeedle [0x22, 0x0D, 0x0A] c = endsString c := by
  have hquote : Char.ofUInt8 0x22 = '"' := by decide
  have hreturn : Char.ofUInt8 0x0D = '\r' := by decide
  have hfeed : Char.ofUInt8 0x0A = '\n' := by decide
  simp [isNeedle, endsString, isLineBreak, hquote, hreturn, hfeed]

theorem takeUntilAscii_placed {before window body rest : List Char} (last : Option Char)
    (hbody : ∀ c ∈ body, endsString c = false)
    (hrest : rest.head?.any (fun c => !endsString c) = false)
    (h : byteLength (before ++ window ++ (body ++ rest)) ≤ Cursor.sourceLimit) :
    (Cursor.placed before window (body ++ rest) last).takeUntilAscii [0x22, 0x0D, 0x0A] =
      .ok (.placed before (window ++ body) rest (body.getLast?.or last)) := by
  have hneedle : isNeedle [0x22, 0x0D, 0x0A] = endsString := funext isNeedle_eq_endsString
  rw [Cursor.takeUntilAscii_eq_takeUntil _ (by decide), Cursor.takeUntil, hneedle]
  exact Cursor.takeWhile_placed last (by simpa using hbody) hrest h

theorem number_placed {before window taken rest : List Char} (last : Option Char)
    (htaken : ∀ c ∈ taken, c.isDigit = true) (hrest : rest.head?.any Char.isDigit = false)
    (h : byteLength (before ++ window ++ (taken ++ rest)) ≤ Cursor.sourceLimit) :
    number (.placed before window (taken ++ rest) last) =
      .ok (match Decimal.parseInt64 (window ++ taken) with
        | .ok n => .ok (.integer n)
        | .error _ => .error (.integerRange (String.ofList (window ++ taken))),
        .placed before (window ++ taken) rest (taken.getLast?.or last)) := by
  rw [number, Cursor.takeWhile_placed last htaken hrest h]
  change (match Decimal.parseInt64 (window ++ taken) with
    | .ok n => _
    | .error _ => _) = _
  split <;> rfl

theorem name_placed {before window taken rest : List Char} (last : Option Char)
    (htaken : ∀ c ∈ taken, continuesName c = true)
    (hrest : rest.head?.any continuesName = false)
    (h : byteLength (before ++ window ++ (taken ++ rest)) ≤ Cursor.sourceLimit) :
    name (.placed before window (taken ++ rest) last) =
      .ok (.ok (match Keyword.ofText? (String.ofList (window ++ taken)) with
        | some word => .keyword word
        | none => .identifier (String.ofList (window ++ taken))),
        .placed before (window ++ taken) rest (taken.getLast?.or last)) := by
  rw [name, Cursor.takeWhile_placed last htaken hrest h]
  change (match Keyword.ofText? (String.ofList (window ++ taken)) with
    | some word => _
    | none => _) = _
  split <;> rfl

theorem string_of_quote {before body rest : List Char} (last : Option Char)
    (hbody : ∀ c ∈ body, endsString c = false)
    (h : byteLength (before ++ ['"'] ++ (body ++ '"' :: rest)) ≤ Cursor.sourceLimit) :
    string (.placed before ['"'] (body ++ '"' :: rest) last) =
      .ok (.ok (.string (String.ofList body)),
        .placed before ('"' :: (body ++ ['"'])) rest (some '"')) := by
  have hclose : (Cursor.placed before (['"'] ++ body) ('"' :: rest) (body.getLast?.or last)).take =
      .ok (true, .placed before (['"'] ++ body ++ ['"']) rest (some '"')) :=
    Cursor.take_placed _ (by simpa using h)
  rw [string, takeUntilAscii_placed last hbody rfl h]
  change (Cursor.takeIf _ '"' >>= _) = _
  rw [Cursor.takeIf, Cursor.peekIs_placed, if_pos (by rfl), hclose]
  simp [bind, Except.bind, pure, Except.pure]

theorem string_of_lineBreak {before body rest : List Char} {c : Char} (last : Option Char)
    (hbody : ∀ c ∈ body, endsString c = false) (hc : isLineBreak c = true)
    (hrest : rest.head? = some c)
    (h : byteLength (before ++ ['"'] ++ (body ++ rest)) ≤ Cursor.sourceLimit) :
    string (.placed before ['"'] (body ++ rest) last) =
      .ok (.error .lineBreak, .placed before ('"' :: body) rest (body.getLast?.or last)) := by
  have hstop : rest.head?.any (fun c => !endsString c) = false := by
    simp [hrest, endsString, hc]
  rw [string, takeUntilAscii_placed last hbody hstop h]
  change (if (rest.head?.any isLineBreak) = true then _ else _) = _
  rw [hrest, Option.any_some, if_pos hc]
  rfl

theorem string_of_end {before body : List Char} (last : Option Char)
    (hbody : ∀ c ∈ body, endsString c = false)
    (h : byteLength (before ++ ['"'] ++ body) ≤ Cursor.sourceLimit) :
    string (.placed before ['"'] body last) =
      .ok (.error .endOfInput, .placed before ('"' :: body) [] (body.getLast?.or last)) := by
  have hnil : body ++ [] = body := List.append_nil body
  rw [string, ← hnil, takeUntilAscii_placed last hbody rfl (by rwa [hnil]), hnil]
  rfl

theorem lexeme_of_startsNumber {first : Char} {c : Cursor} (h : startsNumber first c = true) :
    lexeme first c = number c := by
  rw [lexeme, if_pos h]

theorem lexeme_quote (c : Cursor) : lexeme '"' c = string c := by
  rw [lexeme, if_neg (by simp [startsNumber]), if_pos (by rfl)]

theorem lexeme_of_startsName {first : Char} (c : Cursor) (h : startsName first = true) :
    lexeme first c = name c := by
  have hcode := toNat_lt_of_startsName h
  have hdigit : first.isDigit = false := by
    rw [← Bool.not_eq_true]
    intro hdigit
    have := toNat_of_isDigit hdigit
    omega
  have hsign : first ≠ '-' := by
    rintro rfl
    exact absurd hcode (by decide)
  have hquote : first ≠ '"' := by
    rintro rfl
    exact absurd hcode (by decide)
  rw [lexeme, if_neg (by simp [startsNumber, hdigit, hsign]), if_neg (by simp [startsString, hquote]),
    if_pos h]

theorem lexeme_single {first : Char} {c : Cursor} (hdigit : first.isDigit = false)
    (hquote : first ≠ '"') (hname : startsName first = false)
    (hsign : first = '-' → c.peekIs Char.isDigit = false) :
    lexeme first c = .ok (.ok (single first), c) := by
  have hnumber : startsNumber first c = false := by
    by_cases h : first = '-'
    · simp [startsNumber, hdigit, hsign h]
    · simp [startsNumber, hdigit, h]
  rw [lexeme, hnumber, hname, if_neg (by simp), if_neg (by simp [startsString, hquote]),
    if_neg (by simp)]
  rfl

theorem lexeme_numeral {negative : Bool} {digits rest before : List Char}
    (hdigits : Decimal.IsDigits digits) (hrest : rest.head?.any Char.isDigit = false)
    {first : Char} {more : List Char} (hfirst : Decimal.numeral negative digits = first :: more)
    (h : byteLength (before ++ first :: (more ++ rest)) ≤ Cursor.sourceLimit) :
    lexeme first (.placed before [first] (more ++ rest) (some first)) =
      .ok (match Decimal.word (Decimal.numeralValue negative digits) with
        | .ok n => .ok (.integer n)
        | .error _ => .error (.integerRange (String.ofList (first :: more))),
        .placed before (first :: more) rest (first :: more).getLast?) := by
  have hmore : startsNumber first (.placed before [first] (more ++ rest) (some first)) = true ∧
      ∀ c ∈ more, c.isDigit = true := by
    cases negative with
    | true =>
        obtain ⟨rfl, rfl⟩ := List.cons.inj hfirst
        obtain ⟨d, ds, rfl⟩ := List.exists_cons_of_ne_nil hdigits.1
        exact ⟨by simp [startsNumber, hdigits.2 d (by simp)], hdigits.2⟩
    | false =>
        obtain rfl : digits = first :: more := hfirst
        exact ⟨by simp [startsNumber, hdigits.2 first (by simp)],
          fun c hc => hdigits.2 c (by simp [hc])⟩
  rw [lexeme_of_startsNumber hmore.1, number_placed _ hmore.2 hrest (by simpa using h),
    List.singleton_append, ← hfirst, Decimal.parseInt64_numeral hdigits, hfirst]
  simp [List.getLast?_cons]

end Scan

theorem Spells.scan {first : Char} {more rest before : List Char}
    {reading : Except LexError.Cause Item} (h : Spells (first :: more) rest.head? reading)
    (hsize : byteLength (before ++ first :: (more ++ rest)) ≤ Cursor.sourceLimit) :
    Scan.lexeme first (.placed before [first] (more ++ rest) (some first)) =
      .ok (reading, .placed before (first :: more) rest (first :: more).getLast?) := by
  have hsize' : byteLength (before ++ [first] ++ (more ++ rest)) ≤ Cursor.sourceLimit := by
    simpa using hsize
  generalize hlexeme : first :: more = lexeme at h
  generalize hnext : rest.head? = next at h
  cases h with
  | integer hdigits hstop hn =>
      subst hnext
      rw [Scan.lexeme_numeral hdigits hstop hlexeme.symm hsize, Decimal.word_eq_ok_iff.mpr hn]
      rw [hlexeme]
  | integerRange hdigits hstop hrange =>
      subst hnext
      rw [Scan.lexeme_numeral hdigits hstop hlexeme.symm hsize, Decimal.word_of_not_inRange hrange]
      rw [hlexeme]
  | string hbody =>
      rename_i body
      obtain ⟨rfl, rfl⟩ := List.cons.inj hlexeme
      rw [Scan.lexeme_quote, List.append_assoc, List.singleton_append,
        Scan.string_of_quote _ hbody (by simpa using hsize')]
      simp [List.getLast?_cons]
  | lineBreak hbody hc =>
      obtain ⟨rfl, rfl⟩ := List.cons.inj hlexeme
      rw [Scan.lexeme_quote, Scan.string_of_lineBreak _ hbody hc hnext hsize']
      simp [List.getLast?_cons]
  | endOfInput hbody =>
      obtain ⟨rfl, rfl⟩ := List.cons.inj hlexeme
      obtain rfl := List.head?_eq_none_iff.mp hnext
      rw [Scan.lexeme_quote, List.append_nil, Scan.string_of_end _ hbody (by simpa using hsize')]
      simp [List.getLast?_cons]
  | keyword hstop =>
      rename_i word
      subst hnext
      obtain ⟨first', more', htext, hfirst, hmore⟩ := word.exists_text
      obtain ⟨rfl, rfl⟩ := List.cons.inj (hlexeme.trans htext)
      have hword : Keyword.ofText? (String.ofList (first :: more)) = some word := by
        rw [Keyword.ofText?_eq_some_iff, hlexeme, String.ofList_toList]
      rw [Scan.lexeme_of_startsName _ hfirst, Scan.name_placed _ hmore hstop hsize',
        List.singleton_append, hword, ← hlexeme]
      simp [List.getLast?_cons]
  | identifier hfirst hmore hstop hword =>
      subst hnext
      obtain ⟨rfl, rfl⟩ := List.cons.inj hlexeme
      have hnone : Keyword.ofText? (String.ofList (first :: more)) = none := by
        rw [Option.eq_none_iff_forall_ne_some]
        intro word hsome
        exact hword word (Keyword.ofText?_eq_some_iff.mp hsome)
      rw [Scan.lexeme_of_startsName _ hfirst, Scan.name_placed _ hmore hstop hsize',
        List.singleton_append, hnone]
      simp [List.getLast?_cons]
  | punctuation =>
      rename_i mark
      obtain ⟨rfl, rfl⟩ := List.cons.inj hlexeme
      obtain ⟨-, hdigit, hsign, hquote, hname⟩ := mark.char_classes
      rw [Scan.lexeme_single hdigit hquote hname (fun h => absurd h hsign), Scan.single,
        Punctuation.ofChar?_eq_some_iff.mpr rfl]
      rfl
  | unknown hblank hdigit hquote hname hmark hsign =>
      obtain ⟨rfl, rfl⟩ := List.cons.inj hlexeme
      have hnone : Punctuation.ofChar? first = none := by
        rw [Option.eq_none_iff_forall_ne_some]
        intro mark hsome
        exact hmark mark (Punctuation.ofChar?_eq_some_iff.mp hsome)
      have hpeek : first = '-' →
          (Cursor.placed before [first] ([] ++ rest) (some first)).peekIs Char.isDigit = false := by
        simpa [hnext] using hsign
      rw [Scan.lexeme_single hdigit hquote hname hpeek, Scan.single, hnone]
      rfl

/-- What was read, at its place. -/
def Outcome.ofReading (span : Span) : Except LexError.Cause Item → Outcome
  | .ok item => .ok ⟨span, item⟩
  | .error cause => .error ⟨span, cause⟩

/-- Whitespace and nothing else. -/
def Blank (cs : List Char) : Prop :=
  ∀ c ∈ cs, isWhitespace c = true

namespace Lexer

/-- The lexer between `before` and `rest`. -/
def placed (before rest : List Char) (last : Option Char) : Lexer :=
  ⟨.placed before [] rest last⟩

theorem ofCursor_placed (before window rest : List Char) (last : Option Char) :
    ofCursor (.placed before window rest last) = placed (before ++ window) rest last := by
  rw [ofCursor, Cursor.advance_placed, placed]

theorem ofSource_eq_placed {source : String} (h : source.utf8ByteSize ≤ Cursor.sourceLimit) :
    ofSource source = placed [] source.toList none := by
  rw [ofSource, Cursor.ofSource_eq_placed h, ofCursor_placed]
  rfl

theorem settle_placed {before window rest : List Char} (last : Option Char)
    (reading : Except LexError.Cause Item)
    (h : byteLength (before ++ window ++ rest) ≤ Cursor.sourceLimit) :
    settle reading (.placed before window rest last) =
      .ok (.ofReading (.cover (byteLength before) window) reading,
        placed (before ++ window) rest last) := by
  rw [settle, Cursor.span_placed last h, ofCursor_placed]
  cases reading <;> rfl

theorem next_of_spells {before gap lexeme rest : List Char} (last : Option Char)
    {reading : Except LexError.Cause Item} (hgap : Blank gap)
    (hlexeme : Spells lexeme rest.head? reading)
    (h : byteLength (before ++ gap ++ lexeme ++ rest) ≤ Cursor.sourceLimit) :
    (placed before (gap ++ (lexeme ++ rest)) last).next =
      .ok (.ofReading (.cover (byteLength (before ++ gap)) lexeme) reading,
        placed (before ++ gap ++ lexeme) rest lexeme.getLast?) := by
  obtain ⟨first, more, rfl, hfirst⟩ := hlexeme.exists_cons
  have hsize : byteLength (before ++ gap ++ first :: (more ++ rest)) ≤ Cursor.sourceLimit := by
    simpa using h
  have hstop : (first :: (more ++ rest)).head?.any isWhitespace = false := by simp [hfirst]
  have hskip : (Cursor.placed before [] (gap ++ first :: (more ++ rest)) last).skipWhile
      isWhitespace = .ok (.placed (before ++ gap) [] (first :: (more ++ rest)) last) := by
    rw [Cursor.skipWhile_placed last _ (by simpa using h), takeWhile_append_of_stop hgap hstop,
      dropWhile_append_of_stop hgap hstop]
  have htake : (Cursor.placed (before ++ gap) [] (first :: (more ++ rest)) last).take =
      .ok (true, .placed (before ++ gap) [first] (more ++ rest) (some first)) :=
    Cursor.take_placed last (by simpa using h)
  rw [List.cons_append, placed, next, hskip]
  change (Cursor.take _ >>= _) = _
  rw [htake]
  change (Scan.lexeme _ _ >>= _) = _
  rw [hlexeme.scan hsize]
  exact settle_placed _ reading (by simpa using h)

theorem next_of_blank {before gap : List Char} (last : Option Char) (hgap : Blank gap)
    (h : byteLength (before ++ gap) ≤ Cursor.sourceLimit) :
    (placed before gap last).next =
      .ok (.ok ⟨.cover (byteLength (before ++ gap)) [], .endOfFile⟩,
        placed (before ++ gap) [] last) := by
  have hskip : (Cursor.placed before [] gap last).skipWhile isWhitespace =
      .ok (.placed (before ++ gap) [] [] last) := by
    have htake : (gap ++ []).takeWhile isWhitespace = gap := takeWhile_append_of_stop hgap rfl
    have hdrop : (gap ++ []).dropWhile isWhitespace = [] := dropWhile_append_of_stop hgap rfl
    rw [List.append_nil] at htake hdrop
    rw [Cursor.skipWhile_placed last _ h, htake, hdrop]
  rw [placed, next, hskip]
  change settle (.ok .endOfFile) (.placed (before ++ gap) [] [] last) = _
  rw [settle_placed last _ (by simpa using h), List.append_nil]
  rfl

theorem blank_or_exists_spells (cs : List Char) :
    Blank cs ∨ ∃ gap lexeme rest reading, cs = gap ++ (lexeme ++ rest) ∧ Blank gap ∧
      Spells lexeme rest.head? reading := by
  have hsplit : cs.takeWhile isWhitespace ++ cs.dropWhile isWhitespace = cs :=
    List.takeWhile_append_dropWhile
  have hstop := head?_dropWhile_any isWhitespace cs
  cases hrest : cs.dropWhile isWhitespace with
  | nil =>
      rw [hrest, List.append_nil] at hsplit
      left
      rw [← hsplit]
      exact mem_takeWhile
  | cons first more =>
      rw [hrest] at hsplit hstop
      obtain ⟨lexeme, rest, reading, hcons, hlexeme⟩ :=
        exists_spells (by simpa using hstop) more
      exact .inr ⟨_, lexeme, rest, reading, by rw [← hcons, hsplit], mem_takeWhile, hlexeme⟩

end Lexer

end Lexis
