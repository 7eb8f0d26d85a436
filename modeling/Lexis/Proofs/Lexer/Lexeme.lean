import Lexis.Proofs.Text.Numeral
import Lexis.Proofs.Cursor.Placed

/-!
The lexemes of the language, without a scanner. `Spells` says of a text, in view of the one
character that follows it, which item or which error it is; it has no order of tests and no
state. Every text that does not begin with whitespace begins with a lexeme (`exists_spells`).
-/

namespace Lexis

open Text

/-- The characters that a string literal cannot hold. -/
def endsString (c : Char) : Bool :=
  c == '"' || isLineBreak c

/-- The text is a lexeme in front of `next`, the character behind it or the end of the source. -/
inductive Spells : List Char → Option Char → Except LexError.Cause Item → Prop where
  | integer {negative : Bool} {digits : List Char} {next : Option Char} {n : Int64}
      (hdigits : Decimal.IsDigits digits) (hnext : next.any Char.isDigit = false)
      (hn : n.toInt = Decimal.numeralValue negative digits) :
      Spells (Decimal.numeral negative digits) next (.ok (.integer n))
  | integerRange {negative : Bool} {digits : List Char} {next : Option Char}
      (hdigits : Decimal.IsDigits digits) (hnext : next.any Char.isDigit = false)
      (hrange : ¬ Decimal.InRange (Decimal.numeralValue negative digits)) :
      Spells (Decimal.numeral negative digits) next
        (.error (.integerRange (String.ofList (Decimal.numeral negative digits))))
  | string {body : List Char} {next : Option Char} (hbody : ∀ c ∈ body, endsString c = false) :
      Spells ('"' :: (body ++ ['"'])) next (.ok (.string (String.ofList body)))
  | lineBreak {body : List Char} {c : Char} (hbody : ∀ c ∈ body, endsString c = false)
      (hc : isLineBreak c = true) : Spells ('"' :: body) (some c) (.error .lineBreak)
  | endOfInput {body : List Char} (hbody : ∀ c ∈ body, endsString c = false) :
      Spells ('"' :: body) none (.error .endOfInput)
  | keyword {word : Keyword} {next : Option Char}
      (hnext : next.any Scan.continuesName = false) :
      Spells word.text.toList next (.ok (.keyword word))
  | identifier {first : Char} {more : List Char} {next : Option Char}
      (hfirst : Scan.startsName first = true) (hmore : ∀ c ∈ more, Scan.continuesName c = true)
      (hnext : next.any Scan.continuesName = false)
      (hword : ∀ word : Keyword, String.ofList (first :: more) ≠ word.text) :
      Spells (first :: more) next (.ok (.identifier (String.ofList (first :: more))))
  | punctuation {mark : Punctuation} {next : Option Char} :
      Spells [mark.char] next (.ok (.punctuation mark))
  | unknown {c : Char} {next : Option Char} (hblank : isWhitespace c = false)
      (hdigit : c.isDigit = false) (hquote : c ≠ '"') (hname : Scan.startsName c = false)
      (hmark : ∀ mark : Punctuation, c ≠ mark.char)
      (hsign : c = '-' → next.any Char.isDigit = false) :
      Spells [c] next (.ok .unknown)

theorem Punctuation.char_classes (mark : Punctuation) :
    isWhitespace mark.char = false ∧ mark.char.isDigit = false ∧ mark.char ≠ '-' ∧
      mark.char ≠ '"' ∧ Scan.startsName mark.char = false := by
  cases mark <;> decide

theorem Keyword.exists_text (word : Keyword) :
    ∃ first more, word.text.toList = first :: more ∧ Scan.startsName first = true ∧
      ∀ c ∈ more, Scan.continuesName c = true := by
  cases word with
  | define => exact ⟨'d', ['e', 'f'], by decide, by decide, List.all_eq_true.mp (by decide)⟩
  | external =>
      exact ⟨'e', ['x', 't', 'e', 'r', 'n'], by decide, by decide,
        List.all_eq_true.mp (by decide)⟩

theorem Text.Decimal.isWhitespace_eq_false_of_isDigit {c : Char} (h : c.isDigit = true) :
    isWhitespace c = false := by
  have hbounds := toNat_of_isDigit h
  exact isWhitespace_eq_false_of_visible (by omega) (by omega)

theorem Spells.exists_cons {lexeme : List Char} {next : Option Char}
    {reading : Except LexError.Cause Item} (h : Spells lexeme next reading) :
    ∃ first more, lexeme = first :: more ∧ isWhitespace first = false := by
  have hnumeral : ∀ {negative : Bool} {digits : List Char}, Decimal.IsDigits digits →
      ∃ first more, Decimal.numeral negative digits = first :: more ∧
        isWhitespace first = false := by
    intro negative digits hdigits
    cases negative with
    | true => exact ⟨'-', digits, rfl, by decide⟩
    | false =>
        obtain ⟨d, ds, rfl⟩ := List.exists_cons_of_ne_nil hdigits.1
        exact ⟨d, ds, rfl, Decimal.isWhitespace_eq_false_of_isDigit (hdigits.2 d (by simp))⟩
  cases h with
  | integer hdigits => exact hnumeral hdigits
  | integerRange hdigits => exact hnumeral hdigits
  | string => exact ⟨'"', _, rfl, by decide⟩
  | lineBreak => exact ⟨'"', _, rfl, by decide⟩
  | endOfInput => exact ⟨'"', _, rfl, by decide⟩
  | keyword =>
      obtain ⟨first, more, htext, hfirst, -⟩ := Keyword.exists_text _
      exact ⟨first, more, htext, Scan.isWhitespace_eq_false_of_startsName hfirst⟩
  | identifier hfirst =>
      exact ⟨_, _, rfl, Scan.isWhitespace_eq_false_of_startsName hfirst⟩
  | punctuation => exact ⟨_, [], rfl, (Punctuation.char_classes _).1⟩
  | unknown hblank => exact ⟨_, [], rfl, hblank⟩

theorem Spells.ne_nil {lexeme : List Char} {next : Option Char}
    {reading : Except LexError.Cause Item} (h : Spells lexeme next reading) : lexeme ≠ [] := by
  obtain ⟨first, more, rfl, -⟩ := h.exists_cons
  simp

theorem Spells.ok_of_isWhitespace {lexeme : List Char} {next next' : Option Char} {item : Item}
    (h : Spells lexeme next (.ok item)) (hnext : next'.all isWhitespace = true) :
    Spells lexeme next' (.ok item) := by
  have hdigit : next'.any Char.isDigit = false := by
    cases next' with
    | none => rfl
    | some c => exact isDigit_eq_false_of_isWhitespace hnext
  have hname : next'.any Scan.continuesName = false := by
    cases next' with
    | none => rfl
    | some c => exact Scan.continuesName_eq_false_of_isWhitespace hnext
  cases h with
  | integer hdigits _ hn => exact .integer hdigits hdigit hn
  | string hbody => exact .string hbody
  | keyword => exact .keyword hname
  | identifier hfirst hmore _ hword => exact .identifier hfirst hmore hname hword
  | punctuation => exact .punctuation
  | unknown hblank hdigit' hquote hname' hmark _ =>
      exact .unknown hblank hdigit' hquote hname' hmark fun _ => hdigit

theorem Spells.isLineBreak_eq_false {lexeme : List Char} {next : Option Char}
    {cause : LexError.Cause} (h : Spells lexeme next (.error cause)) :
    ∀ c ∈ lexeme, isLineBreak c = false := by
  have hstring {body : List Char} (hbody : ∀ c ∈ body, endsString c = false) :
      ∀ c ∈ '"' :: body, isLineBreak c = false := by
    intro c hc
    rcases List.mem_cons.mp hc with rfl | hc
    · decide
    · exact (Bool.or_eq_false_iff.mp (hbody c hc)).2
  cases h with
  | integerRange hdigits => exact Decimal.isLineBreak_eq_false_of_mem_numeral hdigits
  | lineBreak hbody => exact hstring hbody
  | endOfInput hbody => exact hstring hbody

theorem mem_takeWhile {p : Char → Bool} {cs : List Char} :
    ∀ c ∈ cs.takeWhile p, p c = true :=
  List.all_eq_true.mp List.all_takeWhile

theorem exists_spells_numeral (negative : Bool) {digits : List Char} {next : Option Char}
    (hdigits : Decimal.IsDigits digits) (hnext : next.any Char.isDigit = false) :
    ∃ reading, Spells (Decimal.numeral negative digits) next reading := by
  by_cases hrange : Decimal.InRange (Decimal.numeralValue negative digits)
  · obtain ⟨n, hn⟩ := Decimal.exists_toInt_eq hrange
    exact ⟨_, .integer hdigits hnext hn⟩
  · exact ⟨_, .integerRange hdigits hnext hrange⟩

theorem exists_spells_quote (cs : List Char) :
    ∃ lexeme rest reading, '"' :: cs = lexeme ++ rest ∧ Spells lexeme rest.head? reading := by
  have hsplit : cs.takeWhile (fun c => !endsString c) ++ cs.dropWhile (fun c => !endsString c) =
      cs := List.takeWhile_append_dropWhile
  have hstop := head?_dropWhile_any (fun c => !endsString c) cs
  have hbody : ∀ c ∈ cs.takeWhile fun c => !endsString c, endsString c = false := by
    intro c hc
    simpa using mem_takeWhile c hc
  cases hrest : cs.dropWhile fun c => !endsString c with
  | nil =>
      rw [hrest, List.append_nil] at hsplit
      rw [hsplit] at hbody
      exact ⟨'"' :: cs, [], _, by simp, .endOfInput hbody⟩
  | cons c rest =>
      rw [hrest] at hsplit hstop
      have hc : endsString c = true := by simpa using hstop
      rcases Bool.or_eq_true _ _ ▸ hc with hquote | hbreak
      · obtain rfl : c = '"' := by simpa using hquote
        refine ⟨'"' :: (cs.takeWhile (fun c => !endsString c) ++ ['"']), rest, _, ?_,
          .string hbody⟩
        simp [hsplit]
      · refine ⟨'"' :: cs.takeWhile (fun c => !endsString c), c :: rest, _, ?_,
          .lineBreak hbody hbreak⟩
        simp [hsplit]

theorem exists_spells_name {first : Char} (hfirst : Scan.startsName first = true)
    (cs : List Char) :
    ∃ lexeme rest reading, first :: cs = lexeme ++ rest ∧ Spells lexeme rest.head? reading := by
  have hsplit : cs.takeWhile Scan.continuesName ++ cs.dropWhile Scan.continuesName = cs :=
    List.takeWhile_append_dropWhile
  have hnext := head?_dropWhile_any Scan.continuesName cs
  refine ⟨first :: cs.takeWhile Scan.continuesName, cs.dropWhile Scan.continuesName, ?_⟩
  by_cases hword : ∃ word : Keyword,
      String.ofList (first :: cs.takeWhile Scan.continuesName) = word.text
  · obtain ⟨word, hword⟩ := hword
    have htext : first :: cs.takeWhile Scan.continuesName = word.text.toList := by
      rw [← hword, String.toList_ofList]
    refine ⟨.ok (.keyword word), by simp [hsplit], ?_⟩
    rw [htext]
    exact .keyword hnext
  · exact ⟨_, by simp [hsplit],
      .identifier hfirst mem_takeWhile hnext (fun word h => hword ⟨word, h⟩)⟩

theorem exists_spells {first : Char} (hblank : isWhitespace first = false) (cs : List Char) :
    ∃ lexeme rest reading, first :: cs = lexeme ++ rest ∧ Spells lexeme rest.head? reading := by
  have hsplit : cs.takeWhile Char.isDigit ++ cs.dropWhile Char.isDigit = cs :=
    List.takeWhile_append_dropWhile
  have hnext := head?_dropWhile_any Char.isDigit cs
  by_cases hdigit : first.isDigit = true
  · have hdigits : Decimal.IsDigits (first :: cs.takeWhile Char.isDigit) :=
      ⟨by simp, by simpa [hdigit] using mem_takeWhile⟩
    obtain ⟨reading, h⟩ := exists_spells_numeral false hdigits hnext
    exact ⟨_, cs.dropWhile Char.isDigit, reading, by simp [Decimal.numeral, hsplit], h⟩
  by_cases hsign : first = '-' ∧ cs.head?.any Char.isDigit = true
  · obtain ⟨rfl, hhead⟩ := hsign
    have hdigits : Decimal.IsDigits (cs.takeWhile Char.isDigit) := by
      refine ⟨?_, mem_takeWhile⟩
      cases cs with
      | nil => simp at hhead
      | cons c cs =>
          have hc : c.isDigit = true := by simpa using hhead
          simp [hc]
    obtain ⟨reading, h⟩ := exists_spells_numeral true hdigits hnext
    exact ⟨_, cs.dropWhile Char.isDigit, reading, by simp [Decimal.numeral, hsplit], h⟩
  by_cases hquote : first = '"'
  · subst hquote
    exact exists_spells_quote cs
  by_cases hname : Scan.startsName first = true
  · exact exists_spells_name hname cs
  by_cases hmark : ∃ mark : Punctuation, first = mark.char
  · obtain ⟨mark, rfl⟩ := hmark
    exact ⟨[mark.char], cs, _, rfl, .punctuation⟩
  · refine ⟨[first], cs, _, rfl, .unknown hblank (by simpa using hdigit) hquote
      (by simpa using hname) (fun mark h => hmark ⟨mark, h⟩) (fun h => ?_)⟩
    rw [← Bool.not_eq_true]
    exact fun hhead => hsign ⟨h, hhead⟩

end Lexis
