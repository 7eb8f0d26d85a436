import Lexis.Proofs.Lexer.Layout

namespace Lexis

open Text

namespace Item

/-- The text that stands for the item in a source. -/
def written : Item → String
  | keyword word => word.text
  | identifier name => name
  | integer number => Decimal.ofInt number.toInt
  | string body => "\"" ++ body ++ "\""
  | punctuation mark => String.singleton mark.char
  | _ => ""

/-- The items that a source can name. -/
def Writable : Item → Prop
  | identifier name =>
      name.toList.head?.any Scan.startsName = true ∧
        name.toList.tail.all Scan.continuesName = true ∧ name ≠ "def" ∧ name ≠ "extern"
  | string body => '"' ∉ body.toList ∧ '\r' ∉ body.toList ∧ '\n' ∉ body.toList
  | keyword _ | integer _ | punctuation _ => True
  | endOfFile | unknown => False

instance : DecidablePred Writable
  | identifier _ => inferInstanceAs (Decidable (_ ∧ _ ∧ _ ∧ _))
  | string _ => inferInstanceAs (Decidable (_ ∧ _ ∧ _))
  | keyword _ => .isTrue trivial
  | integer _ => .isTrue trivial
  | punctuation _ => .isTrue trivial
  | endOfFile => .isFalse id
  | unknown => .isFalse id

theorem spells_identifier {name : String} (h : (identifier name).Writable) :
    Spells name.toList none (.ok (.identifier name)) := by
  obtain ⟨hfirst, hmore, hdef, hextern⟩ := h
  cases hname : name.toList with
  | nil => simp [hname] at hfirst
  | cons first more =>
      have hlist : String.ofList (first :: more) = name := by rw [← hname, String.ofList_toList]
      rw [hname] at hfirst hmore
      have hword : ∀ word : Keyword, String.ofList (first :: more) ≠ word.text := by
        intro word
        rw [hlist]
        cases word with
        | define => exact hdef
        | external => exact hextern
      have hspells : Spells (first :: more) none
          (.ok (.identifier (String.ofList (first :: more)))) :=
        .identifier hfirst (List.all_eq_true.mp hmore) rfl hword
      rwa [hlist] at hspells

theorem spells_string {body : String} (h : (string body).Writable) :
    Spells (string body).written.toList none (.ok (.string body)) := by
  obtain ⟨hquote, hreturn, hfeed⟩ := h
  have hbody : ∀ c ∈ body.toList, endsString c = false := by
    intro c hc
    rw [← Bool.not_eq_true]
    intro hends
    simp only [endsString, isLineBreak, Bool.or_eq_true, beq_iff_eq] at hends
    rcases hends with rfl | rfl | rfl
    · exact hquote hc
    · exact hreturn hc
    · exact hfeed hc
  have hspells : Spells ('"' :: (body.toList ++ ['"'])) none
      (.ok (.string (String.ofList body.toList))) := .string hbody
  rw [String.ofList_toList] at hspells
  simpa [written] using hspells

theorem Writable.spells {item : Item} (h : item.Writable) :
    Spells item.written.toList none (.ok item) := by
  cases item with
  | endOfFile => contradiction
  | unknown => contradiction
  | keyword word => exact .keyword rfl
  | identifier name => exact spells_identifier h
  | integer number =>
      rw [written, Decimal.toList_ofInt]
      exact .integer (Decimal.isDigits_toDigits _) rfl (Decimal.numeralValue_toDigits _).symm
  | string body => exact spells_string h
  | punctuation mark =>
      rw [written, String.toList_singleton]
      exact .punctuation

end Item

/-- An item written down behind a gap. -/
def Piece.write (entry : String × Item) : Piece :=
  ⟨entry.1, entry.2.written, entry.2⟩

theorem lex_written (entries : List (String × Item)) (final : String)
    (hitems : ∀ entry ∈ entries, entry.2.Writable)
    (hspaced : Spaced (entries.map Prod.fst) final)
    (hsize : (Piece.join (entries.map Piece.write) final).utf8ByteSize ≤ Cursor.sourceLimit) :
    Piece.ReadsBack (entries.map Piece.write) final := by
  apply Piece.readsBack_of_spells
  · rw [List.map_map]
    exact hspaced
  · intro p hp
    obtain ⟨entry, hentry, rfl⟩ := List.mem_map.mp hp
    exact ⟨none, (hitems entry hentry).spells⟩
  · exact hsize

theorem lex_written_extremes :
    ∃ entries : List (String × Item),
      entries.map Prod.snd = [.integer Int64.minValue, .identifier "é1_", .string "\\ -1",
        .keyword .define, .punctuation .plus, .integer Int64.maxValue] ∧
      (∀ entry ∈ entries, entry.2.Writable) ∧ Spaced (entries.map Prod.fst) "" ∧
      Piece.ReadsBack (entries.map Piece.write) "" := by
  refine ⟨[("", .integer Int64.minValue), (" ", .identifier "é1_"), ("\n", .string "\\ -1"),
    ("\t", .keyword .define), (" ", .punctuation .plus), ("\r\n", .integer Int64.maxValue)],
    rfl, by decide, by decide, ?_⟩
  exact lex_written _ "" (by decide) (by decide) (by decide)

end Lexis
