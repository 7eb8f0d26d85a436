import Lexis.Listing
import Lexis.Proofs.Lexer.Segmentation
import Lexis.Proofs.LineTable.Lookup
import Lexis.Proofs.Report.Rows

namespace Lexis

open Text

theorem Cursor.le_sourceLimit {s : String} (h : s.utf8ByteSize < UInt32.size - 2) :
    s.utf8ByteSize ≤ sourceLimit := by
  rw [sourceLimit]
  omega

namespace Listing

/-- What a row tells of a token. -/
structure Entry where
  line : Nat
  column : Nat
  item : Item
  deriving DecidableEq

def Entry.value (r : Entry) : String :=
  if r.item.value.isNull then "" else " " ++ r.item.value.render

/-- The row, without the line feed behind it. -/
def Entry.text (r : Entry) : String :=
  Decimal.ofNat r.line ++ ":" ++ Decimal.ofNat r.column ++ " " ++ r.item.kind.name ++ r.value

/-- The text in front of byte `a` of a source. -/
def frontOf (s : String) (a : Nat) : List Char :=
  (splitAtByte a s.toList).1

/-- What is told of a token of `s`. -/
def entry (s : String) (t : Token) : Entry :=
  { line := lineNumber (frontOf s t.span.start.toNat)
    column := columnNumber (frontOf s t.span.start.toNat)
    item := t.item }

/-- The place of a token, in the width that a line table has for it. -/
def place (s : String) (t : Token) : Position :=
  ⟨UInt32.ofNat (entry s t).line, UInt32.ofNat (entry s t).column⟩

def rows (s : String) (ts : List Token) : List String :=
  ts.map fun t => (entry s t).text

theorem frontOf_byteLength {s : String} {front back : List Char} (hs : s.toList = front ++ back) :
    frontOf s (byteLength front) = front := by
  rw [frontOf, hs, splitAtByte_byteLength]

variable {s : String} {lines : LineTable} {l l' : Lexer} {t : Token}

theorem collect_of_error {e : LexError} (h : l.next = .ok (.error e, l')) (listed : String) :
    collect lines s l listed = .ok (.error e) := by
  rw [collect]
  split
  · rename_i hnext
    rw [h] at hnext
    cases hnext
  · rename_i hnext
    rw [h] at hnext
    cases hnext
    rfl
  · rename_i hnext
    rw [h] at hnext
    cases hnext

theorem collect_of_token {p : Position} (h : l.next = .ok (.ok t, l'))
    (hp : lines.position s t.span.start = .ok p) (listed : String) :
    collect lines s l listed =
      if t.isEndOfFile then .ok (.ok (listed ++ row p t))
      else collect lines s l' (listed ++ row p t) := by
  rw [collect]
  split
  · rename_i hnext
    rw [h] at hnext
    cases hnext
  · rename_i hnext
    rw [h] at hnext
    cases hnext
  · rename_i hnext
    rw [h] at hnext
    cases hnext
    simp only [hp]
    split <;> rfl

section

variable {front back : List Char} (hs : s.toList = front ++ back)
  (ht : t.span.start.toNat = byteLength front)

include hs ht

theorem entry_eq : entry s t = ⟨lineNumber front, columnNumber front, t.item⟩ := by
  rw [entry, ht, frontOf_byteLength hs]

variable (hsize : s.utf8ByteSize < UInt32.size - 2)

include hsize

theorem toNat_place :
    (place s t).line.toNat = (entry s t).line ∧ (place s t).column.toNat = (entry s t).column := by
  rw [place, entry_eq hs ht]
  exact ⟨UInt32.toNat_ofNat_of_lt' (Nat.lt_of_succ_lt (LineTable.lineNumber_lt hs hsize)),
    UInt32.toNat_ofNat_of_lt' (LineTable.columnNumber_lt hs hsize)⟩

theorem position_eq_place : (LineTable.ofText s).position s t.span.start = .ok (place s t) := by
  have hplace : min t.span.start.toNat s.utf8ByteSize = byteLength front := by
    rw [ht, utf8ByteSize_of_toList hs]
    exact Nat.min_eq_left (Nat.le_add_right _ _)
  rw [LineTable.position_ofText hs hsize hplace, place, entry_eq hs ht]

theorem row_place : row (place s t) t = (entry s t).text ++ "\n" := by
  obtain ⟨hline, hcolumn⟩ := toNat_place hs ht hsize
  rw [row, Position.render, hline, hcolumn]
  rfl

end

end Listing

open Listing

theorem Segments.listing {s : String} (hsize : s.utf8ByteSize < UInt32.size - 2) {offset : Nat}
    {cs : List Char} {result : Except LexError (List Token)} (h : Segments offset cs result)
    {before : List Char} (hs : s.toList = before ++ cs) (hbefore : byteLength before = offset)
    (last : Option Char) (listed : String) :
    Listing.collect (.ofText s) s (.placed before cs last) listed =
      .ok (result.map fun ts => listed ++ unlines (rows s ts)) := by
  have hlimit := Cursor.le_sourceLimit hsize
  -- Where a token stands behind `front`, its row is the one that `rows` has for it.
  have hrow {front lexeme rest : List Char} (item : Item)
      (hs : s.toList = front ++ (lexeme ++ rest)) :
      let t : Token := ⟨.cover (byteLength front) lexeme, item⟩
      (LineTable.ofText s).position s t.span.start = .ok (place s t) ∧
        row (place s t) t = (entry s t).text ++ "\n" :=
    have ht := (Span.toNat_cover hlimit hs).1
    ⟨position_eq_place hs ht hsize, row_place hs ht hsize⟩
  induction h generalizing before last listed with
  | done hgap =>
      rename_i gap
      subst hbefore
      have hlength := Cursor.byteLength_le_sourceLimit hlimit hs
      obtain ⟨hp, hrow⟩ := hrow .endOfFile (show s.toList = before ++ gap ++ ([] ++ []) by
        simpa using hs)
      rw [collect_of_token (Lexer.next_of_blank last hgap hlength) hp, if_pos (by rfl), hrow,
        byteLength_append]
      simp [Except.map, rows]
  | token hgap hlexeme hrest ih =>
      rename_i gap lexeme rest item result
      subst hbefore
      have hlength := Cursor.byteLength_le_sourceLimit hlimit hs
      have hnext := Lexer.next_of_spells last hgap hlexeme (by simpa using hlength)
      obtain ⟨hp, hrow⟩ := hrow item (show s.toList = before ++ gap ++ (lexeme ++ rest) by
        simpa using hs)
      have hend (span : Span) : (Token.mk span item).isEndOfFile ≠ true :=
        ne_true_of_eq_false (Token.isEndOfFile_eq_false hlexeme.item_ne_endOfFile)
      rw [collect_of_token hnext hp, if_neg (hend _), ih (by simpa using hs)
        (by simp [Nat.add_assoc]), hrow, byteLength_append]
      cases result with
      | error e => rfl
      | ok ts => simp [Except.map, rows, String.append_assoc]
  | error hgap hlexeme =>
      have hlength := Cursor.byteLength_le_sourceLimit hlimit hs
      have hnext := Lexer.next_of_spells last hgap hlexeme (by simpa using hlength)
      rw [collect_of_error hnext, byteLength_append, hbefore]
      rfl

theorem listing_eq_unlines {s : String} (hsize : s.utf8ByteSize < UInt32.size - 2)
    {result : Except LexError (List Token)} (hlex : lex s = .ok result) :
    listing s = .ok (result.map fun ts => unlines (rows s ts)) := by
  have hlimit := Cursor.le_sourceLimit hsize
  have hsegments := (lex_eq_ok_iff_segments hlimit).mp hlex
  rw [listing, Lexer.ofSource_eq_placed hlimit, hsegments.listing hsize rfl rfl]
  simp only [String.empty_append]

theorem exists_listing {s : String} (hsize : s.utf8ByteSize < UInt32.size - 2) :
    ∃ result, lex s = .ok result ∧ listing s = .ok (result.map fun ts => unlines (rows s ts)) := by
  obtain ⟨result, hresult⟩ := exists_segments 0 s.toList
  have hlex := (lex_eq_ok_iff_segments (Cursor.le_sourceLimit hsize)).mpr hresult
  exact ⟨result, hlex, listing_eq_unlines hsize hlex⟩

end Lexis
