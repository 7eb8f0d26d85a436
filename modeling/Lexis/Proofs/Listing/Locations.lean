import Lexis.Proofs.Lexer.MaximalMunch
import Lexis.Proofs.Listing.Rows
import Mathlib.Algebra.Ring.Nat
import Mathlib.Data.Prod.Lex

/-!
What the places in a listing are worth. A line and a column lead back to the byte that they were
counted for, by cutting the text into lines and taking characters off one of them, and they grow
with every character. Since no token but the end of file is empty, the places of a listing grow
from each row to the next, and each is the place of its own token only (`listing_locates_tokens`).
-/

namespace Lexis.Text

/-- The byte offset of a line and a column: behind so many whole lines, each with its line feed, and
so many characters of the next one. Lines and columns are counted from one, and the column behind
the last character of a line still belongs to it. -/
def offsetAt? (cs : List Char) : Nat → Nat → Option Nat
  | line + 1, column + 1 => do
      let lines := cs.splitOn '\n'
      let text ← lines[line]?
      guard (column ≤ text.length)
      return ((lines.take line).map fun l => byteLength l + 1).sum + byteLength (text.take column)
  | _, _ => none

theorem exists_splitOn_append (front : List Char) :
    ∃ lines : List (List Char), lines.length = front.count '\n' ∧
      (lines.map fun l => byteLength l + 1).sum = byteLength (linesBefore front) ∧
      ∀ back, (front ++ back).splitOn '\n' = lines ++ (lineFront front ++ back).splitOn '\n' := by
  induction front using List.reverseRecOn with
  | nil => exact ⟨[], rfl, rfl, fun back => rfl⟩
  | append_singleton front c ih =>
      obtain ⟨lines, hlength, hsum, hsplit⟩ := ih
      by_cases hc : c = '\n'
      · -- The line feed completes the line in front of it.
        subst hc
        refine ⟨lines ++ [lineFront front], by simp [hlength], ?_, fun back => ?_⟩
        · have hfeed : '\n'.utf8Size = 1 := rfl
          rw [linesBefore_concat, List.map_append, List.sum_append, hsum, byteLength_append]
          simp [hfeed, ← byteLength_linesBefore_add front, Nat.add_assoc]
        · rw [List.append_assoc, List.singleton_append, hsplit, List.splitOn_append_cons_self,
            List.splitOn_eq_singleton (not_mem_lineFront front), lineFront_concat,
            List.append_assoc, List.nil_append]
      · have hpart : '\n' ∉ [c] := by simpa using Ne.symm hc
        refine ⟨lines, by simp [hlength, hc], by rw [hsum, linesBefore_append hpart],
          fun back => ?_⟩
        rw [List.append_assoc, hsplit, lineFront_append hpart, List.append_assoc]

theorem exists_splitOn_eq_cons {part : List Char} (h : '\n' ∉ part) (back : List Char) :
    ∃ text later, (part ++ back).splitOn '\n' = (part ++ text) :: later := by
  induction part with
  | nil => exact List.exists_cons_of_ne_nil (List.splitOn_ne_nil _ _)
  | cons c part ih =>
      obtain ⟨hc, hpart⟩ := List.ne_and_not_mem_of_not_mem_cons h
      obtain ⟨text, later, hsplit⟩ := ih hpart
      refine ⟨text, later, ?_⟩
      rw [List.cons_append, List.splitOn_cons_eq_if_modifyHead, if_neg (by simpa using Ne.symm hc),
        hsplit]
      rfl

theorem offsetAt?_lineNumber_columnNumber (front back : List Char) :
    offsetAt? (front ++ back) (lineNumber front) (columnNumber front) =
      some (byteLength front) := by
  obtain ⟨lines, hlength, hsum, hsplit⟩ := exists_splitOn_append front
  obtain ⟨text, later, hline⟩ := exists_splitOn_eq_cons (not_mem_lineFront front) back
  rw [lineNumber, columnNumber, Nat.add_comm 1, Nat.add_comm 1, offsetAt?, hsplit, hline, ← hlength]
  simp [hsum, byteLength_linesBefore_add, guard]

theorem toLex_lineNumber_columnNumber_lt (front : List Char) {part : List Char} (h : part ≠ []) :
    toLex (lineNumber front, columnNumber front) <
      toLex (lineNumber (front ++ part), columnNumber (front ++ part)) := by
  rw [Prod.Lex.toLex_lt_toLex]
  by_cases hpart : '\n' ∈ part
  · have hcount := List.count_pos_iff.mpr hpart
    left
    simp only [lineNumber, List.count_append]
    omega
  · have hlength := List.length_pos_iff.mpr h
    right
    simp only [lineNumber_append hpart, columnNumber_append hpart, true_and]
    omega

end Lexis.Text

namespace Lexis

open Text Listing

section

variable {s : String} (hsize : s.utf8ByteSize ≤ Cursor.sourceLimit) {offset : Nat} {cs : List Char}
  {ts : List Token}

include hsize

theorem Segments.exists_front (h : Segments offset cs (.ok ts)) {before : List Char}
    (hs : s.toList = before ++ cs) (hbefore : byteLength before = offset) :
    ∀ t ∈ ts, ∃ part back, s.toList = before ++ part ++ back ∧
      t.span.start.toNat = byteLength (before ++ part) := by
  generalize hresult : Except.ok ts = result at h
  induction h generalizing ts before with
  | done hgap =>
      rename_i gap
      cases hresult
      subst hbefore
      have hs' : s.toList = before ++ gap ++ ([] ++ []) := by simpa using hs
      intro t ht
      rw [List.mem_singleton] at ht
      refine ⟨gap, [], hs', ?_⟩
      rw [ht, ← byteLength_append]
      exact (Span.toNat_cover hsize hs').1
  | token hgap hlexeme hrest ih =>
      rename_i gap lexeme rest item result
      cases result with
      | error e => contradiction
      | ok us =>
          cases hresult
          subst hbefore
          have hs' : s.toList = before ++ gap ++ (lexeme ++ rest) := by simpa using hs
          intro t ht
          rcases List.mem_cons.mp ht with rfl | ht
          · refine ⟨gap, _, hs', ?_⟩
            rw [← byteLength_append]
            exact (Span.toNat_cover hsize hs').1
          · obtain ⟨part, back, hback, hstart⟩ := ih
              (show s.toList = before ++ gap ++ lexeme ++ rest by simpa using hs)
              (by simp [Nat.add_assoc]) rfl t ht
            exact ⟨gap ++ lexeme ++ part, back, by simpa using hback, by simpa using hstart⟩
  | error => contradiction

/-- Each token has more text in front of it than those before it, since their own text is not
empty. -/
theorem Segments.pairwise_frontOf (h : Segments offset cs (.ok ts)) {before : List Char}
    (hs : s.toList = before ++ cs) (hbefore : byteLength before = offset) :
    ts.Pairwise fun t u => ∃ part, part ≠ [] ∧
      frontOf s u.span.start.toNat = frontOf s t.span.start.toNat ++ part := by
  generalize hresult : Except.ok ts = result at h
  induction h generalizing ts before with
  | done hgap =>
      cases hresult
      exact List.pairwise_singleton _ _
  | token hgap hlexeme hrest ih =>
      rename_i gap lexeme rest item result
      cases result with
      | error e => contradiction
      | ok us =>
          cases hresult
          subst hbefore
          have hfront : s.toList = before ++ gap ++ (lexeme ++ rest) := by simpa using hs
          have hs' : s.toList = before ++ gap ++ lexeme ++ rest := by simpa using hs
          have hoffset : byteLength (before ++ gap ++ lexeme) =
              byteLength before + byteLength gap + byteLength lexeme := by simp [Nat.add_assoc]
          refine .cons (fun u hu => ?_) (ih hs' hoffset rfl)
          obtain ⟨part, back, hback, hstart⟩ := hrest.exists_front hsize hs' hoffset u hu
          refine ⟨lexeme ++ part, by simp [hlexeme.ne_nil], ?_⟩
          rw [hstart, frontOf_byteLength hback, ← byteLength_append,
            (Span.toNat_cover hsize hfront).1, frontOf_byteLength hfront, List.append_assoc]
  | error => contradiction

end

/-- A listing of `s` with a row for each of the tokens `ts`, in their order, where the rows have the
places `ps`. -/
structure Listing.Locates (s : String) (ts : List Token) (ps : List Position) : Prop where
  /-- The place in a row is the one that the line table has for the token. -/
  position : List.Forall₂ (fun t p => (LineTable.ofText s).position s t.span.start = .ok p) ts ps
  listed : listing s = .ok (.ok (unlines (List.zipWith
    (fun t p => (Entry.mk p.line.toNat p.column.toNat t.item).text) ts ps)))
  closed : ts.getLast?.any Token.isEndOfFile = true
  increasing : ps.Pairwise fun p q =>
    toLex (p.line.toNat, p.column.toNat) < toLex (q.line.toNat, q.column.toNat)
  /-- The place in a row leads back to the token. -/
  offset : List.Forall₂ (fun t p =>
    offsetAt? s.toList p.line.toNat p.column.toNat = some t.span.start.toNat) ts ps

theorem Segments.locates {s : String} (hsize : s.utf8ByteSize < UInt32.size - 2) {ts : List Token}
    (h : Segments 0 s.toList (.ok ts)) : Listing.Locates s ts (ts.map (place s)) := by
  have hlimit := Cursor.le_sourceLimit hsize
  have hlex := (lex_eq_ok_iff_segments hlimit).mpr h
  have hs : s.toList = [] ++ s.toList := rfl
  have hfront := h.exists_front hlimit hs rfl
  have hplace : ∀ t ∈ ts, (place s t).line.toNat = (entry s t).line ∧
      (place s t).column.toNat = (entry s t).column := by
    intro t ht
    obtain ⟨front, back, hs, hstart⟩ := hfront t ht
    exact toNat_place hs hstart hsize
  refine ⟨?position, ?listed, ?closed, ?increasing, ?offset⟩
  case position =>
    rw [List.forall₂_map_right_iff, List.forall₂_same]
    intro t ht
    obtain ⟨front, back, hs, hstart⟩ := hfront t ht
    exact position_eq_place hs hstart hsize
  case listed =>
    have hrows : rows s ts = List.zipWith
        (fun t p => (Entry.mk p.line.toNat p.column.toNat t.item).text) ts (ts.map (place s)) := by
      rw [List.zipWith_map_right, List.zipWith_self, rows]
      apply List.map_congr_left
      intro t ht
      rw [(hplace t ht).1, (hplace t ht).2]
      rfl
    rw [listing_eq_unlines hsize hlex, ← hrows]
    rfl
  case closed =>
    obtain ⟨us, rfl, -⟩ := h.munchesFrom hlimit hs rfl
    rw [List.getLast?_concat]
    rfl
  case increasing =>
    rw [List.pairwise_map]
    refine (h.pairwise_frontOf hlimit hs rfl).imp_of_mem ?_
    rintro t u ht hu ⟨part, hpart, hfront⟩
    rw [(hplace t ht).1, (hplace t ht).2, (hplace u hu).1, (hplace u hu).2]
    simp only [entry, hfront]
    exact toLex_lineNumber_columnNumber_lt _ hpart
  case offset =>
    rw [List.forall₂_map_right_iff, List.forall₂_same]
    intro t ht
    obtain ⟨front, back, hs, hstart⟩ := hfront t ht
    rw [(hplace t ht).1, (hplace t ht).2, entry_eq hs hstart, hstart, hs]
    exact offsetAt?_lineNumber_columnNumber front back

/-- Every source that is not too long for its lines and columns to be numbered can be lexed. Its
listing ends in the error that lexing ends in, and otherwise it has a row for each token. The places
in the rows grow from each row to the next, and each leads back to its token. -/
theorem listing_locates_tokens (s : String) (hsize : s.utf8ByteSize < UInt32.size - 2) :
    (∃ result, lex s = .ok result) ∧
      (∀ e, listing s = .ok (.error e) ↔ lex s = .ok (.error e)) ∧
      ∀ ts, lex s = .ok (.ok ts) → ∃ ps, Listing.Locates s ts ps := by
  have hlimit := Cursor.le_sourceLimit hsize
  obtain ⟨result, hlex, hlisting⟩ := exists_listing hsize
  refine ⟨⟨result, hlex⟩, fun e => ?_, fun ts hts => ?_⟩
  · rw [hlex, hlisting]
    cases result with
    | error e' => simp [Except.map]
    | ok ts => simp [Except.map]
  · exact ⟨_, ((lex_eq_ok_iff_segments hlimit).mp hts).locates hsize⟩

theorem listing_locates_tokens_of_two_lines :
    "é\n\"ü\" x".utf8ByteSize < UInt32.size - 2 ∧
      listing "é\n\"ü\" x" =
        .ok (.ok "1:1 Identifier é\n2:1 String \"ü\"\n2:5 Identifier x\n2:6 EndOfFile\n") ∧
      offsetAt? "é\n\"ü\" x".toList 2 5 = some 8 ∧
      ∃ ps, Listing.Locates "é\n\"ü\" x" [⟨⟨0, 2⟩, .identifier "é"⟩, ⟨⟨3, 7⟩, .string "ü"⟩,
        ⟨⟨8, 9⟩, .identifier "x"⟩, ⟨⟨9, 9⟩, .endOfFile⟩] ps :=
  ⟨by decide, by decide +kernel, by decide,
    (listing_locates_tokens _ (by decide)).2.2 _ (by decide +kernel)⟩

end Lexis
