import Lexis.Proofs.Listing.Rows
import Lexis.Proofs.Text.Numeral
import Lexis.Proofs.Text.Quoted

/-!
A listing can be read in one way only. The parts of a row end where a mark follows that does not
occur in them, and each part is the written form of one number, kind or value alone
(`Entry.text_injective`). No row has a line feed in it, so the rows of a listing are found again, and
equal listings are listings of the same tokens at the same places.
-/

namespace Lexis

open Text

theorem append_cons_inj_of_not_mem {sep : Char} {as as' bs bs' : List Char} (has : sep ∉ as)
    (has' : sep ∉ as') (h : as ++ sep :: bs = as' ++ sep :: bs') : as = as' ∧ bs = bs' := by
  induction as generalizing as' with
  | nil =>
      cases as' with
      | nil => exact ⟨rfl, (List.cons.inj h).2⟩
      | cons a as' =>
          obtain ⟨rfl, -⟩ := List.cons.inj h
          exact absurd List.mem_cons_self has'
  | cons a as ih =>
      cases as' with
      | nil =>
          obtain ⟨rfl, -⟩ := List.cons.inj h
          exact absurd List.mem_cons_self has
      | cons a' as' =>
          obtain ⟨rfl, htail⟩ := List.cons.inj h
          obtain ⟨rfl, hbs⟩ := ih (List.not_mem_of_not_mem_cons has)
            (List.not_mem_of_not_mem_cons has') htail
          exact ⟨rfl, hbs⟩

theorem toList_unlines_cons (row : String) (rows : List String) :
    (unlines (row :: rows)).toList = row.toList ++ '\n' :: (unlines rows).toList := by
  simp

theorem unlines_inj {rows rows' : List String} (hrows : ∀ row ∈ rows, '\n' ∉ row.toList)
    (hrows' : ∀ row ∈ rows', '\n' ∉ row.toList) (h : unlines rows = unlines rows') :
    rows = rows' := by
  have hlists := congrArg String.toList h
  clear h
  induction rows generalizing rows' with
  | nil =>
      cases rows' with
      | nil => rfl
      | cons row' rows' => simp at hlists
  | cons row rows ih =>
      cases rows' with
      | nil => simp at hlists
      | cons row' rows' =>
          rw [toList_unlines_cons, toList_unlines_cons] at hlists
          obtain ⟨hrow, htail⟩ := append_cons_inj_of_not_mem (hrows row List.mem_cons_self)
            (hrows' row' List.mem_cons_self) hlists
          rw [String.toList_inj.mp hrow, ih (fun r hr => hrows r (List.mem_cons_of_mem _ hr))
            (fun r hr => hrows' r (List.mem_cons_of_mem _ hr)) htail]

theorem count_unlines {rows : List String} (hrows : ∀ row ∈ rows, '\n' ∉ row.toList) :
    (unlines rows).toList.count '\n' = rows.length := by
  induction rows with
  | nil => rfl
  | cons row rows ih =>
      rw [toList_unlines_cons, List.count_append, List.count_cons_self,
        List.count_eq_zero_of_not_mem (hrows row List.mem_cons_self),
        ih fun r hr => hrows r (List.mem_cons_of_mem _ hr), Nat.zero_add, List.length_cons]

namespace Text.Decimal

theorem ofNat_inj {m n : Nat} (h : ofNat m = ofNat n) : m = n := by
  have hdigits : Nat.toDigits 10 m = Nat.toDigits 10 n := String.ofList_inj.mp h
  have hvalue := congrArg (fun digits => Nat.ofDigitChars 10 digits 0) hdigits
  simpa using hvalue

theorem integer_ofInt (n : Int) : integer (ofInt n).toList = .ok n := by
  rw [toList_ofInt, integer_numeral (isDigits_toDigits _), numeralValue_toDigits]

theorem ofInt_inj {m n : Int} (h : ofInt m = ofInt n) : m = n := by
  have hread := integer_ofInt m
  rw [h, integer_ofInt, Except.ok.injEq] at hread
  exact hread.symm

theorem not_mem_ofNat {c : Char} (h : c.isDigit = false) (n : Nat) : c ∉ (ofNat n).toList := by
  intro hmem
  rw [isDigit_of_mem_ofNat hmem] at h
  contradiction

end Text.Decimal

theorem Kind.ofName?_name (k : Kind) : ofName? k.name = some k := by
  cases k with
  | keyword word => cases word <;> decide
  | punctuation mark => cases mark <;> decide
  | _ => decide

theorem Kind.name_inj {k k' : Kind} (h : k.name = k'.name) : k = k' := by
  have hread := ofName?_name k
  rw [h, ofName?_name, Option.some.injEq] at hread
  exact hread.symm

theorem Kind.not_mem_name (k : Kind) : ' ' ∉ k.name.toList ∧ '\n' ∉ k.name.toList := by
  cases k with
  | keyword word => cases word <;> decide
  | punctuation mark => cases mark <;> decide
  | _ => decide

theorem Item.eq_of_render_eq {item item' : Item} (hkind : item.kind = item'.kind)
    (h : item.value.render = item'.value.render) : item = item' := by
  cases item with
  | identifier name =>
      cases item' with
      | identifier name' => exact congrArg Item.identifier h
      | _ => contradiction
  | integer number =>
      cases item' with
      | integer number' =>
          exact congrArg Item.integer (Int64.toInt_inj.mp (Decimal.ofInt_inj h))
      | _ => contradiction
  | string body =>
      cases item' with
      | string body' => exact congrArg Item.string (quote_inj h)
      | _ => contradiction
  | keyword word =>
      cases item' with
      | keyword word' => exact congrArg Item.keyword (Kind.keyword.inj hkind)
      | _ => contradiction
  | punctuation mark =>
      cases item' with
      | punctuation mark' => exact congrArg Item.punctuation (Kind.punctuation.inj hkind)
      | _ => contradiction
  | endOfFile =>
      cases item' with
      | endOfFile => rfl
      | _ => contradiction
  | unknown =>
      cases item' with
      | unknown => rfl
      | _ => contradiction

theorem Value.isNull_iff {v : Value} : v.isNull = true ↔ v = .null := by
  cases v <;> simp [isNull]

namespace Listing

theorem Entry.toList_value (r : Entry) :
    r.value.toList = if r.item.value.isNull then [] else ' ' :: r.item.value.render.toList := by
  rw [Entry.value]
  split
  · rfl
  · simp

theorem Entry.toList_text (r : Entry) :
    r.text.toList = (Decimal.ofNat r.line).toList ++ ':' :: ((Decimal.ofNat r.column).toList ++
      ' ' :: (r.item.kind.name.toList ++ r.value.toList)) := by
  simp [Entry.text]

/-- The kind ends at the first space, or with the row if there is no value. -/
theorem Entry.item_eq {r r' : Entry}
    (h : r.item.kind.name.toList ++ r.value.toList = r'.item.kind.name.toList ++ r'.value.toList) :
    r.item = r'.item := by
  have hspace := (r.item.kind.not_mem_name).1
  have hspace' := (r'.item.kind.not_mem_name).1
  rw [Entry.toList_value, Entry.toList_value] at h
  split at h
  · rename_i hnull
    split at h
    · rename_i hnull'
      rw [List.append_nil, List.append_nil] at h
      apply Item.eq_of_render_eq (Kind.name_inj (String.toList_inj.mp h))
      rw [Value.isNull_iff.mp hnull, Value.isNull_iff.mp hnull']
    · rw [List.append_nil] at h
      rw [h] at hspace
      exact absurd (by simp) hspace
  · split at h
    · rw [List.append_nil] at h
      rw [← h] at hspace'
      exact absurd (by simp) hspace'
    · obtain ⟨hname, hvalue⟩ := append_cons_inj_of_not_mem hspace hspace' h
      exact Item.eq_of_render_eq (Kind.name_inj (String.toList_inj.mp hname))
        (String.toList_inj.mp hvalue)

theorem Entry.text_injective : Function.Injective Entry.text := by
  rintro ⟨line, column, item⟩ ⟨line', column', item'⟩ h
  have hlists := congrArg String.toList h
  rw [Entry.toList_text, Entry.toList_text] at hlists
  obtain ⟨hline, hlists⟩ := append_cons_inj_of_not_mem (Decimal.not_mem_ofNat (by decide) _)
    (Decimal.not_mem_ofNat (by decide) _) hlists
  obtain ⟨hcolumn, hlists⟩ := append_cons_inj_of_not_mem (Decimal.not_mem_ofNat (by decide) _)
    (Decimal.not_mem_ofNat (by decide) _) hlists
  obtain rfl : line = line' := Decimal.ofNat_inj (String.toList_inj.mp hline)
  obtain rfl : column = column' := Decimal.ofNat_inj (String.toList_inj.mp hcolumn)
  obtain rfl : item = item' := Entry.item_eq hlists
  rfl

theorem Entry.not_mem_text {r : Entry} (h : '\n' ∉ r.item.value.render.toList) :
    '\n' ∉ r.text.toList := by
  have hname := (r.item.kind.not_mem_name).2
  have hvalue : '\n' ∉ r.value.toList := by
    rw [Entry.toList_value]
    split
    · simp
    · simpa using h
  have hnumber (n : Nat) : '\n' ∉ (Decimal.ofNat n).toList :=
    Decimal.not_mem_ofNat (by decide) n
  rw [Entry.toList_text]
  simp [hname, hvalue, hnumber]

end Listing

theorem Spells.not_mem_identifier {lexeme : List Char} {next : Option Char} {name : String}
    (h : Spells lexeme next (.ok (.identifier name))) : '\n' ∉ name.toList := by
  have hfeed : isWhitespace '\n' = true := by decide
  cases h with
  | identifier hfirst hmore =>
      rw [String.toList_ofList, List.mem_cons, not_or]
      constructor
      · rintro rfl
        rw [Scan.isWhitespace_eq_false_of_startsName hfirst] at hfeed
        contradiction
      · intro hmem
        have hname := hmore _ hmem
        rw [Scan.continuesName_eq_false_of_isWhitespace hfeed] at hname
        contradiction

/-- Numbers are written in one line, and so are quoted texts; of names this has to be known. -/
theorem Item.not_mem_render {item : Item}
    (h : ∀ name, item = .identifier name → '\n' ∉ name.toList) :
    '\n' ∉ item.value.render.toList := by
  have hnull : '\n' ∉ Value.null.render.toList := by decide
  cases item with
  | identifier name => exact h name rfl
  | integer number =>
      change '\n' ∉ (Decimal.ofInt number.toInt).toList
      rw [Decimal.toList_ofInt]
      exact not_mem_of_isLineBreak
        (Decimal.isLineBreak_eq_false_of_mem_numeral (Decimal.isDigits_toDigits _))
  | string body => exact not_mem_quote body
  | _ => exact hnull

theorem Segments.not_mem_identifier {offset : Nat} {cs : List Char} {ts : List Token}
    (h : Segments offset cs (.ok ts)) :
    ∀ t ∈ ts, ∀ name, t.item = .identifier name → '\n' ∉ name.toList := by
  generalize hresult : Except.ok ts = result at h
  induction h generalizing ts with
  | done =>
      cases hresult
      simp
  | token hgap hlexeme hrest ih =>
      rename_i item result
      cases result with
      | error e => contradiction
      | ok ts' =>
          cases hresult
          intro t ht name hname
          rcases List.mem_cons.mp ht with rfl | ht
          · obtain rfl : item = .identifier name := hname
            exact hlexeme.not_mem_identifier
          · exact ih rfl t ht name hname
  | error => contradiction

namespace Listing

variable {s s' : String} {ts ts' : List Token}

theorem not_mem_rows (hsize : s.utf8ByteSize < UInt32.size - 2) (hlex : lex s = .ok (.ok ts)) :
    ∀ row ∈ rows s ts, '\n' ∉ row.toList := by
  have hsegments := (lex_eq_ok_iff_segments (Cursor.le_sourceLimit hsize)).mp hlex
  intro row hrow
  obtain ⟨t, ht, rfl⟩ := List.mem_map.mp hrow
  exact Entry.not_mem_text (Item.not_mem_render (hsegments.not_mem_identifier t ht))

/-- The same is told of a token of `s` and of one of `s'`: kind and value, and line and column of
the place where it begins. -/
structure SameRow (s s' : String) (t t' : Token) : Prop where
  kind_eq : t.kind = t'.kind
  value_eq : t.value = t'.value
  line_eq : lineNumber (frontOf s t.span.start.toNat) = lineNumber (frontOf s' t'.span.start.toNat)
  column_eq : columnNumber (frontOf s t.span.start.toNat) =
    columnNumber (frontOf s' t'.span.start.toNat)

theorem forall₂_sameRow (h : rows s ts = rows s' ts') : List.Forall₂ (SameRow s s') ts ts' := by
  induction ts generalizing ts' with
  | nil =>
      cases ts' with
      | nil => exact .nil
      | cons t' ts' => contradiction
  | cons t ts ih =>
      cases ts' with
      | nil => contradiction
      | cons t' ts' =>
          obtain ⟨hrow, htail⟩ := List.cons.inj h
          have hentry := Entry.text_injective hrow
          have hitem : t.item = t'.item := congrArg Entry.item hentry
          refine .cons ⟨?_, ?_, congrArg Entry.line hentry, congrArg Entry.column hentry⟩ (ih htail)
          · rw [Token.kind, hitem, Token.kind]
          · rw [Token.value, hitem, Token.value]

theorem length_rows (s : String) (ts : List Token) : (rows s ts).length = ts.length :=
  List.length_map _

theorem exists_lex_of_listing {listed : String} (hsize : s.utf8ByteSize < UInt32.size - 2)
    (h : listing s = .ok (.ok listed)) :
    ∃ ts, lex s = .ok (.ok ts) ∧ listed = unlines (rows s ts) ∧
      ∀ row ∈ rows s ts, '\n' ∉ row.toList := by
  obtain ⟨result, hlex, hlisting⟩ := exists_listing hsize
  rw [hlisting, Except.ok.injEq] at h
  cases result with
  | error e => contradiction
  | ok ts => exact ⟨ts, hlex, (Except.ok.inj h).symm, not_mem_rows hsize hlex⟩

end Listing

open Listing

/-- A listing has one line feed for each token, and what two sources with the same listing yield
are tokens of the same kinds and values in the same lines and columns. -/
theorem listing_unambiguous (s s' : String) (h : s.utf8ByteSize < UInt32.size - 2)
    (h' : s'.utf8ByteSize < UInt32.size - 2) (listed listed' : String)
    (hlisted : listing s = .ok (.ok listed)) (hlisted' : listing s' = .ok (.ok listed')) :
    ∃ ts ts', lex s = .ok (.ok ts) ∧ lex s' = .ok (.ok ts') ∧
      listed.toList.count '\n' = ts.length ∧ listed'.toList.count '\n' = ts'.length ∧
      (listed = listed' → List.Forall₂ (SameRow s s') ts ts') := by
  obtain ⟨ts, hlex, rfl, hrows⟩ := exists_lex_of_listing h hlisted
  obtain ⟨ts', hlex', rfl, hrows'⟩ := exists_lex_of_listing h' hlisted'
  refine ⟨ts, ts', hlex, hlex', ?_, ?_, ?_⟩
  · rw [count_unlines hrows, length_rows]
  · rw [count_unlines hrows', length_rows]
  · intro hsame
    exact forall₂_sameRow (unlines_inj hrows hrows' hsame)

/-- A blank for another, and a blank in place of a leading zero: the sources differ, and their
listings do not. -/
theorem listing_unambiguous_of_leading_zero :
    listing "\"\\\" 07" = listing "\"\\\"\t7 " ∧
      ∃ ts ts', lex "\"\\\" 07" = .ok (.ok ts) ∧ lex "\"\\\"\t7 " = .ok (.ok ts') ∧
        ts.length = 3 ∧ List.Forall₂ (SameRow "\"\\\" 07" "\"\\\"\t7 ") ts ts' := by
  have hlisted : listing "\"\\\" 07" =
      .ok (.ok "1:1 String \"\\\\\"\n1:5 Integer 7\n1:7 EndOfFile\n") := by
    decide +kernel
  have hlisted' : listing "\"\\\"\t7 " =
      .ok (.ok "1:1 String \"\\\\\"\n1:5 Integer 7\n1:7 EndOfFile\n") := by
    decide +kernel
  obtain ⟨ts, ts', hlex, hlex', hcount, -, hsame⟩ :=
    listing_unambiguous _ _ (by decide) (by decide) _ _ hlisted hlisted'
  exact ⟨hlisted.trans hlisted'.symm, ts, ts', hlex, hlex', hcount.symm.trans (by decide),
    hsame rfl⟩

end Lexis
