import Mathlib.Control.Monad.Basic
import Lexis.Proofs.LineTable.Limits

/-!
The lines of a text as its parts. A text is its lines, each with the line feed that ends it, one
after the other. The table finds each of them between the starts of two lines, and shows it without
the line breaks at its end, so that nothing else of the text is left out (`partitions_ofText`).
-/

namespace Lexis.Text

/-- The lines of a text, cut behind every line feed. Behind the last one there is a line too, which
may be empty. -/
def fullLines : List Char → List (List Char)
  | [] => [[]]
  | c :: cs => if c = '\n' then [c] :: fullLines cs else (fullLines cs).modifyHead (c :: ·)

theorem fullLines_of_not_mem {body : List Char} (h : '\n' ∉ body) : fullLines body = [body] := by
  induction body with
  | nil => rfl
  | cons c body ih =>
      obtain ⟨hc, hbody⟩ := List.ne_and_not_mem_of_not_mem_cons h
      rw [fullLines, if_neg (Ne.symm hc), ih hbody]
      rfl

theorem fullLines_append {body : List Char} (h : '\n' ∉ body) (rest : List Char) :
    fullLines (body ++ '\n' :: rest) = (body ++ ['\n']) :: fullLines rest := by
  induction body with
  | nil => simp [fullLines]
  | cons c body ih =>
      obtain ⟨hc, hbody⟩ := List.ne_and_not_mem_of_not_mem_cons h
      rw [List.cons_append, fullLines, if_neg (Ne.symm hc), ih hbody]
      rfl

/-- Induction over the lines of a text, from the last one on. -/
@[elab_as_elim]
theorem lineInduction {motive : List Char → Prop} (cs : List Char)
    (last : ∀ body, '\n' ∉ body → motive body)
    (next : ∀ body rest, '\n' ∉ body → motive rest → motive (body ++ '\n' :: rest)) :
    motive cs := by
  by_cases h : '\n' ∈ cs
  · obtain ⟨body, rest, rfl, hbody⟩ := List.eq_append_cons_of_mem h
    exact next body rest hbody (lineInduction rest last next)
  · exact last cs h
termination_by cs.length

theorem flatten_fullLines (cs : List Char) : (fullLines cs).flatten = cs := by
  induction cs using lineInduction with
  | last body hbody => simp [fullLines_of_not_mem hbody]
  | next body rest hbody ih => simp [fullLines_append hbody, ih]

theorem length_fullLines (cs : List Char) : (fullLines cs).length = lineNumber cs := by
  induction cs using lineInduction with
  | last body hbody =>
      simp [fullLines_of_not_mem hbody, lineNumber, List.count_eq_zero_of_not_mem hbody]
  | next body rest hbody ih =>
      rw [fullLines_append hbody, List.length_cons, ih]
      simp only [lineNumber, List.count_append, List.count_eq_zero_of_not_mem hbody,
        List.count_cons_self]
      omega

theorem lineFront_append_cons (front rest : List Char) :
    lineFront (front ++ '\n' :: rest) = lineFront rest := by
  induction rest using List.reverseRecOn with
  | nil => exact lineFront_concat front
  | append_singleton rest c ih =>
      rw [← List.cons_append, ← List.append_assoc]
      by_cases hc : c = '\n'
      · rw [hc, lineFront_concat, lineFront_concat]
      · have hpart : '\n' ∉ [c] := by simpa using Ne.symm hc
        rw [lineFront_append hpart, lineFront_append hpart, ih]

theorem exists_fullLine_eq {cs : List Char} {i : Nat} {line : List Char}
    (h : (fullLines cs)[i]? = some line) :
    ∃ front back body, cs = front ++ back ∧ lineNumber front = i + 1 ∧ lineFront front = [] ∧
      lineRest back = line ∧ '\n' ∉ body ∧
      line = body ++ if i + 1 < (fullLines cs).length then ['\n'] else [] := by
  induction cs using lineInduction generalizing i with
  | last body hbody =>
      rw [fullLines_of_not_mem hbody, List.getElem?_singleton] at h
      split at h
      · rename_i hi
        obtain rfl := Option.some.inj h
        refine ⟨[], body, body, rfl, by rw [hi]; rfl, rfl, ?_, hbody, ?_⟩
        · have hwhole : lineRest (body ++ []) = body ++ lineRest [] := lineRest_append hbody
          simpa [lineRest] using hwhole
        · simp [fullLines_of_not_mem hbody]
      · contradiction
  | next body rest hbody ih =>
      rw [fullLines_append hbody] at h ⊢
      cases i with
      | zero =>
          obtain rfl := Option.some.inj h
          have hpos : 0 < (fullLines rest).length := by
            rw [length_fullLines]
            exact lineNumber_pos rest
          refine ⟨[], _, body, rfl, rfl, rfl, ?_, hbody, ?_⟩
          · simp [lineRest_append hbody, lineRest]
          · rw [List.length_cons, if_pos (by omega)]
      | succ i =>
          obtain ⟨front, back, part, rfl, hnumber, hfront, hrest, hpart, hline⟩ := ih h
          refine ⟨body ++ '\n' :: front, back, part, by simp, ?_, ?_, hrest, hpart, ?_⟩
          · simp only [lineNumber, List.count_append, List.count_eq_zero_of_not_mem hbody,
              List.count_cons_self] at hnumber ⊢
            omega
          · rw [lineFront_append_cons, hfront]
          · rw [List.length_cons, hline]
            simp only [Nat.add_lt_add_iff_right]

theorem exists_rdropWhile_append {body : List Char} (h : '\n' ∉ body) :
    ∃ n, body.rdropWhile isLineBreak ++ List.replicate n '\r' = body := by
  have hreturns : ∀ c ∈ body.rtakeWhile isLineBreak, c = '\r' := by
    intro c hc
    have hmem : c ∈ body := (List.rtakeWhile_suffix _ _).subset hc
    rcases isLineBreak_iff.mp (List.mem_rtakeWhile_imp hc) with hreturn | hfeed
    · exact hreturn
    · rw [hfeed] at hmem
      exact absurd hmem h
  refine ⟨(body.rtakeWhile isLineBreak).length, ?_⟩
  rw [← List.eq_replicate_of_mem hreturns]
  exact List.rdropWhile_append_rtakeWhile

end Lexis.Text

namespace Lexis.LineTable

open Text

/-- The table shows every line of `s`, and the lines are all of `s`. -/
structure Partitions (t : LineTable) (s : String) : Prop where
  lineCount_eq : t.lineCount = (fullLines s.toList).length
  flatten_eq : (fullLines s.toList).flatten = s.toList
  present_iff : ∀ i, ∃ shown, t.lineText s i = .ok shown ∧
    (shown.isSome = true ↔ 1 ≤ i.toNat ∧ i.toNat ≤ t.lineCount)
  /-- A line is shown without the carriage returns and the line feed at its end. -/
  lineText_eq : ∀ i line, t.lineText s i = .ok (some line) →
    ∃ full n, (fullLines s.toList)[i.toNat - 1]? = some full ∧ '\n' ∉ line.toList ∧
      line.toList = full.rdropWhile isLineBreak ∧
      full = line.toList ++ List.replicate n '\r' ++ if i.toNat < t.lineCount then ['\n'] else []
  /-- A line reaches from its start to the start of the next one, or to the end of the text. -/
  slice_eq : ∀ i, 1 ≤ i.toNat → i.toNat ≤ t.lineCount → ∃ start full,
    t.start? i = some start ∧ (fullLines s.toList)[i.toNat - 1]? = some full ∧
    slice? s start.toNat ((t.start? (i + 1)).elim s.utf8ByteSize UInt32.toNat) =
      some (String.ofList full)

theorem isSome_start?_iff {t : LineTable} {i : UInt32} :
    (t.start? i).isSome = true ↔ 1 ≤ i.toNat ∧ i.toNat ≤ t.lineCount := by
  rw [start?]
  split
  · rename_i hzero
    simp [hzero]
  · rename_i hne
    rw [← UInt32.toNat_inj, UInt32.toNat_zero] at hne
    rw [Option.isSome_iff_ne_none, ne_eq, Array.getElem?_eq_none_iff, lineCount]
    omega

theorem exists_front_of_line {s : String} {i : UInt32} (hpos : 1 ≤ i.toNat)
    (hle : i.toNat ≤ (ofText s).lineCount) :
    ∃ front back body, s.toList = front ++ back ∧ i = .ofNat (lineNumber front) ∧
      lineFront front = [] ∧ (fullLines s.toList)[i.toNat - 1]? = some (lineRest back) ∧
      '\n' ∉ body ∧
      lineRest back = body ++ if i.toNat < (ofText s).lineCount then ['\n'] else [] := by
  rw [lineCount_ofText, ← length_fullLines] at hle ⊢
  obtain ⟨line, hline⟩ : ∃ line, (fullLines s.toList)[i.toNat - 1]? = some line :=
    ⟨_, List.getElem?_eq_getElem (by omega)⟩
  obtain ⟨front, back, body, hs, hnumber, hfront, rfl, hbody, hshape⟩ := exists_fullLine_eq hline
  rw [Nat.sub_add_cancel hpos] at hnumber hshape
  exact ⟨front, back, body, hs, by rw [hnumber, UInt32.ofNat_toNat], hfront, hline, hbody, hshape⟩

section

variable {s : String} (hsize : s.utf8ByteSize < UInt32.size - 2) {i : UInt32}

include hsize

theorem lineText_ofText_of_line (hpos : 1 ≤ i.toNat) (hle : i.toNat ≤ (ofText s).lineCount) :
    ∃ full n, (ofText s).lineText s i = .ok (some (String.ofList (full.rdropWhile isLineBreak))) ∧
      (fullLines s.toList)[i.toNat - 1]? = some full ∧ '\n' ∉ full.rdropWhile isLineBreak ∧
      full = full.rdropWhile isLineBreak ++ List.replicate n '\r' ++
        if i.toNat < (ofText s).lineCount then ['\n'] else [] := by
  obtain ⟨front, back, body, hs, rfl, hfront, hline, hbody, hshape⟩ :=
    exists_front_of_line hpos hle
  have htext := lineText_ofText hs hsize
  have hfeed := not_mem_shownLine front back
  rw [shownLine, hfront, List.nil_append] at htext hfeed
  obtain ⟨n, hreturns⟩ := exists_rdropWhile_append hbody
  have hshown : (lineRest back).rdropWhile isLineBreak = body.rdropWhile isLineBreak := by
    rw [hshape]
    split
    · exact List.rdropWhile_concat_pos _ _ _ (by decide)
    · rw [List.append_nil]
  refine ⟨lineRest back, n, htext, hline, hfeed, ?_⟩
  rw [hshown, hreturns]
  exact hshape

theorem slice?_ofText_of_line (hpos : 1 ≤ i.toNat) (hle : i.toNat ≤ (ofText s).lineCount) :
    ∃ start full, (ofText s).start? i = some start ∧
      (fullLines s.toList)[i.toNat - 1]? = some full ∧
      slice? s start.toNat (((ofText s).start? (i + 1)).elim s.utf8ByteSize UInt32.toNat) =
        some (String.ofList full) := by
  obtain ⟨front, back, body, hs, rfl, hfront, hline, -, -⟩ := exists_front_of_line hpos hle
  obtain ⟨later, hlater⟩ := exists_lineRest_append back
  have hbounds := byteLength_add_lt hs hsize
  have hbefore : linesBefore front = front := by
    have hsplit := linesBefore_append_lineFront front
    rwa [hfront, List.append_nil] at hsplit
  have hnext : UInt32.ofNat (lineNumber front) + 1 = .ofNat (lineNumber front + 1) :=
    (UInt32.ofNat_add _ _).symm
  have hcut : s.toList = front ++ (lineRest back ++ later) := by
    rw [hs, ← hlater]
  refine ⟨_, _, start?_ofText hs (Nat.lt_of_succ_lt (lineNumber_lt hs hsize)), hline, ?_⟩
  rw [hnext, stop_ofText hs hsize, hbefore, UInt32.toNat_ofNat_of_lt' (by omega)]
  exact slice?_of_toList_eq hcut

end

/-- The lines that the table of a text shows are parts of the text, one for each number up to their
count. Put together with the line breaks at their ends, they are the text. -/
theorem partitions_ofText (s : String) (hsize : s.utf8ByteSize < UInt32.size - 2) :
    (ofText s).Partitions s where
  lineCount_eq := by
    rw [lineCount_ofText, length_fullLines]
  flatten_eq := flatten_fullLines s.toList
  present_iff := by
    intro i
    by_cases hi : 1 ≤ i.toNat ∧ i.toNat ≤ (ofText s).lineCount
    · obtain ⟨full, n, htext, -, -, -⟩ := lineText_ofText_of_line hsize hi.1 hi.2
      exact ⟨_, htext, iff_of_true rfl hi⟩
    · have hnone : (ofText s).start? i = none := by
        rwa [← isSome_start?_iff, Option.not_isSome_iff_eq_none] at hi
      refine ⟨none, ?_, iff_of_false (by simp) hi⟩
      rw [lineText, hnone]
      rfl
  lineText_eq := by
    intro i line hline
    have hi : 1 ≤ i.toNat ∧ i.toNat ≤ (ofText s).lineCount := by
      rw [← isSome_start?_iff, Option.isSome_iff_ne_none]
      intro hnone
      rw [lineText, hnone] at hline
      simp at hline
    obtain ⟨full, n, htext, hfull, hfeed, hshape⟩ := lineText_ofText_of_line hsize hi.1 hi.2
    obtain rfl := Option.some.inj (Except.ok.inj (htext.symm.trans hline))
    rw [String.toList_ofList]
    exact ⟨full, n, hfull, hfeed, rfl, hshape⟩
  slice_eq := fun _ hpos hle => slice?_ofText_of_line hsize hpos hle

theorem partitions_ofText_returns :
    "é\r\r\n\rx\r".utf8ByteSize < UInt32.size - 2 ∧
      (ofText "é\r\r\n\rx\r").Partitions "é\r\r\n\rx\r" ∧
      fullLines "é\r\r\n\rx\r".toList = [['é', '\r', '\r', '\n'], ['\r', 'x', '\r']] ∧
      (ofText "é\r\r\n\rx\r").lineText "é\r\r\n\rx\r" 1 = .ok (some "é") ∧
      (ofText "é\r\r\n\rx\r").lineText "é\r\r\n\rx\r" 2 = .ok (some "\rx") :=
  ⟨by decide, partitions_ofText "é\r\r\n\rx\r" (by decide), by decide, by decide +kernel,
    by decide +kernel⟩

end Lexis.LineTable
