import Lexis.Proofs.Text.Classes
import Lexis.Proofs.Text.Cut
import Mathlib.Data.List.DropRight

/-!
Lines and columns of a text. A place in a text is given by the text in front of it: the line feeds
there give the line, the characters after the last of them the column. The line around a place is
made of what stands before it and what is left behind it.
-/

namespace Lexis.Text

/-- The lines that are complete before a place behind `front`. -/
def linesBefore (front : List Char) : List Char :=
  front.rdropWhile (· != '\n')

/-- The part of its line that stands before a place behind `front`. -/
def lineFront (front : List Char) : List Char :=
  front.rtakeWhile (· != '\n')

/-- What is left of a line from a place on, with the line feed that ends it. -/
def lineRest : List Char → List Char
  | [] => []
  | c :: back => if c = '\n' then [c] else c :: lineRest back

/-- The line around a place between `front` and `back`, without the line breaks at its end. -/
def shownLine (front back : List Char) : List Char :=
  (lineFront front ++ lineRest back).rdropWhile isLineBreak

def lineNumber (front : List Char) : Nat :=
  1 + front.count '\n'

def columnNumber (front : List Char) : Nat :=
  1 + (lineFront front).length

/-- Where lines begin in a text at byte `offset`, apart from the one it begins with. -/
def lineStarts (offset : Nat) : List Char → List Nat
  | [] => []
  | c :: cs =>
      if c = '\n' then (offset + c.utf8Size) :: lineStarts (offset + c.utf8Size) cs
      else lineStarts (offset + c.utf8Size) cs

theorem linesBefore_append_lineFront (front : List Char) :
    linesBefore front ++ lineFront front = front :=
  List.rdropWhile_append_rtakeWhile

theorem byteLength_linesBefore_add (front : List Char) :
    byteLength (linesBefore front) + byteLength (lineFront front) = byteLength front := by
  rw [← byteLength_append, linesBefore_append_lineFront]

theorem not_mem_lineFront (front : List Char) : '\n' ∉ lineFront front := by
  intro h
  have := List.mem_rtakeWhile_imp h
  simp at this

theorem lineFront_append {front part : List Char} (h : '\n' ∉ part) :
    lineFront (front ++ part) = lineFront front ++ part := by
  have hpart : ∀ c ∈ part.reverse, (c != '\n') = true := by
    intro c hc
    simp only [bne_iff_ne, ne_eq]
    rintro rfl
    exact h (List.mem_reverse.mp hc)
  simp only [lineFront, List.rtakeWhile, List.reverse_append]
  rw [List.takeWhile_append_of_pos hpart, List.reverse_append, List.reverse_reverse]

theorem linesBefore_append {front part : List Char} (h : '\n' ∉ part) :
    linesBefore (front ++ part) = linesBefore front := by
  have hwhole : linesBefore (front ++ part) ++ (lineFront front ++ part) =
      linesBefore front ++ (lineFront front ++ part) := by
    rw [← lineFront_append h, linesBefore_append_lineFront, lineFront_append h,
      ← List.append_assoc, linesBefore_append_lineFront]
  exact List.append_cancel_right hwhole

theorem linesBefore_concat (front : List Char) :
    linesBefore (front ++ ['\n']) = front ++ ['\n'] :=
  List.rdropWhile_concat_neg _ _ _ (by simp)

theorem lineFront_concat (front : List Char) : lineFront (front ++ ['\n']) = [] :=
  List.rtakeWhile_concat_neg _ _ _ (by simp)

theorem lineNumber_pos (front : List Char) : 0 < lineNumber front := by
  rw [lineNumber]
  omega

theorem columnNumber_pos (front : List Char) : 0 < columnNumber front := by
  rw [columnNumber]
  omega

theorem lineNumber_append {front part : List Char} (h : '\n' ∉ part) :
    lineNumber (front ++ part) = lineNumber front := by
  rw [lineNumber, List.count_append, List.count_eq_zero_of_not_mem h, Nat.add_zero, lineNumber]

theorem columnNumber_append {front part : List Char} (h : '\n' ∉ part) :
    columnNumber (front ++ part) = columnNumber front + part.length := by
  rw [columnNumber, lineFront_append h, List.length_append, columnNumber, Nat.add_assoc]

theorem lineRest_append {part back : List Char} (h : '\n' ∉ part) :
    lineRest (part ++ back) = part ++ lineRest back := by
  induction part with
  | nil => rfl
  | cons c part ih =>
      obtain ⟨hc, hpart⟩ := List.ne_and_not_mem_of_not_mem_cons h
      rw [List.cons_append, lineRest, if_neg (Ne.symm hc), ih hpart, List.cons_append]

theorem exists_lineRest_append (back : List Char) : ∃ later, back = lineRest back ++ later := by
  induction back with
  | nil => exact ⟨[], rfl⟩
  | cons c back ih =>
      obtain ⟨later, hlater⟩ := ih
      by_cases hc : c = '\n'
      · exact ⟨back, by simp [lineRest, hc]⟩
      · exact ⟨later, by simp [lineRest, hc, ← hlater]⟩

theorem lineRest_eq_append (back : List Char) :
    ∃ body, '\n' ∉ body ∧ (lineRest back = body ∨ lineRest back = body ++ ['\n']) := by
  induction back with
  | nil => exact ⟨[], by simp, .inl rfl⟩
  | cons c back ih =>
      obtain ⟨body, hbody, hrest⟩ := ih
      by_cases hc : c = '\n'
      · exact ⟨[], by simp, .inr (by simp [lineRest, hc])⟩
      · refine ⟨c :: body, ?_, ?_⟩
        · simp only [List.mem_cons, not_or]
          exact ⟨Ne.symm hc, hbody⟩
        · rcases hrest with hrest | hrest
          · exact .inl (by simp [lineRest, hc, hrest])
          · exact .inr (by simp [lineRest, hc, hrest])

theorem not_mem_shownLine (front back : List Char) : '\n' ∉ shownLine front back := by
  obtain ⟨body, hbody, hrest⟩ := lineRest_eq_append back
  have hline : '\n' ∉ lineFront front ++ body := by
    simp only [List.mem_append, not_or]
    exact ⟨not_mem_lineFront front, hbody⟩
  have hshown : shownLine front back = (lineFront front ++ body).rdropWhile isLineBreak := by
    rcases hrest with hrest | hrest
    · rw [shownLine, hrest]
    · rw [shownLine, hrest, ← List.append_assoc, List.rdropWhile_concat_pos _ _ _ (by decide)]
  rw [hshown]
  exact fun h => hline ((List.rdropWhile_prefix _ _).subset h)

theorem shownLine_append {front part back : List Char} (h : '\n' ∉ part) :
    shownLine (front ++ part) back = shownLine front (part ++ back) := by
  rw [shownLine, lineFront_append h, shownLine, lineRest_append h, List.append_assoc]

theorem rdropWhile_append_of_last {p : Char → Bool} {cs : List Char} {c : Char} (hc : p c = false)
    (ds : List Char) : (cs ++ [c] ++ ds).rdropWhile p = cs ++ [c] ++ ds.rdropWhile p := by
  induction ds using List.reverseRecOn with
  | nil => simp [hc]
  | append_singleton ds d ih =>
      rw [← List.append_assoc, List.rdropWhile_concat, List.rdropWhile_concat, ih]
      split
      · rfl
      · rw [List.append_assoc]

theorem exists_shownLine_eq (front back : List Char) {part : List Char} (hne : part ≠ [])
    (hpart : ∀ c ∈ part, isLineBreak c = false) :
    ∃ post, shownLine front (part ++ back) = lineFront front ++ (part ++ post) := by
  obtain ⟨init, last, rfl⟩ := (List.eq_nil_or_concat' part).resolve_left hne
  have hlast := hpart last (by simp)
  have hfeed := not_mem_of_isLineBreak hpart
  refine ⟨(lineRest back).rdropWhile isLineBreak, ?_⟩
  rw [shownLine, lineRest_append hfeed, ← List.append_assoc, ← List.append_assoc,
    rdropWhile_append_of_last hlast]
  simp only [List.append_assoc]

theorem length_le_byteLength (cs : List Char) : cs.length ≤ byteLength cs := by
  induction cs with
  | nil => exact Nat.le_refl 0
  | cons c cs ih =>
      have := c.utf8Size_pos
      simp only [List.length_cons, byteLength_cons]
      omega

theorem byteLength_replicate (n : Nat) (c : Char) :
    byteLength (List.replicate n c) = n * c.utf8Size := by
  induction n with
  | zero => simp
  | succ n ih => rw [List.replicate_succ, byteLength_cons, ih, Nat.succ_mul, Nat.add_comm]

theorem length_lineStarts (offset : Nat) (cs : List Char) :
    (lineStarts offset cs).length = cs.count '\n' := by
  induction cs generalizing offset with
  | nil => rfl
  | cons c cs ih =>
      by_cases hc : c = '\n'
      · simp [lineStarts, hc, ih]
      · simp [lineStarts, hc, ih]

theorem lineStarts_append (offset : Nat) (cs ds : List Char) :
    lineStarts offset (cs ++ ds) =
      lineStarts offset cs ++ lineStarts (offset + byteLength cs) ds := by
  induction cs generalizing offset with
  | nil => rfl
  | cons c cs ih =>
      simp only [List.cons_append, lineStarts, ih, byteLength_cons, Nat.add_assoc]
      split <;> rfl

theorem bounds_of_mem_lineStarts {offset start : Nat} {cs : List Char}
    (h : start ∈ lineStarts offset cs) : offset < start ∧ start ≤ offset + byteLength cs := by
  induction cs generalizing offset with
  | nil => simp [lineStarts] at h
  | cons c cs ih =>
      have hpos := c.utf8Size_pos
      have htail (htail : start ∈ lineStarts (offset + c.utf8Size) cs) :
          offset < start ∧ start ≤ offset + byteLength (c :: cs) := by
        have := ih htail
        simp only [byteLength_cons]
        omega
      rw [lineStarts] at h
      split at h
      · rcases List.mem_cons.mp h with rfl | h
        · simp only [byteLength_cons]
          omega
        · exact htail h
      · exact htail h

theorem pairwise_lineStarts (offset : Nat) (cs : List Char) :
    (offset :: lineStarts offset cs).Pairwise (· < ·) := by
  rw [List.pairwise_cons]
  refine ⟨fun start hstart => (bounds_of_mem_lineStarts hstart).1, ?_⟩
  induction cs generalizing offset with
  | nil => exact .nil
  | cons c cs ih =>
      rw [lineStarts]
      split
      · rw [List.pairwise_cons]
        exact ⟨fun start hstart => (bounds_of_mem_lineStarts hstart).1, ih _⟩
      · exact ih _

theorem head?_lineStarts (offset : Nat) (cs : List Char) :
    (lineStarts offset cs).head?.getD (offset + byteLength cs) =
      offset + byteLength (lineRest cs) := by
  induction cs generalizing offset with
  | nil => rfl
  | cons c cs ih =>
      by_cases hc : c = '\n'
      · simp [lineStarts, lineRest, hc]
      · simp only [lineStarts, lineRest, hc, if_false, byteLength_cons, ← Nat.add_assoc]
        exact ih (offset + c.utf8Size)

theorem getLast?_lineStarts (front : List Char) :
    (0 :: lineStarts 0 front).getLast? = some (byteLength (linesBefore front)) := by
  induction front using List.reverseRecOn with
  | nil => rfl
  | append_singleton front c ih =>
      rw [lineStarts_append, ← List.cons_append]
      by_cases hc : c = '\n'
      · subst hc
        have hlast : lineStarts (0 + byteLength front) ['\n'] = [byteLength (front ++ ['\n'])] := by
          simp [lineStarts]
        rw [hlast, List.getLast?_concat, linesBefore_concat]
      · have hpart : '\n' ∉ [c] := by simpa using Ne.symm hc
        simp only [lineStarts, hc, if_false, List.append_nil, ih, linesBefore_append hpart]

theorem slice?_linesBefore {s : String} {front part later : List Char}
    (hs : s.toList = front ++ (part ++ later)) :
    slice? s (byteLength (linesBefore front)) (byteLength front + byteLength part) =
      some (String.ofList (lineFront front ++ part)) := by
  have hwhole : s.toList = linesBefore front ++ ((lineFront front ++ part) ++ later) := by
    calc
      s.toList = linesBefore front ++ lineFront front ++ (part ++ later) := by
        rw [linesBefore_append_lineFront, hs]
      _ = _ := by simp only [List.append_assoc]
  rw [← byteLength_linesBefore_add front, Nat.add_assoc, ← byteLength_append]
  exact slice?_of_toList_eq hwhole

end Lexis.Text
