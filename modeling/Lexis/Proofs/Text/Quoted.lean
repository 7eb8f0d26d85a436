import Lexis.Proofs.Cursor.Placed
import Lexis.Text.Quoted
import Mathlib.Tactic.SplitIfs

namespace Lexis.Text

/-- The worth of a hexadecimal digit in small letters. -/
def hexDigitValue (d : Char) : Nat :=
  if d.isDigit then d.toNat - '0'.toNat else d.toNat - 'a'.toNat + 10

def hexValue (digits : List Char) : Nat :=
  digits.foldl (fun n d => 16 * n + hexDigitValue d) 0

/-- The character that the front of a quoted text stands for, and what follows it. -/
def unescape : List Char → Option (Char × List Char)
  | [] => none
  | '\\' :: '0' :: cs => some ('\x00', cs)
  | '\\' :: 't' :: cs => some ('\t', cs)
  | '\\' :: 'n' :: cs => some ('\n', cs)
  | '\\' :: 'r' :: cs => some ('\r', cs)
  | '\\' :: 'u' :: '\x7b' :: cs =>
      some (Char.ofNat (hexValue (cs.takeWhile (· != '\x7d'))), (cs.dropWhile (· != '\x7d')).tail)
  | '\\' :: c :: cs => some (c, cs)
  | c :: cs => some (c, cs)

theorem hexDigitValue_digitChar {n : Nat} (h : n < 16) : hexDigitValue n.digitChar = n := by
  have hall : ∀ i : Fin 16, hexDigitValue i.val.digitChar = i.val := by decide
  exact hall ⟨n, h⟩

theorem hexValue_toDigits (n : Nat) : hexValue (Nat.toDigits 16 n) = n := by
  induction n using Nat.strongRecOn with
  | ind n ih =>
      rw [Nat.toDigits_eq_if (by decide)]
      split
      · rename_i hlt
        simp [hexValue, hexDigitValue_digitChar hlt]
      · have hfront := ih (n / 16) (by omega)
        have hlast := hexDigitValue_digitChar (Nat.mod_lt n (by decide : 16 > 0))
        rw [hexValue] at hfront ⊢
        rw [List.foldl_append, hfront, List.foldl_cons, List.foldl_nil, hlast]
        omega

theorem exists_digitChar_of_mem_toDigits {n : Nat} {c : Char} (h : c ∈ Nat.toDigits 16 n) :
    ∃ i, c = Nat.digitChar i := by
  induction n using Nat.strongRecOn with
  | ind n ih =>
      rw [Nat.toDigits_eq_if (by decide)] at h
      split at h
      · exact ⟨n, List.mem_singleton.mp h⟩
      · rcases List.mem_append.mp h with hfront | hlast
        · exact ih (n / 16) (by omega) hfront
        · exact ⟨n % 16, List.mem_singleton.mp hlast⟩

theorem unescape_of_ne {c : Char} (h : c ≠ '\\') (cs : List Char) :
    unescape (c :: cs) = some (c, cs) := by
  unfold unescape
  split <;> simp_all

theorem unescape_escape (c : Char) (cs : List Char) : unescape (escape c ++ cs) = some (c, cs) := by
  unfold escape
  split_ifs with hquote hslash hnull htab hfeed hreturn hhidden
  · rw [hquote]
    rfl
  · rw [hslash]
    rfl
  · rw [hnull]
    rfl
  · rw [htab]
    rfl
  · rw [hfeed]
    rfl
  · rw [hreturn]
    rfl
  · have hdigits : ∀ d ∈ Nat.toDigits 16 c.toNat, (d != '\x7d') = true := by
      intro d hd
      obtain ⟨i, rfl⟩ := exists_digitChar_of_mem_toDigits hd
      exact bne_iff_ne.mpr (Nat.digitChar_ne _ rfl)
    have hstop : ('\x7d' :: cs).head?.any (· != '\x7d') = false := rfl
    have htake := takeWhile_append_of_stop hdigits hstop
    have hdrop := dropWhile_append_of_stop hdigits hstop
    simp only [List.cons_append, List.nil_append, List.append_assoc, unescape, htake, hdrop,
      hexValue_toDigits, Char.ofNat_toNat, List.tail_cons]
  · exact unescape_of_ne hslash cs

theorem escape_append_inj {c d : Char} {cs ds : List Char} (h : escape c ++ cs = escape d ++ ds) :
    c = d ∧ cs = ds := by
  have hread := congrArg unescape h
  rw [unescape_escape, unescape_escape, Option.some.injEq, Prod.mk.injEq] at hread
  exact hread

theorem escape_ne_nil (c : Char) : escape c ≠ [] := by
  intro h
  have hread := unescape_escape c []
  rw [h] at hread
  contradiction

theorem flatMap_escape_inj {cs ds : List Char} (h : cs.flatMap escape = ds.flatMap escape) :
    cs = ds := by
  induction cs generalizing ds with
  | nil =>
      cases ds with
      | nil => rfl
      | cons d ds =>
          rw [List.flatMap_cons, List.flatMap_nil, eq_comm, List.append_eq_nil_iff] at h
          exact absurd h.1 (escape_ne_nil d)
  | cons c cs ih =>
      cases ds with
      | nil =>
          rw [List.flatMap_cons, List.flatMap_nil, List.append_eq_nil_iff] at h
          exact absurd h.1 (escape_ne_nil c)
      | cons d ds =>
          rw [List.flatMap_cons, List.flatMap_cons] at h
          obtain ⟨rfl, htail⟩ := escape_append_inj h
          rw [ih htail]

theorem quote_inj {s t : String} (h : quote s = quote t) : s = t := by
  have hlists := congrArg String.toList h
  simp only [quote, String.toList_ofList, List.cons_append, List.cons.injEq, true_and] at hlists
  exact String.toList_inj.mp (flatMap_escape_inj (List.append_cancel_right hlists))

theorem not_mem_escape (c : Char) : '\n' ∉ escape c := by
  unfold escape
  split_ifs with hquote hslash hnull htab hfeed hreturn hhidden
  all_goals try decide
  · have hdigits : '\n' ∉ Nat.toDigits 16 c.toNat := by
      intro hmem
      obtain ⟨i, hdigit⟩ := exists_digitChar_of_mem_toDigits hmem
      exact Nat.digitChar_ne _ rfl hdigit.symm
    simp [hdigits]
  · rw [List.mem_singleton]
    exact Ne.symm hfeed

theorem not_mem_quote (s : String) : '\n' ∉ (quote s).toList := by
  simp [quote, not_mem_escape]

end Lexis.Text
