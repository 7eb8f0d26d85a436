import Lexis.Token.Value

/-!
Checks that callers have to satisfy. Offsets are 32-bit words and nothing wraps: a sum or a
difference that leaves the range, an empty-window rule that is broken or a token whose value does
not belong to its kind is a `Fault`, and `Checked` computations stop there.
-/

namespace Lexis

open Text

/-- A broken precondition. -/
inductive Fault where
  /-- A span was asked for whose start lies behind its end. -/
  | spanReversed
  /-- The length of such a span was asked for. -/
  | lengthUnderflow
  /-- An offset or a line number does not fit in 32 bits. -/
  | sumOverflow
  | valueMismatch (value : Value) (kind : Kind)
  /-- The byte search was given a needle that is no ASCII character. -/
  | needleNotAscii
  /-- Text was to be skipped while part of it had been taken. -/
  | windowNotEmpty (start stop : UInt32)
  deriving DecidableEq

namespace Fault

def message : Fault → String
  | spanReversed => "assertion failed: start <= end"
  | lengthUnderflow => "attempt to subtract with overflow"
  | sumOverflow => "attempt to add with overflow"
  | valueMismatch value kind =>
      "token value " ++ value.describe ++ " does not match kind " ++ kind.name
  | needleNotAscii => "assertion failed: a.is_ascii() && b.is_ascii() && c.is_ascii()"
  | windowNotEmpty start stop =>
      "assertion `left == right` failed: skip_while on a non-empty window\n  left: "
        ++ Decimal.ofNat start.toNat ++ "\n right: " ++ Decimal.ofNat stop.toNat

end Fault

/-- A computation that may meet a broken precondition. -/
abbrev Checked := Except Fault

theorem Checked.bind_eq_ok_iff {α β : Type} {x : Checked α} {f : α → Checked β} {b : β} :
    x >>= f = .ok b ↔ ∃ a, x = .ok a ∧ f a = .ok b := by
  cases x with
  | error fault => simp [bind, Except.bind]
  | ok a => simp [bind, Except.bind]

@[simp] theorem Checked.pure_eq_ok_iff {α : Type} {a b : α} :
    (pure a : Checked α) = .ok b ↔ a = b := by
  simp [pure, Except.pure]

def addOffset (offset : UInt32) (n : Nat) : Checked UInt32 :=
  if offset.toNat + n < UInt32.size then .ok (UInt32.ofNat (offset.toNat + n))
  else .error .sumOverflow

theorem addOffset_eq_ok_iff {offset sum : UInt32} {n : Nat} :
    addOffset offset n = .ok sum ↔ sum.toNat = offset.toNat + n := by
  unfold addOffset
  split
  · rename_i h
    simp only [Except.ok.injEq]
    constructor
    · rintro rfl
      exact UInt32.toNat_ofNat_of_lt' h
    · intro hsum
      rw [← hsum, UInt32.ofNat_toNat]
  · have := sum.toNat_lt
    simp only [reduceCtorEq, false_iff]
    simp only [UInt32.size] at *
    omega

end Lexis
