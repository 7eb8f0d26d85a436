/-!
Decimal numerals. Numbers are written without leading zeros and with a minus sign where negative;
they are read with any number of leading zeros and an optional sign. Reading refuses what is no
numeral and what lies outside the 64-bit range, and tells the two apart.
-/

namespace Lexis.Text.Decimal

def ofNat (n : Nat) : String :=
  String.ofList (Nat.toDigits 10 n)

def ofInt (n : Int) : String :=
  if n < 0 then "-" ++ ofNat n.natAbs else ofNat n.natAbs

inductive Refusal where
  | empty
  | badDigit
  | outOfRange
  deriving DecidableEq, Repr

def natural (digits : List Char) : Except Refusal Nat :=
  if digits.isEmpty || !digits.all Char.isDigit then .error .badDigit
  else .ok (Nat.ofDigitChars 10 digits 0)

def integer : List Char → Except Refusal Int
  | [] => .error .empty
  | '-' :: digits => (natural digits).map fun n => -(n : Int)
  | '+' :: digits => (natural digits).map fun n => (n : Int)
  | digits => (natural digits).map fun n => (n : Int)

def word (n : Int) : Except Refusal Int64 :=
  if Int64.minValue.toInt ≤ n ∧ n ≤ Int64.maxValue.toInt then .ok (Int64.ofInt n)
  else .error .outOfRange

def parseInt64 (cs : List Char) : Except Refusal Int64 :=
  integer cs >>= word

end Lexis.Text.Decimal
