/-!
Characters counted in bytes of UTF-8. A text in hand is a list of characters; offsets into it are
byte offsets. The byte search looks at the encoding itself, so a needle is found wherever its byte
stands, and `splitAtByte` cuts at the last character boundary that an offset reaches.
-/

namespace Lexis.Text

def byteLength (cs : List Char) : Nat :=
  cs.foldl (fun n c => n + c.utf8Size) 0

theorem foldl_utf8Size (n : Nat) (cs : List Char) :
    cs.foldl (fun n c => n + c.utf8Size) n = n + byteLength cs := by
  induction cs generalizing n with
  | nil => rfl
  | cons c cs ih =>
      simp only [byteLength, List.foldl_cons]
      rw [ih, ih (0 + c.utf8Size)]
      omega

@[simp] theorem byteLength_nil : byteLength [] = 0 := rfl

@[simp] theorem byteLength_cons (c : Char) (cs : List Char) :
    byteLength (c :: cs) = c.utf8Size + byteLength cs := by
  simp only [byteLength, List.foldl_cons]
  rw [foldl_utf8Size, byteLength]
  omega

@[simp] theorem byteLength_append (cs ds : List Char) :
    byteLength (cs ++ ds) = byteLength cs + byteLength ds := by
  induction cs with
  | nil => simp
  | cons c cs ih =>
      simp only [List.cons_append, byteLength_cons, ih]
      omega

theorem byteLength_eq_zero {cs : List Char} : byteLength cs = 0 ↔ cs = [] := by
  cases cs with
  | nil => simp
  | cons c cs =>
      have := c.utf8Size_pos
      simp only [byteLength_cons, reduceCtorEq, iff_false]
      omega

theorem utf8ByteSize_ofList (cs : List Char) :
    (String.ofList cs).utf8ByteSize = byteLength cs := by
  induction cs with
  | nil => rfl
  | cons c cs ih =>
      rw [String.ofList_cons, String.utf8ByteSize_append, String.utf8ByteSize_singleton, ih,
        byteLength_cons]

theorem byteLength_toList (s : String) : byteLength s.toList = s.utf8ByteSize := by
  rw [← utf8ByteSize_ofList, String.ofList_toList]

/-- Moves characters to `taken` as long as `n` bytes hold them. -/
def splitAtByte.go : Nat → List Char → List Char → List Char × List Char
  | _, taken, [] => (taken.reverse, [])
  | n, taken, c :: cs =>
      if c.utf8Size ≤ n then go (n - c.utf8Size) (c :: taken) cs
      else (taken.reverse, c :: cs)

/-- The longest front part that fits into `n` bytes, and what follows it. -/
def splitAtByte (n : Nat) (cs : List Char) : List Char × List Char :=
  splitAtByte.go n [] cs

theorem splitAtByte_go (n : Nat) (taken cs : List Char) :
    splitAtByte.go n taken cs =
      (taken.reverse ++ (splitAtByte n cs).1, (splitAtByte n cs).2) := by
  induction cs generalizing n taken with
  | nil => simp [splitAtByte, splitAtByte.go]
  | cons c cs ih =>
      simp only [splitAtByte, splitAtByte.go]
      split
      · rw [ih, ih (n - c.utf8Size) [c]]
        simp
      · simp

@[simp] theorem splitAtByte_nil (n : Nat) : splitAtByte n [] = ([], []) := rfl

theorem splitAtByte_cons (n : Nat) (c : Char) (cs : List Char) :
    splitAtByte n (c :: cs) =
      if c.utf8Size ≤ n then
        (c :: (splitAtByte (n - c.utf8Size) cs).1, (splitAtByte (n - c.utf8Size) cs).2)
      else ([], c :: cs) := by
  rw [splitAtByte, splitAtByte.go, splitAtByte_go]
  simp

theorem splitAtByte_append (n : Nat) (cs : List Char) :
    (splitAtByte n cs).1 ++ (splitAtByte n cs).2 = cs := by
  induction cs generalizing n with
  | nil => rfl
  | cons c cs ih =>
      rw [splitAtByte_cons]
      split
      · simp [ih]
      · rfl

theorem byteLength_splitAtByte_le (n : Nat) (cs : List Char) :
    byteLength (splitAtByte n cs).1 ≤ n := by
  induction cs generalizing n with
  | nil => simp
  | cons c cs ih =>
      rw [splitAtByte_cons]
      split
      · have := ih (n - c.utf8Size)
        simp only [byteLength_cons]
        omega
      · simp

/-- The text, cut at the last character boundary within `limit` bytes if it is longer. -/
def clip (limit : Nat) (s : String) : String :=
  if s.utf8ByteSize ≤ limit then s else String.ofList (splitAtByte limit s.toList).1

theorem clip_eq_self {limit : Nat} {s : String} (h : s.utf8ByteSize ≤ limit) :
    clip limit s = s := by
  rw [clip, if_pos h]

theorem utf8ByteSize_clip_le (limit : Nat) (s : String) :
    (clip limit s).utf8ByteSize ≤ limit := by
  rw [clip]
  split
  · assumption
  · rw [utf8ByteSize_ofList]
    exact byteLength_splitAtByte_le limit s.toList

theorem exists_toList_eq_clip_append (limit : Nat) (s : String) :
    ∃ cut, s.toList = (clip limit s).toList ++ cut := by
  rw [clip]
  split
  · exact ⟨[], (List.append_nil _).symm⟩
  · rw [String.toList_ofList]
    exact ⟨_, (splitAtByte_append limit s.toList).symm⟩

/-- Adds to `seen` the bytes before the first one that passes the test. -/
def byteIndex.go (p : UInt8 → Bool) : Nat → List Char → Nat
  | seen, [] => seen
  | seen, c :: cs =>
      let bytes := String.utf8EncodeChar c
      if bytes.any p then seen + bytes.findIdx p
      else go p (seen + bytes.length) cs

/-- Offset of the first byte of the encoding that passes the test, or the length of the encoding
when none does. -/
def byteIndex (p : UInt8 → Bool) (cs : List Char) : Nat :=
  byteIndex.go p 0 cs

theorem byteIndex_go (p : UInt8 → Bool) (seen : Nat) (cs : List Char) :
    byteIndex.go p seen cs = seen + (cs.flatMap String.utf8EncodeChar).findIdx p := by
  induction cs generalizing seen with
  | nil => rfl
  | cons c cs ih =>
      simp only [byteIndex.go, List.flatMap_cons, List.findIdx_append, List.findIdx_lt_length,
        List.any_eq_true]
      split
      · rfl
      · rw [ih]
        omega

/-- The search reads the encoding from left to right, character by character. -/
theorem byteIndex_eq_findIdx (p : UInt8 → Bool) (cs : List Char) :
    byteIndex p cs = (cs.flatMap String.utf8EncodeChar).findIdx p := by
  rw [byteIndex, byteIndex_go, Nat.zero_add]

end Lexis.Text
