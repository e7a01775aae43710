import RequestSuite.Number.Decimal

/-!
# Whole numbers in texts

Reading a whole number that makes up a whole text: digits with an optional sign, nothing else, and
within a given range.
-/

namespace RequestSuite.Text

/-- The number that a non-empty list of decimal digits stands for. -/
def readNat? (s : List Char) : Option Nat :=
  if !s.isEmpty && s.all Char.isDigit then some (Decimal.readDigits s) else none

/-- The number that digits with an optional sign stand for. -/
def readInt? : List Char → Option Int
  | '-' :: rest => (readNat? rest).map fun n => -(n : Int)
  | '+' :: rest => (readNat? rest).map fun n => (n : Int)
  | s => (readNat? s).map fun n => (n : Int)

/-- A signed whole number of 64 bits. -/
def readInt64? (s : List Char) : Option Int :=
  (readInt? s).filter fun i => -0x8000000000000000 ≤ i && i < 0x8000000000000000

/-- An unsigned whole number of 64 bits: a plus sign is allowed, a minus sign is not. -/
def readUInt64? (s : List Char) : Option Nat :=
  let digits := match s with
    | '+' :: rest => rest
    | s => s
  (readNat? digits).filter fun n => n < 0x10000000000000000

/-! ## Reading back what is written -/

/-- Whether a whole number has a signed form of 64 bits. -/
def FitsInt64 (i : Int) : Prop :=
  -0x8000000000000000 ≤ i ∧ i < 0x8000000000000000

instance (i : Int) : Decidable (FitsInt64 i) := inferInstanceAs (Decidable (_ ∧ _))

theorem toList_toString_ofNat (n : Nat) :
    (toString (n : Int)).toList = Decimal.digitChars n := by
  rw [Int.toString_eq_repr, Int.repr_eq_if, if_pos (Int.natCast_nonneg n), Int.toNat_natCast,
    Nat.toList_repr]
  rfl

theorem toList_toString_negSucc (n : Nat) :
    (toString (Int.negSucc n)).toList = '-' :: Decimal.digitChars (n + 1) := by
  rw [Int.toString_eq_repr, Int.repr_eq_if, if_neg (Int.not_le.mpr (Int.negSucc_lt_zero n)),
    Int.neg_negSucc, Int.toNat_natCast, String.toList_append, Nat.toList_repr]
  rfl

/-- A written number holds nothing but digits and a minus sign. -/
theorem mem_toString_int {i : Int} {c : Char} (h : c ∈ (toString i).toList) :
    c = '-' ∨ c.isDigit = true := by
  cases i with
  | ofNat n =>
    rw [Int.ofNat_eq_natCast, toList_toString_ofNat] at h
    exact Or.inr (Decimal.isDigit_of_mem_digitChars h)
  | negSucc n =>
    rw [toList_toString_negSucc] at h
    exact (List.mem_cons.mp h).imp_right Decimal.isDigit_of_mem_digitChars

theorem readNat?_digitChars (n : Nat) : readNat? (Decimal.digitChars n) = some n := by
  have hdigits : (Decimal.digitChars n).all Char.isDigit = true :=
    List.all_eq_true.mpr fun _ => Decimal.isDigit_of_mem_digitChars
  simp [readNat?, hdigits, Decimal.digitChars_ne_nil]

theorem readInt?_digitChars (n : Nat) : readInt? (Decimal.digitChars n) = some (n : Int) := by
  have hdigit : ∀ c ∈ Decimal.digitChars n, c.isDigit = true :=
    fun _ => Decimal.isDigit_of_mem_digitChars
  unfold readInt?
  split
  · rename_i heq
    exact absurd (hdigit '-' (heq ▸ List.mem_cons_self)) (by decide)
  · rename_i heq
    exact absurd (hdigit '+' (heq ▸ List.mem_cons_self)) (by decide)
  · rw [readNat?_digitChars]
    rfl

theorem readInt?_toString (i : Int) : readInt? (toString i).toList = some i := by
  cases i with
  | ofNat n => rw [Int.ofNat_eq_natCast, toList_toString_ofNat, readInt?_digitChars]
  | negSucc n =>
    rw [toList_toString_negSucc, readInt?, readNat?_digitChars]
    rfl

/-- A written number is read back if it has a form of 64 bits, and refused otherwise. -/
theorem readInt64?_toString (i : Int) :
    readInt64? (toString i).toList = if FitsInt64 i then some i else none := by
  rw [readInt64?, readInt?_toString, Option.filter_some]
  by_cases h : FitsInt64 i
  · rw [if_pos h]
    exact if_pos (by simpa [FitsInt64] using h)
  · rw [if_neg h]
    exact if_neg (by simpa [FitsInt64] using h)

end RequestSuite.Text
