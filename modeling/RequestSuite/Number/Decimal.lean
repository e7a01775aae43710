import RequestSuite.Number.Binary64

/-!
# Decimal numerals

A decimal numeral `± digits * 10 ^ exponent` and the double nearest to it.  Numerals far outside
the range of doubles are settled from their number of digits alone, so a huge exponent costs
nothing.
-/

namespace RequestSuite

/-- The number `± digits * 10 ^ exponent`. -/
structure Decimal where
  /-- Whether the numeral has a minus sign. -/
  negative : Bool
  /-- All digits, read as one whole number. -/
  digits : Nat
  /-- The power of ten of the last digit. -/
  exponent : Int
deriving DecidableEq, Repr

namespace Decimal

/-- The decimal digits of a whole number. -/
def digitChars (n : Nat) : List Char :=
  Nat.toDigits 10 n

/-- The value of a list of decimal digits; other characters are passed over. -/
def readDigits (s : List Char) : Nat :=
  s.foldl (fun n c => if c.isDigit then n * 10 + (c.toNat - '0'.toNat) else n) 0

theorem isDigit_of_mem_digitChars {n : Nat} {c : Char} (h : c ∈ digitChars n) :
    c.isDigit = true :=
  Nat.isDigit_of_mem_toDigits (by decide) (by decide) h

theorem digitChars_ne_nil (n : Nat) : digitChars n ≠ [] :=
  Nat.toDigits_ne_nil

theorem readDigits_eq_ofDigitChars {s : List Char} (h : ∀ c ∈ s, c.isDigit = true) :
    readDigits s = Nat.ofDigitChars 10 s 0 := by
  rw [readDigits, Nat.ofDigitChars_eq_foldl]
  generalize (0 : Nat) = n
  induction s generalizing n with
  | nil => rfl
  | cons c rest ih =>
    rw [List.foldl_cons, List.foldl_cons, if_pos (h c List.mem_cons_self), Nat.mul_comm n]
    exact ih (fun d hd => h d (List.mem_cons_of_mem c hd)) _

@[simp] theorem readDigits_digitChars (n : Nat) : readDigits (digitChars n) = n := by
  rw [readDigits_eq_ofDigitChars fun _ => isDigit_of_mem_digitChars]
  exact Nat.ofDigitChars_ten_toDigits

/-- The double nearest to the numeral, a half going to the even one; `none` beyond the largest. -/
def toBinary64? (d : Decimal) : Option Binary64 :=
  if d.digits = 0 then some (Binary64.zero d.negative)
  else
    let size : Int := (digitChars d.digits).length
    if 310 < size + d.exponent then none
    else if size + d.exponent < -330 then some (Binary64.zero d.negative)
    else if 0 ≤ d.exponent then
      Binary64.ofRatio? d.negative (d.digits * Nat.pow 10 d.exponent.toNat) 1
    else
      Binary64.ofRatio? d.negative d.digits (Nat.pow 10 (-d.exponent).toNat)

end Decimal

end RequestSuite
