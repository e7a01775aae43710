/-!
# Finite binary floating-point numbers of 64 bits

A finite double is a sign, a significand below `2 ^ 53` and an exponent, and stands for the real
number `± significand * 2 ^ exponent`.  The fields are normalised, so two doubles are equal exactly
when their fields are, and `0.0` and `-0.0` are different numbers that compare as equal.  All
arithmetic is exact arithmetic on natural numbers followed by one rounding to the nearest double,
a half going to the even neighbour.
-/

namespace RequestSuite

/-- The smallest significand that fills all its bits, `2 ^ 52`. -/
abbrev Binary64.significandMin : Nat := 0x10000000000000

/-- The smallest number that is no significand any more, `2 ^ 53`. -/
abbrev Binary64.significandBound : Nat := 0x20000000000000

/-- A finite double, `± significand * 2 ^ exponent` in normal form. -/
structure Binary64 where
  /-- Whether the sign bit is set. -/
  negative : Bool
  /-- The significand as a whole number. -/
  significand : Nat
  /-- The weight of the last bit of the significand. -/
  exponent : Int
  significand_lt : significand < Binary64.significandBound
  exponent_ge : -1074 ≤ exponent
  exponent_le : exponent ≤ 971
  /-- Only the smallest exponent goes with a short significand. -/
  normal : Binary64.significandMin ≤ significand ∨ exponent = -1074
deriving DecidableEq, Repr

namespace Binary64

/-- Zero with the given sign. -/
def zero (negative : Bool) : Binary64 :=
  ⟨negative, 0, -1074, by decide, by decide, by decide, .inr rfl⟩

instance : Inhabited Binary64 := ⟨zero false⟩

/-- The double of largest magnitude. -/
def greatest (negative : Bool) : Binary64 :=
  ⟨negative, significandBound - 1, 971, by decide, by decide, by decide, .inl (by decide)⟩

/-- The double with these fields, if they are in normal form. -/
def ofFields? (negative : Bool) (significand : Nat) (exponent : Int) : Option Binary64 :=
  if h : significand < significandBound ∧ -1074 ≤ exponent ∧ exponent ≤ 971 ∧
      (significandMin ≤ significand ∨ exponent = -1074) then
    some ⟨negative, significand, exponent, h.1, h.2.1, h.2.2.1, h.2.2.2⟩
  else
    none

/-! ## Rounding -/

/-- The quotient `num / den` rounded to a whole number, a half going to the even neighbour. -/
def divNearest (num den : Nat) : Nat :=
  let q := num / den
  let r := num % den
  if 2 * r < den then q
  else if den < 2 * r then q + 1
  else if q % 2 = 0 then q else q + 1

/-- The fraction `num / den / 2 ^ e`. -/
def scaleBy (num den : Nat) (e : Int) : Nat × Nat :=
  if 0 ≤ e then (num, den * Nat.pow 2 e.toNat) else (num * Nat.pow 2 (-e).toNat, den)

/-- The weight of the last significand bit of the doubles around `num / den`. -/
def lastPlace (num den : Nat) : Int :=
  let guess : Int := (num.log2 : Int) - den.log2 - 52
  let scaled := scaleBy num den guess
  max (if scaled.1 / scaled.2 < significandMin then guess - 1 else guess) (-1074)

/-- The double nearest to `± num / den`; `none` if it lies beyond the largest one. -/
def ofRatio? (negative : Bool) (num den : Nat) : Option Binary64 :=
  if num = 0 then some (zero negative)
  else
    let e := lastPlace num den
    let scaled := scaleBy num den e
    let m := divNearest scaled.1 scaled.2
    if m = significandBound then ofFields? negative significandMin (e + 1)
    else ofFields? negative m e

/-- The double nearest to a whole number; one beyond all doubles gives the largest. -/
def ofInt (i : Int) : Binary64 :=
  (ofRatio? (decide (i < 0)) i.natAbs 1).getD (greatest (decide (i < 0)))

/-! ## Arithmetic and order -/

/-- The magnitude as a fraction. -/
def magnitude (x : Binary64) : Nat × Nat :=
  if 0 ≤ x.exponent then (x.significand * Nat.pow 2 x.exponent.toNat, 1)
  else (x.significand, Nat.pow 2 (-x.exponent).toNat)

/-- Whether the number is zero, of either sign. -/
def isZero (x : Binary64) : Bool :=
  x.significand == 0

/-- The number with the other sign. -/
def neg (x : Binary64) : Binary64 :=
  { x with negative := !x.negative }

/-- The rounded product; `none` on overflow. -/
def mul? (x y : Binary64) : Option Binary64 :=
  ofRatio? (x.negative != y.negative) (x.magnitude.1 * y.magnitude.1)
    (x.magnitude.2 * y.magnitude.2)

/-- The rounded quotient by a number other than zero; `none` on overflow. -/
def div? (x y : Binary64) : Option Binary64 :=
  ofRatio? (x.negative != y.negative) (x.magnitude.1 * y.magnitude.2)
    (x.magnitude.2 * y.magnitude.1)

/-- The number in units of `2 ^ -1074`, of which every double is a whole multiple. -/
def toUnits (x : Binary64) : Int :=
  let n : Int := x.significand * Nat.pow 2 (x.exponent + 1074).toNat
  if x.negative then -n else n

/-- The comparison of the two real numbers; zeros of either sign are equal. -/
def compare (x y : Binary64) : Ordering :=
  Ord.compare x.toUnits y.toUnits

/-- The whole number equal to this one, if there is one. -/
def toInt? (x : Binary64) : Option Int :=
  if x.magnitude.1 % x.magnitude.2 = 0 then
    let n : Int := (x.magnitude.1 / x.magnitude.2 : Nat)
    some (if x.negative then -n else n)
  else
    none

end Binary64

end RequestSuite
