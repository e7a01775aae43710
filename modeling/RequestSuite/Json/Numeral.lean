import RequestSuite.Number.Basic

/-!
# Numerals of JSON documents

The value of a numeral is built in two steps, each with its own rounding.  The digits go into a
significand of at most 64 bits, and digits that no longer fit are dropped.  The significand is
rounded to a double and then multiplied or divided by a power of ten.  For numerals of up to
fifteen digits this is the nearest double; for longer ones it may be a neighbour of it.
-/

namespace RequestSuite

namespace Json

/-- The largest significand of 64 bits. -/
def significandLimit : Nat := 0xFFFFFFFFFFFFFFFF

/-- Appends digits to a significand as long as they fit; the second part counts the digits from the
first one on that does not fit. -/
def appendDigits (significand : Nat) : List Char → Nat × Nat
  | [] => (significand, 0)
  | c :: rest =>
    let next := significand * 10 + (c.toNat - '0'.toNat)
    if significandLimit < next then (significand, rest.length + 1)
    else appendDigits next rest

/-- The double nearest to a power of ten. -/
def powerOfTen (k : Nat) : Binary64 :=
  ((Decimal.mk false 1 k).toBinary64?).getD (Binary64.zero false)

/-- A double times a power of ten, in one rounded step, or in steps of `10 ^ 308` if the power is
smaller than that; `none` on overflow. -/
def scaleByTen : Nat → Binary64 → Int → Option Binary64
  | steps, x, e =>
    if x.isZero then some x
    else if 308 < e then none
    else if 0 ≤ e then x.mul? (powerOfTen e.toNat)
    else if -308 ≤ e then x.div? (powerOfTen (-e).toNat)
    else
      match steps with
      | 0 => some (Binary64.zero x.negative)
      | n + 1 => (x.div? (powerOfTen 308)).bind fun y => scaleByTen n y (e + 308)

/-- The parts of a numeral: sign, digits before and after the point, and exponent. -/
structure Numeral where
  /-- Whether there is a minus sign. -/
  negative : Bool
  /-- The digits before the point. -/
  whole : List Char
  /-- The digits after the point, if there is one. -/
  fraction : Option (List Char)
  /-- The exponent, if there is one. -/
  exponent : Option Int

namespace Numeral

/-- The double that the parts stand for; `none` on overflow. -/
def toBinary64? (n : Numeral) : Option Binary64 :=
  let (significand, droppedWhole) := appendDigits 0 n.whole
  let fraction := n.fraction.getD []
  let (significand, droppedFraction) := appendDigits significand fraction
  let written : Int := droppedWhole - ((fraction.length - droppedFraction : Nat) : Int)
  let x := (scaleByTen 4 (Binary64.ofInt significand) (written + n.exponent.getD 0))
  x.map fun x => if n.negative then x.neg else x

/-- The number that a numeral stands for: whole numbers of 64 bits are kept exactly, all others and
`-0` become doubles; `none` on overflow. -/
def toNumber? (n : Numeral) : Option Number :=
  let i : Int := Decimal.readDigits n.whole
  let signed := if n.negative then -i else i
  if n.fraction.isNone && n.exponent.isNone && Number.isExact signed && !(n.negative && i == 0) then
    some (.int signed)
  else
    n.toBinary64?.map .float

end Numeral

end Json

end RequestSuite
