import RequestSuite.Number.Decimal

/-!
# The shortest decimal form of a double

Among the decimal numerals that read back as a given double, `Binary64.shortest` takes one with the
fewest digits, and of those the nearest to the double.  For each number of digits only the two
neighbours of the double on that decimal grid can qualify: the doubles' rounding interval is
convex, so if any point of the grid lies in it, one of the two neighbours does.
-/

namespace RequestSuite

namespace Binary64

/-- The interval of magnitudes that round to `x`, as numerators over `4 * den`, where `den` is the
denominator of `x`'s magnitude: lower end, `x` itself, upper end. -/
def roundingInterval (x : Binary64) : Nat × Nat × Nat :=
  let n := x.magnitude.1
  let half := if 0 ≤ x.exponent then Nat.pow 2 x.exponent.toNat else 1
  let below := if x.significand = significandMin ∧ x.exponent ≠ -1074 then half else 2 * half
  (4 * n - below, 4 * n, 4 * n + 2 * half)

/-- Whether the decimal `c * 10 ^ place` reads back as the double `x`. -/
def readsBack (x : Binary64) (c : Nat) (place : Int) : Bool :=
  let (low, _, high) := x.roundingInterval
  let den := 4 * x.magnitude.2
  let num := if 0 ≤ place then c * Nat.pow 10 place.toNat * den else c * den
  let scale := if 0 ≤ place then 1 else Nat.pow 10 (-place).toNat
  if x.significand % 2 = 0 then low * scale ≤ num && num ≤ high * scale
  else low * scale < num && num < high * scale

/-- The largest `d` with `10 ^ (d - 1) ≤ x`, for a magnitude `num / den` other than zero: the
number of digits before the decimal point. -/
def digitsBefore (num den : Nat) : Int :=
  if den ≤ num then (Decimal.digitChars (num / den)).length
  else
    let k := (Decimal.digitChars (den / num)).length
    -- here `10 ^ (k - 1) ≤ den / num < 10 ^ k`
    if den ≤ num * Nat.pow 10 (k - 1) then 2 - (k : Int) else 1 - (k : Int)

/-- The numeral of `count` digits that reads back as `x` and lies nearest to it, if there is one;
of two equally near ones the even. -/
def withDigits? (x : Binary64) (before : Int) (count : Nat) : Option (Nat × Int) :=
  let place := before - count
  let (num, den) := x.magnitude
  let (n, d) :=
    if 0 ≤ place then (num, den * Nat.pow 10 place.toNat)
    else (num * Nat.pow 10 (-place).toNat, den)
  let low := n / d
  let nearest := divNearest n d
  let other := if nearest = low then low + 1 else low
  if x.readsBack nearest place then some (nearest, place)
  else if x.readsBack other place then some (other, place)
  else none

/-- The first numeral that reads back, trying ever more digits. -/
def firstThatReadsBack (x : Binary64) (before : Int) : Nat → Nat → Nat × Int
  | 0, count => (x.withDigits? before count).getD (0, 0)
  | more + 1, count =>
    match x.withDigits? before count with
    | some found => found
    | none => firstThatReadsBack x before more (count + 1)

/-- The shortest numeral of a magnitude other than zero, without zeros at its end. -/
def stripZeros : Nat → Nat × Int → Nat × Int
  | 0, d => d
  | fuel + 1, (c, place) =>
    if c ≠ 0 ∧ c % 10 = 0 then stripZeros fuel (c / 10, place + 1) else (c, place)

/-- The shortest numeral that reads back as `x`: its digits and the power of ten of the last. -/
def shortest (x : Binary64) : Decimal :=
  if x.isZero then ⟨x.negative, 0, 0⟩
  else
    let found := firstThatReadsBack x (digitsBefore x.magnitude.1 x.magnitude.2) 16 1
    let (c, place) := stripZeros 20 found
    ⟨x.negative, c, place⟩

end Binary64

end RequestSuite
