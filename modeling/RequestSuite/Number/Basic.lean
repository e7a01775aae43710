import RequestSuite.Number.Shortest

/-!
# Numbers

A number is a whole number of at most 64 bits, signed or unsigned, or else a double.  The two kinds
stay apart: `1` and `1.0` are different numbers with different texts, though they compare as equal.
-/

namespace RequestSuite

/-- A number as documents write it. -/
inductive Number where
  /-- A whole number between `-2 ^ 63` and `2 ^ 64 - 1`. -/
  | int (value : Int)
  /-- Any other number. -/
  | float (value : Binary64)
deriving DecidableEq, Repr

namespace Number

/-- Whether a whole number is kept exactly. -/
def isExact (i : Int) : Bool :=
  -0x8000000000000000 ≤ i && i < 0x10000000000000000

/-- The nearest double, in which numbers are compared. -/
def toBinary64 : Number → Binary64
  | int i => Binary64.ofInt i
  | float x => x

/-! ## Text -/

/-- The text of a whole number: a minus sign if it is negative, and its digits. -/
def intChars (i : Int) : List Char :=
  (if i < 0 then ['-'] else []) ++ Decimal.digitChars i.natAbs

/-- The power of ten below which a double is written with an exponent. -/
def lowestPlain : Int := -5

/-- The power of ten above which a double is written with an exponent. -/
def highestPlain : Int := 15

/-- The digits with the decimal point after `before` of them, and at least one digit on each side. -/
def plainChars (digits : List Char) (before : Int) : List Char :=
  if before ≤ 0 then
    '0' :: '.' :: List.replicate (-before).toNat '0' ++ digits
  else
    let n := before.toNat
    if digits.length ≤ n then
      digits ++ List.replicate (n - digits.length) '0' ++ ['.', '0']
    else
      digits.take n ++ '.' :: digits.drop n

/-- One digit, the remaining digits after a point, and the power of ten with its sign. -/
def scientificChars (digits : List Char) (power : Int) : List Char :=
  digits.take 1 ++ (if digits.length ≤ 1 then [] else '.' :: digits.drop 1) ++
    'e' :: (if power < 0 then '-' else '+') :: Decimal.digitChars power.natAbs

/-- The text of a double: its shortest decimal form, plain for powers of ten from -5 to 15 and
always with a fraction there, otherwise with a signed exponent. -/
def floatChars (x : Binary64) : List Char :=
  let d := x.shortest
  let digits := Decimal.digitChars d.digits
  let power := d.exponent + digits.length - 1
  (if x.negative then ['-'] else []) ++
    if lowestPlain ≤ power ∧ power ≤ highestPlain then plainChars digits (power + 1)
    else scientificChars digits power

/-- The text of a number. -/
def chars : Number → List Char
  | int i => intChars i
  | float x => floatChars x

end Number

end RequestSuite
