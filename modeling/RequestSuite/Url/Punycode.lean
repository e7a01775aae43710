import RequestSuite.Text.Percent

/-!
# Punycode

Labels of host names with characters beyond ASCII are written with ASCII letters alone: first the
ASCII characters of the label, then, as numbers in base 36, where the other characters go.
-/

namespace RequestSuite.Punycode

/-- The character of a digit below 36. -/
def digitChar (d : Nat) : Char :=
  if d < 26 then Char.ofNat (97 + d) else Char.ofNat (22 + d)

/-- The digit that a character is. -/
def digit? (c : Char) : Option Nat :=
  if 'a' ≤ c ∧ c ≤ 'z' then some (c.toNat - 97)
  else if 'A' ≤ c ∧ c ≤ 'Z' then some (c.toNat - 65)
  else if c.isDigit then some (c.toNat - 22)
  else none

/-- The least digit that does not end a number, for a place of weight `k`. -/
def threshold (k bias : Nat) : Nat :=
  min 26 (max 1 (k - bias))

theorem threshold_bounds (k bias : Nat) : 1 ≤ threshold k bias ∧ threshold k bias ≤ 26 := by
  unfold threshold
  omega

/-- How often a distance is divided by 35 until it is small, times 36, and what is left of it. -/
def shrink (distance k : Nat) : Nat × Nat :=
  if 455 < distance then shrink (distance / 35) (k + 36) else (distance, k)
termination_by distance
decreasing_by exact Nat.div_lt_self (by omega) (by omega)

/-- The bias after a number, for a label of so many characters so far. -/
def adapt (distance count : Nat) (first : Bool) : Nat :=
  let d := if first then distance / 700 else distance / 2
  let (rest, k) := shrink (d + d / count) 0
  k + 36 * rest / (rest + 38)

/-- A number in base 36, smallest place first. -/
def encodeNumber (bias k n : Nat) : List Char :=
  let t := threshold k bias
  if n < t then [digitChar n]
  else digitChar (t + (n - t) % (36 - t)) :: encodeNumber bias (k + 36) ((n - t) / (36 - t))
termination_by n
decreasing_by
  have := threshold_bounds k bias
  have := Nat.div_le_self (n - threshold k bias) (36 - threshold k bias)
  omega

/-- How far the characters of a label have been written. -/
structure Progress where
  written : List Char
  distance : Nat
  bias : Nat
  /-- How many characters of the label are dealt with. -/
  count : Nat

/-- Passes a character of the label on the way to those that are `n`. -/
def Progress.pass (basics n : Nat) (p : Progress) (c : Char) : Progress :=
  if c.toNat < n then { p with distance := p.distance + 1 }
  else if c.toNat = n then
    { written := p.written ++ encodeNumber p.bias 36 p.distance
      distance := 0
      bias := adapt p.distance (p.count + 1) (p.count == basics)
      count := p.count + 1 }
  else p

/-- Writes the characters of a label that are one of the given numbers, which go upwards from
`n`. -/
def encodeFrom (label : List Char) (basics : Nat) : List Nat → Nat → Progress → List Char
  | [], _, p => p.written
  | m :: rest, n, p =>
    let p := { p with distance := p.distance + (m - n) * (p.count + 1) }
    let p := label.foldl (Progress.pass basics m) p
    encodeFrom label basics rest (m + 1) { p with distance := p.distance + 1 }

/-- A label in ASCII letters. -/
def encode (label : List Char) : List Char :=
  let basic := label.filter fun c => c.toNat < 128
  let others := ((label.filter fun c => 128 ≤ c.toNat).map Char.toNat).mergeSort (· ≤ ·)
  let start := if basic.isEmpty then [] else basic ++ ['-']
  encodeFrom label basic.length others.eraseDups 128 ⟨start, 0, 72, basic.length⟩

/-- A number in base 36, and what follows it. -/
def decodeNumber (bias : Nat) : List Char → Nat → Nat → Nat → Option (Nat × List Char)
  | [], _, _, _ => none
  | c :: rest, k, weight, n =>
    match digit? c with
    | none => none
    | some d =>
      let n := n + d * weight
      let t := threshold k bias
      if d < t then some (n, rest) else decodeNumber bias rest (k + 36) (weight * (36 - t)) n

/-- Puts the characters that the numbers tell of into a label. -/
def decodeFrom : Nat → List Char → Nat → Nat → Nat → List Char → Option (List Char)
  | _, [], _, _, _, done => some done
  | 0, _, _, _, _, _ => none
  | fuel + 1, s, n, place, bias, done =>
    (decodeNumber bias s 36 1 place).bind fun (next, rest) =>
      let count := done.length + 1
      let n := n + next / count
      let position := next % count
      if n < 0xD800 ∨ (0xE000 ≤ n ∧ n < 0x110000) then
        decodeFrom fuel rest n (position + 1) (adapt (next - place) count (place == 0))
          (done.take position ++ Char.ofNat n :: done.drop position)
      else none

/-- The label that ASCII letters stand for. -/
def decode? (s : List Char) : Option (List Char) :=
  let tail := (s.reverse.takeWhile (· != '-')).reverse
  let basic := s.take (s.length - tail.length - 1)
  if basic.all fun c => c.toNat < 128 then decodeFrom tail.length tail 128 0 72 basic else none

end RequestSuite.Punycode
