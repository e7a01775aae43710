import RequestSuite.Pattern.Basic

/-!
# The size of patterns

Engines compile a pattern before it is matched, and refuse one that takes up too much memory then.
Patterns are matched by their derivatives here and nothing is compiled, so this module only counts.
It counts in bytes the automaton that reads texts backwards and byte by byte: 32 for each state, 8
for each of several ranges of bytes that leave a state, and 4 for each alternative.  Repetitions are
written out.  Groups do not count, and neither does it count what an engine leaves out of an
automaton to make it smaller.
-/

namespace RequestSuite

open Unicode

/-! ## Characters in bytes -/

namespace Charset

/-- Ranges in their order, those that touch being joined. -/
def joinRanges (ranges : List (Nat × Nat)) : List (Nat × Nat) :=
  let add (joined : List (Nat × Nat)) (next : Nat × Nat) : List (Nat × Nat) :=
    match joined with
    | (low, high) :: rest =>
      if next.1 ≤ high + 1 then (low, max high next.2) :: rest else next :: joined
    | [] => [next]
  ((ranges.mergeSort fun a b => a.1 ≤ b.1).foldl add []).reverse

/-- The ranges between the given ones, from a code point on. -/
def gaps (start : Nat) : List (Nat × Nat) → List (Nat × Nat)
  | [] => if start ≤ 0x10FFFF then [(start, 0x10FFFF)] else []
  | (low, high) :: rest =>
    (if start < low then [(start, low - 1)] else []) ++ gaps (high + 1) rest

/-- The ranges of the code points in a set, in their order. -/
def ranges : Charset → List (Nat × Nat)
  | .range low high => if low ≤ high then [(low, high)] else []
  | .property p => joinRanges p.ranges.toList
  | .union a b => joinRanges (a.ranges ++ b.ranges)
  | .inter a b => gaps 0 (joinRanges (gaps 0 a.ranges ++ gaps 0 b.ranges))
  | .complement a => gaps 0 a.ranges
  | .folded a =>
    let cased := casedPoints.filter fun n => a.ranges.any fun r => r.1 ≤ n && n ≤ r.2
    joinRanges (a.ranges ++ (cased.flatMap caseVariants).map fun n => (n, n))
  | .foldedAscii a =>
    let points := (List.range 128).filter (foldedAscii a).holds
    joinRanges (a.ranges ++ points.map fun n => (n, n))

/-- The bytes of the code points between two bounds, which are written in `k` bytes after the first
one; `first` is added to that. -/
def byteRanges : Nat → Nat → Nat → Nat → List (List (Nat × Nat))
  | 0, first, low, high => [[(first + low, first + high)]]
  | k + 1, first, low, high =>
    let unit := 64 ^ (k + 1)
    let (lowest, highest) := (low / unit, high / unit)
    let inside (byte low high : Nat) : List (List (Nat × Nat)) :=
      (byteRanges k 0x80 low high).map ((first + byte, first + byte) :: ·)
    if lowest = highest then inside lowest (low % unit) (high % unit)
    else
      let (before, start) :=
        if low % unit = 0 then ([], lowest)
        else (inside lowest (low % unit) (unit - 1), lowest + 1)
      let (after, stop) :=
        if high % unit = unit - 1 then ([], highest)
        else (inside highest 0 (high % unit), highest - 1)
      let whole :=
        if start ≤ stop then
          [(first + start, first + stop) :: List.replicate (k + 1) (0x80, 0xBF)]
        else []
      before ++ whole ++ after

/-- The code points that are written in equally many bytes: how many follow the first one, what is
added to it, and the bounds. -/
def encodings : List (Nat × Nat × Nat × Nat) :=
  [(0, 0, 0, 0x7F), (1, 0xC0, 0x80, 0x7FF), (2, 0xE0, 0x800, 0xD7FF), (2, 0xE0, 0xE000, 0xFFFF),
    (3, 0xF0, 0x10000, 0x10FFFF)]

/-- The bytes of a range of code points. -/
def bytesOfRange (range : Nat × Nat) : List (List (Nat × Nat)) :=
  encodings.flatMap fun (k, first, low, high) =>
    let (low, high) := (max low range.1, min high range.2)
    if low ≤ high then byteRanges k first low high else []

/-- How much two lists have in common at their starts. -/
def sharedLength : List (Nat × Nat) → List (Nat × Nat) → Nat
  | a :: as, b :: bs => if a = b then sharedLength as bs + 1 else 0
  | _, _ => 0

/-- The number of states for bytes in a row; those with the same start share its states. -/
def stateCount (previous : List (Nat × Nat)) : List (List (Nat × Nat)) → Nat
  | [] => 0
  | bytes :: rest => bytes.length - sharedLength previous bytes + stateCount bytes rest

/-- The size of a set of characters. -/
def compiledSize (s : Charset) : Nat :=
  let ranges := s.ranges
  let bytes := ranges.flatMap bytesOfRange
  match ranges with
  | [(low, high)] =>
    if low = high then 32 * stateCount [] bytes
    else if high < 128 then 64
    else 64 + 32 * stateCount [] bytes + 4 * bytes.length
  | _ =>
    if ranges.all fun r => r.2 < 128 then 64 + 8 * ranges.length
    else 64 + 32 * stateCount [] bytes + 4 * bytes.length

end Charset

/-! ## Patterns -/

namespace Pattern

/-- Whether a pattern matches no text without a character in it. -/
def takesChar : Pattern → Bool
  | .empty => false
  | .one _ => true
  | .anchor _ => false
  | .seq a b => a.takesChar || b.takesChar
  | .alt a b => a.takesChar && b.takesChar
  | .repeated a min _ => min != 0 && a.takesChar

/-- The size of a repetition of something of a given size. -/
def repeatedSize (size : Nat) (takesChar : Bool) (min : Nat) : Option Nat → Nat
  | none =>
    if min = 0 then size + (if takesChar then 40 else 112) else min * size + 40
  | some max =>
    if min = 0 ∧ max = 1 then size + 72
    else
      let required := if min = 0 then 32 else min * size
      if min = max then required else required + 32 + (max - min) * (size + 40)

/-- The size of a pattern; `inside` tells that it is one of several alternatives already. -/
def compiledSize (inside : Bool) : Pattern → Nat
  | .empty => 32
  | .one set => set.compiledSize
  | .anchor _ => 32
  | .seq a b => a.compiledSize false + b.compiledSize false
  | .alt a b => (if inside then 4 else 72) + a.compiledSize false + b.compiledSize true
  | .repeated a min max => repeatedSize (a.compiledSize false) a.takesChar min max

end Pattern

end RequestSuite
