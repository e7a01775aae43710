/-!
# Tables of code points

Properties of characters are kept as texts of hexadecimal ranges, such as `41-5a 61-7a aa`, and maps
between characters as runs, such as `61-7a/1:-20`: every character from `61` to `7a` in steps of one
goes to the one `20` below it.  This module reads such texts and looks characters up in them.
-/

namespace RequestSuite.Unicode

/-- The value of a hexadecimal numeral in lower case. -/
def hexValue (s : List Char) : Nat :=
  s.foldl (fun n c =>
    n * 16 + if c.isDigit then c.toNat - 48 else c.toNat - 87) 0

/-- The parts of a list between separators. -/
def splitAt (separator : Char) : List Char → List (List Char)
  | [] => [[]]
  | c :: rest =>
    match splitAt separator rest with
    | [] => [[c]]
    | part :: parts => if c = separator then [] :: part :: parts else (c :: part) :: parts

/-- The words of a text over several lines. -/
def words (s : String) : List (List Char) :=
  (splitAt ' ' (s.toList.map fun c => if c = '\n' then ' ' else c)).filter fun w => !w.isEmpty

/-! ## Ranges -/

/-- Ranges of code points, both ends included. -/
abbrev Ranges := Array (Nat × Nat)

/-- The range of a text such as `41-5a` or `aa`. -/
def rangeOfText (s : List Char) : Nat × Nat :=
  match splitAt '-' s with
  | [low, high] => (hexValue low, hexValue high)
  | _ => (hexValue s, hexValue s)

/-- The ranges of a text. -/
def Ranges.ofText (s : String) : Ranges :=
  ((words s).map rangeOfText).toArray

/-- Whether a code point lies in one of the ranges. -/
def Ranges.contains (r : Ranges) (n : Nat) : Bool :=
  r.any fun p => p.1 ≤ n && n ≤ p.2

/-! ## Runs -/

/-- The code points from `first` to `last` in steps, each going to the one at a distance. -/
structure Run where
  first : Nat
  last : Nat
  step : Nat
  distance : Int

namespace Run

/-- The run of a text such as `61-7a/1:-20`. -/
def ofChars (s : List Char) : Run :=
  match splitAt ':' s with
  | [source, distance] =>
    let distance : Int :=
      match distance with
      | '-' :: digits => -(hexValue digits : Int)
      | digits => hexValue digits
    match splitAt '/' source with
    | [range, step] =>
      let (first, last) := rangeOfText range
      ⟨first, last, hexValue step, distance⟩
    | _ => ⟨1, 0, 1, 0⟩
  | _ => ⟨1, 0, 1, 0⟩

/-- The runs of a text. -/
def ofText (s : String) : Array Run :=
  ((words s).map ofChars).toArray

/-- Whether a run starts from a code point. -/
def covers (r : Run) (n : Nat) : Bool :=
  r.first ≤ n && n ≤ r.last && (n - r.first) % r.step == 0

/-- Where a code point goes; one that no run covers stays where it is. -/
def apply (runs : Array Run) (n : Nat) : Nat :=
  match runs.find? fun r => r.covers n with
  | some r => ((n : Int) + r.distance).toNat
  | none => n

/-- The code points that go to the given one. -/
def sources (runs : Array Run) (n : Nat) : List Nat :=
  runs.toList.filterMap fun r =>
    let source := ((n : Int) - r.distance).toNat
    if r.covers source then some source else none

/-- The code points that some runs start from or go to. -/
def points (runs : Array Run) : List Nat :=
  runs.toList.flatMap fun r =>
    (List.range' r.first ((r.last - r.first) / r.step + 1) r.step).flatMap fun n =>
      [n, ((n : Int) + r.distance).toNat]

end Run

/-- The entries of a text such as `df=53+53`. -/
def expansionsOfText (s : String) : List (Nat × List Nat) :=
  (words s).map fun entry =>
    match splitAt '=' entry with
    | [source, target] => (hexValue source, (splitAt '+' target).map hexValue)
    | _ => (0, [])

end RequestSuite.Unicode
