import RequestSuite.Unicode.Case
import RequestSuite.Unicode.Property

/-!
# Sets of characters

The sets that patterns are made of: ranges and named properties, joined by the operations on sets.
A set may be closed under case folding, so that with a letter it holds all its variants.
-/

namespace RequestSuite

open Unicode

/-- A set of characters. -/
inductive Charset where
  | range (low high : Nat)
  | property (p : Property)
  | union (a b : Charset)
  | inter (a b : Charset)
  | complement (a : Charset)
  /-- The characters with a case variant in the set. -/
  | folded (a : Charset)
  /-- The characters with a case variant in the set, where only the Latin letters from a to z have
  variants. -/
  | foldedAscii (a : Charset)
deriving DecidableEq, Repr

namespace Charset

/-- Whether a code point is in a set. -/
def holds : Charset → Nat → Bool
  | .range low high, n => low ≤ n && n ≤ high
  | .property p, n => p.holds n
  | .union a b, n => a.holds n || b.holds n
  | .inter a b, n => a.holds n && b.holds n
  | .complement a, n => !a.holds n
  | .folded a, n => (caseVariants n).any fun m => a.holds m
  | .foldedAscii a, n =>
    a.holds n || (65 ≤ n && n ≤ 90 && a.holds (n + 32)) || (97 ≤ n && n ≤ 122 && a.holds (n - 32))

/-- Whether a character is in a set. -/
def contains (s : Charset) (c : Char) : Bool :=
  s.holds c.toNat

/-- The set without characters. -/
def empty : Charset := .range 1 0

/-- The set of one character. -/
def single (c : Char) : Charset := .range c.toNat c.toNat

/-- The characters of several sets. -/
def unionAll : List Charset → Charset
  | [] => empty
  | [s] => s
  | s :: rest => .union s (unionAll rest)

/-- The characters of the first set that are not in the second. -/
def minus (a b : Charset) : Charset := .inter a (.complement b)

/-- The set, or all characters outside it. -/
def negateIf (negate : Bool) (s : Charset) : Charset :=
  if negate then .complement s else s

/-- The set of all characters. -/
def all : Charset := .range 0 0x10FFFF

/-- The characters below 128. -/
def ascii : Charset := .range 0 127

/-- The characters with one of several properties. -/
def ofProperties (ps : List Property) : Charset :=
  unionAll (ps.map .property)

/-- The characters with the property of a name; none if there is no such property. -/
def named (lookup : List Char → Option (List Property)) (name : String) : Charset :=
  ofProperties ((lookup (plainName name.toList)).getD [])

/-! ## Classes with letters of their own -/

/-- The decimal digits of all scripts, or those from 0 to 9. -/
def digit (unicode : Bool) : Charset :=
  if unicode then named categoryNamed? "Nd" else .range 48 57

/-- The white space of all scripts, or that among the first 128 characters. -/
def space (unicode : Bool) : Charset :=
  if unicode then named traitNamed? "White_Space"
  else .union (.range 9 13) (single ' ')

/-- The letters, marks, digits and connecting signs that words consist of. -/
def word (unicode : Bool) : Charset :=
  if unicode then
    unionAll [named traitNamed? "Alphabetic", named categoryNamed? "M", named categoryNamed? "Nd",
      named categoryNamed? "Pc", .range 0x200C 0x200D]
  else
    unionAll [.range 48 57, .range 65 90, single '_', .range 97 122]

/-- The set of a class name between colons, such as `alpha`. -/
def asciiClass? (name : String) : Option Charset :=
  match name with
  | "alnum" => some (unionAll [.range 48 57, .range 65 90, .range 97 122])
  | "alpha" => some (.union (.range 65 90) (.range 97 122))
  | "ascii" => some ascii
  | "blank" => some (.union (single '\t') (single ' '))
  | "cntrl" => some (.union (.range 0 31) (.range 127 127))
  | "digit" => some (.range 48 57)
  | "graph" => some (.range 33 126)
  | "lower" => some (.range 97 122)
  | "print" => some (.range 32 126)
  | "punct" => some (unionAll [.range 33 47, .range 58 64, .range 91 96, .range 123 126])
  | "space" => some (.union (.range 9 13) (single ' '))
  | "upper" => some (.range 65 90)
  | "word" => some (word false)
  | "xdigit" => some (unionAll [.range 48 57, .range 65 70, .range 97 102])
  | _ => none

/-- The set of a property name. -/
def ofName? (name : List Char) : Option Charset :=
  let plain := plainName name
  let trait := if plain = ['s', 'c'] ∨ plain = ['c', 'f'] ∨ plain = ['l', 'c'] then none
    else traitNamed? plain
  match (trait.or (categoryNamed? plain)).or (scriptNamed? plain) with
  | some ps => some (ofProperties ps)
  | none =>
    if plain = "any".toList then some all
    else if plain = "ascii".toList then some ascii
    else if plain = "assigned".toList then
      some (unionAll (categoryTable.map fun e => named categoryNamed? (e.1.headD "")))
    else none

/-- The set of a property with a value. -/
def ofNameAndValue? (name value : List Char) : Option Charset :=
  let name := plainName name
  let value := plainName value
  if ["generalcategory", "gc"].any fun n => n.toList == name then
    (categoryNamed? value).map ofProperties
  else if ["script", "sc", "scriptextensions", "scx"].any fun n => n.toList == name then
    (scriptNamed? value).map ofProperties
  else none

end Charset

end RequestSuite
