import RequestSuite.Unicode.Category
import RequestSuite.Unicode.Script
import RequestSuite.Unicode.Trait

/-!
# Named properties of characters

Looking up categories, scripts and other properties by name.  Letter case, blanks, hyphens and
underscores in a name do not count, and neither does the word `is` in front of it.
-/

namespace RequestSuite.Unicode

/-- A property from one of the tables, by its place there. -/
inductive Property where
  | category (place : Nat)
  | script (place : Nat)
  | trait (place : Nat)
deriving DecidableEq, Repr

/-- The form of a name in which names are compared. -/
def plainName (s : List Char) : List Char :=
  let letters := (s.filter fun c => c != ' ' && c != '_' && c != '-' && c.toNat < 128).map
    Char.toLower
  match letters with
  | 'i' :: 's' :: rest => if rest = ['c'] then letters else rest
  | _ => letters

/-- A table with its ranges read and its names in plain form. -/
def readTable (table : List (List String × String)) : Array (List (List Char) × Ranges) :=
  (table.map fun (names, ranges) =>
    (names.map fun name => plainName name.toList, Ranges.ofText ranges)).toArray

/-- The general categories. -/
def categories : Array (List (List Char) × Ranges) := readTable categoryTable

/-- The scripts. -/
def scripts : Array (List (List Char) × Ranges) := readTable scriptTable

/-- The other properties. -/
def traits : Array (List (List Char) × Ranges) := readTable traitTable

/-- The place of a name in a table. -/
def place? (table : Array (List (List Char) × Ranges)) (name : List Char) : Option Nat :=
  table.findIdx? fun entry => entry.1.contains name

/-- Whether a code point has a property. -/
def Property.holds : Property → Nat → Bool
  | .category i, n => (categories[i]?).any fun entry => entry.2.contains n
  | .script i, n => (scripts[i]?).any fun entry => entry.2.contains n
  | .trait i, n => (traits[i]?).any fun entry => entry.2.contains n

/-- The code points with a property. -/
def Property.ranges (p : Property) : Ranges :=
  let entry := match p with
    | .category i => categories[i]?
    | .script i => scripts[i]?
    | .trait i => traits[i]?
  (entry.map (·.2)).getD #[]

/-- The names of the groups of general categories, with the short names of their members. -/
def categoryGroups : List (List String × List String) :=
  [(["L", "Letter"], ["Lu", "Ll", "Lt", "Lm", "Lo"]),
   (["LC", "Cased_Letter"], ["Lu", "Ll", "Lt"]),
   (["M", "Mark", "Combining_Mark"], ["Mn", "Mc", "Me"]),
   (["N", "Number"], ["Nd", "Nl", "No"]),
   (["P", "Punctuation", "Punct"], ["Pc", "Pd", "Ps", "Pe", "Pi", "Pf", "Po"]),
   (["S", "Symbol"], ["Sm", "Sc", "Sk", "So"]),
   (["Z", "Separator"], ["Zs", "Zl", "Zp"])]

/-- The properties that a general category or a group of them consists of. -/
def categoryNamed? (name : List Char) : Option (List Property) :=
  match categoryGroups.find? fun g => (g.1.map fun n => plainName n.toList).contains name with
  | some group =>
    some (group.2.filterMap fun n => (place? categories (plainName n.toList)).map .category)
  | none => (place? categories name).map fun i => [.category i]

/-- The script of a name. -/
def scriptNamed? (name : List Char) : Option (List Property) :=
  (place? scripts name).map fun i => [.script i]

/-- The other property of a name. -/
def traitNamed? (name : List Char) : Option (List Property) :=
  (place? traits name).map fun i => [.trait i]

end RequestSuite.Unicode
