/-!
# Styles

Texts are shown in styles by control sequences around them, if the terminal understands these.  Where
a styled text itself ends a style, its own style is taken up again.
-/

namespace RequestSuite

/-- The colors of texts. -/
inductive Color where
  | red
  | green
  | yellow
  | blue
  | cyan
deriving DecidableEq, Repr

/-- The number of a color. -/
def Color.code : Color → Nat
  | red => 31
  | green => 32
  | yellow => 33
  | blue => 34
  | cyan => 36

/-- The weights of texts. -/
inductive Weight where
  | bold
  | dimmed
deriving DecidableEq, Repr

/-- The number of a weight. -/
def Weight.code : Weight → Nat
  | bold => 1
  | dimmed => 2

/-- A way of showing a text. -/
structure Style where
  weight : Option Weight := none
  color : Option Color := none
deriving DecidableEq, Repr

namespace Style

/-- The style of a color. -/
def colored (c : Color) : Style := { color := some c }

/-- Texts in bold. -/
def bold : Style := { weight := some .bold }

/-- Texts that stand back. -/
def dimmed : Style := { weight := some .dimmed }

/-- A style in bold. -/
def inBold (s : Style) : Style := { s with weight := some .bold }

/-- The numbers of a style, first the weight and then the color. -/
def codes (s : Style) : List Nat :=
  (s.weight.map Weight.code).toList ++ (s.color.map Color.code).toList

/-- The control sequence that starts a style. -/
def start (s : Style) : List Char :=
  '\x1b' :: '[' :: (";".intercalate (s.codes.map toString)).toList ++ ['m']

/-- The control sequence that ends all styles. -/
def stop : List Char := ['\x1b', '[', '0', 'm']

/-- Characters in which each end of all styles is followed by the start of this one. -/
def resume (s : Style) : List Char → List Char
  | '\x1b' :: '[' :: '0' :: 'm' :: rest => stop ++ s.start ++ resume s rest
  | c :: rest => c :: resume s rest
  | [] => []

/-- A text in a style, or as it is if styles are not shown. -/
def paint (s : Style) (styled : Bool) (text : String) : String :=
  if styled then String.ofList (s.start ++ s.resume text.toList ++ stop) else text

end Style

end RequestSuite
