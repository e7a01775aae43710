/-!
# ASCII letter case

Names of headers are compared without regard to the case of the letters from a to z.
-/

namespace RequestSuite.Text

/-- A text with the letters from A to Z in lower case. -/
def lower (s : String) : String :=
  String.ofList (s.toList.map Char.toLower)

/-- Whether two texts differ at most in the case of the letters from A to Z. -/
def sameIgnoringCase (a b : String) : Bool :=
  lower a == lower b

@[simp] theorem lower_lower (s : String) : lower (lower s) = lower s := by
  have hchar : Char.toLower ∘ Char.toLower = Char.toLower := by
    funext c
    unfold Char.toLower
    grind
  simp [lower, hchar]

end RequestSuite.Text
