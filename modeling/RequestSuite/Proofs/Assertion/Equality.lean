import Mathlib.Logic.Basic
import RequestSuite.Assertion.Evaluation
import RequestSuite.Proofs.Value.Compact

/-!
# Equality in tests

Tests of equality compare texts.  A text stands for itself in them, and so it equals each value that
is written like it.  Between other values no such confusion comes about, however deep they are
nested: what is equal in writing is identical (`Assertion.passes_equal_iff_identical`).
-/

namespace RequestSuite

/-- The text of a value that is not itself a text is its compact form. -/
theorem Value.text_eq_iff_identical {v w : Value} (hv : ∀ s, v ≠ .string s)
    (hw : ∀ s, w ≠ .string s) : v.text = w.text ↔ v.Identical w := by
  have htext (u : Value) (hu : ∀ s, u ≠ .string s) : u.text = String.ofList u.compactChars := by
    cases u with
    | string s => exact absurd rfl (hu s)
    | _ => rfl
  rw [htext v hv, htext w hw, String.ofList_inj]
  exact compactChars_eq_iff

namespace Assertion

/-- Whether the test with one operator passes: it gives one assertion, and that holds. -/
def Passes (source : Source) (op : Operator) (received : Option Value) (expected : Value) : Prop :=
  ∃ a, evaluate source (.object [(op.key, expected)]) (.ok received) = [a] ∧ a.passed = true

variable {source : Source} {received : Option Value} {expected : Value}

theorem passes_iff (op : Operator) (hop : op ≠ .pattern) :
    Passes source op received expected ↔ compares op expected received = .ok true := by
  rw [← passed_ofOperator_iff source, Passes, evaluate_operator source hop]
  simp

theorem passes_equal_iff :
    Passes source .equal received expected ↔ Value.textOf received = expected.text := by
  rw [passes_iff .equal nofun]
  simp [compares]

theorem passes_notEqual_iff :
    Passes source .notEqual received expected ↔ Value.textOf received ≠ expected.text := by
  rw [passes_iff .notEqual nofun]
  simp [compares]

/-- **Equality in tests.**  Of two values that are not texts themselves, equality holds just if they
are identical.  Whatever is received and expected, either equality holds or inequality. -/
theorem passes_equal_iff_identical (source : Source) :
    (∀ received expected : Value, (∀ s, received ≠ .string s) → (∀ s, expected ≠ .string s) →
      (Passes source .equal (some received) expected ↔ received.Identical expected)) ∧
    ∀ (received : Option Value) (expected : Value),
      Xor (Passes source .equal received expected) (Passes source .notEqual received expected) := by
  constructor
  · intro received expected hreceived hexpected
    rw [passes_equal_iff, Value.textOf]
    exact Value.text_eq_iff_identical hreceived hexpected
  · intro received expected
    rw [passes_equal_iff, passes_notEqual_iff]
    exact xor_not_right.mpr Iff.rfl

/-- One text with a comma between quotation marks is not two texts. -/
theorem passes_equal_iff_identical_comma :
    let one : Value := .array [.string "a\",\"b"]
    let two : Value := .array [.string "a", .string "b"]
    (∀ s, one ≠ .string s) ∧ (∀ s, two ≠ .string s) ∧
      Passes .body .equal (some one) one ∧ ¬ Passes .body .equal (some one) two := by
  intro one two
  obtain ⟨hidentical, -⟩ := passes_equal_iff_identical .body
  have hone : ∀ s, one ≠ .string s := nofun
  have htwo : ∀ s, two ≠ .string s := nofun
  refine ⟨hone, htwo, (hidentical one one hone hone).mpr (.array (.cons (.string _) .nil)), ?_⟩
  rw [hidentical one two hone htwo, Value.identical_array_iff]
  rintro (_ | ⟨-, ⟨⟩⟩)

end Assertion

end RequestSuite
