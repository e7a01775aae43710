import RequestSuite.Proofs.Assertion.Comparison
import RequestSuite.Proofs.Number.Nearest

/-!
# Comparing whole numbers

Tests of equality compare the texts of two numbers, and tests of order the doubles nearest to them.
Each text is that of one whole number, so equality is exact; a double is shared by whole numbers
that are close to each other, so order is not.  `Assertion.inOrder_iff_nearest` says for which whole
numbers all comparisons agree with their order, and what the comparisons mean for the others.
-/

namespace RequestSuite

/-! ## Texts of whole numbers -/

theorem Number.intChars_eq_toString (i : Int) : intChars i = (toString i).toList := by
  cases i with
  | ofNat n =>
    rw [Int.ofNat_eq_natCast, Text.toList_toString_ofNat, intChars, if_neg (by omega)]
    rfl
  | negSucc n =>
    rw [Text.toList_toString_negSucc, intChars, if_pos (Int.negSucc_lt_zero n)]
    rfl

theorem Value.text_int_eq_iff {a b : Int} :
    (Value.number (.int a)).text = (Value.number (.int b)).text ↔ a = b := by
  constructor
  · intro h
    have hchars : Number.intChars a = Number.intChars b := String.ofList_inj.mp h
    have hread := congrArg Text.readInt? hchars
    rw [Number.intChars_eq_toString, Number.intChars_eq_toString, Text.readInt?_toString,
      Text.readInt?_toString] at hread
    exact Option.some.inj hread
  · rintro rfl
    rfl

namespace Assertion

open Binary64 (nearest)

/-- Whether a test with one operator passes that expects a whole number and receives another. -/
def PassesInt (source : Source) (op : Operator) (received expected : Int) : Prop :=
  ∃ a, evaluate source (.object [(op.key, .number (.int expected))])
    (.ok (some (.number (.int received)))) = [a] ∧ a.passed = true

/-- The comparisons of two whole numbers come out as their order says. -/
structure InOrder (source : Source) (a b : Int) : Prop where
  less : PassesInt source .less a b ↔ a < b
  greater : PassesInt source .greater a b ↔ a > b
  atMost : PassesInt source .atMost a b ↔ a ≤ b
  atLeast : PassesInt source .atLeast a b ↔ a ≥ b
  equal : PassesInt source .equal a b ↔ a = b
  notEqual : PassesInt source .notEqual a b ↔ a ≠ b
  /-- They are less, equal or greater, and only one of these. -/
  exactlyOne :
    (PassesInt source .less a b ∧ ¬ PassesInt source .equal a b ∧ ¬ PassesInt source .greater a b) ∨
    (¬ PassesInt source .less a b ∧ PassesInt source .equal a b ∧ ¬ PassesInt source .greater a b) ∨
    (¬ PassesInt source .less a b ∧ ¬ PassesInt source .equal a b ∧ PassesInt source .greater a b)

variable {source : Source} {a b : Int}

/-! ## What each comparison looks at -/

theorem passesInt_equal_iff : PassesInt source .equal a b ↔ a = b :=
  passes_equal_iff.trans Value.text_int_eq_iff

theorem passesInt_notEqual_iff : PassesInt source .notEqual a b ↔ a ≠ b :=
  passes_notEqual_iff.trans (not_congr Value.text_int_eq_iff)

/-- The numbers of 64 bits, signed or unsigned, have a nearest double. -/
theorem natAbs_lt_of_isExact (h : Number.isExact a = true) : a.natAbs < 2 ^ 64 := by
  simp only [Number.isExact, Bool.and_eq_true, decide_eq_true_eq] at h
  omega

/-- The nearest doubles decide about order. -/
theorem order_int (ha : Number.isExact a = true) (hb : Number.isExact b = true) :
    order (some (.number (.int a))) (.number (.int b)) = .ok (compare (nearest a) (nearest b)) :=
  congrArg Except.ok (Binary64.compare_ofInt (natAbs_lt_of_isExact ha) (natAbs_lt_of_isExact hb))

section

variable (ha : Number.isExact a = true) (hb : Number.isExact b = true)
include ha hb

theorem passesInt_iff_accepts {op : Operator} (hop : op ∈ Operator.ofOrder) :
    PassesInt source op a b ↔ op.accepts (compare (nearest a) (nearest b)) = true :=
  passes_iff_accepts hop (order_int ha hb)

theorem passesInt_less_iff : PassesInt source .less a b ↔ nearest a < nearest b := by
  rw [passesInt_iff_accepts ha hb (by decide), ← Int.compare_eq_lt]
  exact beq_iff_eq

theorem passesInt_greater_iff : PassesInt source .greater a b ↔ nearest b < nearest a := by
  rw [passesInt_iff_accepts ha hb (by decide), ← Int.compare_eq_gt]
  exact beq_iff_eq

theorem passesInt_atMost_iff : PassesInt source .atMost a b ↔ nearest a ≤ nearest b := by
  rw [passesInt_iff_accepts ha hb (by decide), ← Int.not_lt, ← Int.compare_eq_gt]
  exact bne_iff_ne

theorem passesInt_atLeast_iff : PassesInt source .atLeast a b ↔ nearest b ≤ nearest a := by
  rw [passesInt_iff_accepts ha hb (by decide), ← Int.not_lt, ← Int.compare_eq_lt]
  exact bne_iff_ne

/-! ## When all of them agree -/

/-- Two whole numbers compare as they should unless they are different and share a double. -/
theorem inOrder_iff : InOrder source a b ↔ a = b ∨ nearest a ≠ nearest b := by
  have hmono (h : a ≤ b) : nearest a ≤ nearest b := Binary64.nearest_mono h
  have hmono' (h : b ≤ a) : nearest b ≤ nearest a := Binary64.nearest_mono h
  constructor
  · intro h
    have hless := h.less
    have hgreater := h.greater
    rw [passesInt_less_iff ha hb] at hless
    rw [passesInt_greater_iff ha hb] at hgreater
    omega
  · intro h
    have hless : PassesInt source .less a b ↔ a < b := by
      rw [passesInt_less_iff ha hb]
      omega
    have hgreater : PassesInt source .greater a b ↔ a > b := by
      rw [passesInt_greater_iff ha hb]
      omega
    refine ⟨hless, hgreater, ?_, ?_, passesInt_equal_iff, passesInt_notEqual_iff, ?_⟩
    · rw [passesInt_atMost_iff ha hb]
      omega
    · rw [passesInt_atLeast_iff ha hb]
      omega
    · rw [hless, hgreater, passesInt_equal_iff]
      omega

/-- **Comparing whole numbers.**  Tests of equality agree with equality of whole numbers.  A test of
strict order passes only if the order holds, and one that allows equality passes whenever it holds.
All six comparisons agree with the order of two whole numbers just if the numbers are equal or
rounded to different doubles.  So they do up to `2 ^ 53`, and of numbers that are more than
`2 ^ 11` apart. -/
theorem inOrder_iff_nearest (source : Source) :
    (PassesInt source .equal a b ↔ a = b) ∧ (PassesInt source .notEqual a b ↔ a ≠ b) ∧
    (PassesInt source .less a b → a < b) ∧ (PassesInt source .greater a b → a > b) ∧
    (a ≤ b → PassesInt source .atMost a b) ∧ (a ≥ b → PassesInt source .atLeast a b) ∧
    (InOrder source a b ↔ a = b ∨ nearest a ≠ nearest b) ∧
    (a.natAbs ≤ 2 ^ 53 → b.natAbs ≤ 2 ^ 53 → InOrder source a b) ∧
    ((a - b).natAbs > 2 ^ 11 → InOrder source a b) := by
  have hmono (h : a ≤ b) : nearest a ≤ nearest b := Binary64.nearest_mono h
  have hmono' (h : b ≤ a) : nearest b ≤ nearest a := Binary64.nearest_mono h
  rw [inOrder_iff ha hb, passesInt_less_iff ha hb, passesInt_greater_iff ha hb,
    passesInt_atMost_iff ha hb, passesInt_atLeast_iff ha hb]
  refine ⟨passesInt_equal_iff, passesInt_notEqual_iff, by omega, by omega, hmono, hmono', Iff.rfl,
    ?_, ?_⟩
  · intro hsmall hsmall'
    rw [Binary64.nearest_eq_self hsmall, Binary64.nearest_eq_self hsmall']
    omega
  · intro hapart
    have hnear := Binary64.nearest_near (natAbs_lt_of_isExact ha)
    have hnear' := Binary64.nearest_near (natAbs_lt_of_isExact hb)
    omega

end

/-- The largest whole number before a gap between doubles, and the two after it. -/
theorem inOrder_iff_nearest_gap :
    Number.isExact (2 ^ 53) = true ∧ Number.isExact (2 ^ 53 + 1) = true ∧
    Number.isExact (2 ^ 53 + 2) = true ∧ InOrder .body (2 ^ 53) (2 ^ 53 + 2) ∧
    ¬ InOrder .body (2 ^ 53) (2 ^ 53 + 1) ∧ ¬ PassesInt .body .equal (2 ^ 53) (2 ^ 53 + 1) := by
  have hlow : Number.isExact (2 ^ 53) = true := by decide
  have hmiddle : Number.isExact (2 ^ 53 + 1) = true := by decide
  have hhigh : Number.isExact (2 ^ 53 + 2) = true := by decide
  have hgap : nearest (2 ^ 53) = nearest (2 ^ 53 + 1) := by decide
  have hnext : nearest (2 ^ 53) ≠ nearest (2 ^ 53 + 2) := by decide
  obtain ⟨hequal, -, -, -, -, -, hiff, -, -⟩ := inOrder_iff_nearest hlow hmiddle .body
  obtain ⟨-, -, -, -, -, -, hiff', -, -⟩ := inOrder_iff_nearest hlow hhigh .body
  refine ⟨hlow, hmiddle, hhigh, hiff'.mpr (.inr hnext), fun h => ?_, fun h => ?_⟩
  · rcases hiff.mp h with heq | hne
    · exact absurd heq (by decide)
    · exact hne hgap
  · exact absurd (hequal.mp h) (by decide)

/-- A received number that is one less than the expected one need not be less to a test: neither
`$lt` nor `$eq` nor `$gt` passes here. -/
theorem not_inOrder_adjacent : ¬ ∀ a b, Number.isExact a = true → Number.isExact b = true →
    InOrder .body a b := by
  intro h
  have hadjacent := h (2 ^ 53) (2 ^ 53 + 1) (by decide) (by decide)
  rcases (inOrder_iff (by decide) (by decide)).mp hadjacent with heq | hne
  · exact absurd heq (by decide)
  · exact hne (by decide)

end Assertion

end RequestSuite
