import RequestSuite.Proofs.Assertion.Equality

/-!
# Tests of order

The four operators of order are four ways to look at one comparison of two values
(`Operator.accepts`).  Two numbers and two texts have an order, and all other values have none: they
fail with both of their kinds in the message.  Since the comparison of values that have an order is
turned round by exchanging them, and is transitive, so are the tests; on texts they are the order of
words by their letters (`Assertion.passes_ofOrder`).
-/

namespace RequestSuite

/-! ## The operators of order -/

namespace Operator

/-- The operators that ask for an order. -/
def ofOrder : List Operator :=
  [less, greater, atMost, atLeast]

/-- Whether an operator of order is content with the outcome of a comparison. -/
def accepts : Operator → Ordering → Bool
  | less, o => o == .lt
  | greater, o => o == .gt
  | atMost, o => o != .gt
  | atLeast, o => o != .lt
  | _, _ => false

theorem accepts_atLeast (o : Ordering) : accepts atLeast o = !accepts less o := rfl

theorem accepts_atMost (o : Ordering) : accepts atMost o = !accepts greater o := rfl

theorem accepts_greater_swap (o : Ordering) : accepts greater o.swap = accepts less o := by
  cases o <;> rfl

theorem accepts_atLeast_swap (o : Ordering) : accepts atLeast o.swap = accepts atMost o := by
  cases o <;> rfl

theorem ne_pattern_of_mem_ofOrder {op : Operator} (h : op ∈ ofOrder) : op ≠ pattern := by
  rintro rfl
  exact absurd h (by decide)

end Operator

namespace Assertion

/-! ## Values that have an order -/

/-- Two values that have an order: two numbers, or two texts. -/
inductive Comparable : Value → Value → Prop
  | numbers (m n : Number) : Comparable (.number m) (.number n)
  | texts (s t : String) : Comparable (.string s) (.string t)

variable {received : Option Value} {expected a b c : Value} {o : Ordering}

theorem comparable_of_order (h : order (some a) b = .ok o) : Comparable a b := by
  unfold order at h
  split at h
  · rename_i heq
    cases heq
    exact .numbers _ _
  · rename_i heq
    cases heq
    exact .texts _ _
  · cases h

theorem exists_order (h : Comparable a b) : ∃ o, order (some a) b = .ok o := by
  cases h with
  | numbers m n => exact ⟨_, rfl⟩
  | texts s t => exact ⟨_, rfl⟩

theorem order_of_not_comparable (h : ∀ a, received = some a → ¬ Comparable a expected) :
    order received expected = .error (.incomparable expected.kind (Value.kindOf received)) := by
  unfold order
  split
  · exact absurd (.numbers _ _) (h _ rfl)
  · exact absurd (.texts _ _) (h _ rfl)
  · rfl

theorem order_numbers (m n : Number) : order (some (.number m)) (.number n) =
    .ok (compare m.toBinary64.toUnits n.toBinary64.toUnits) :=
  rfl

/-- The values change places. -/
theorem order_swap (h : order (some a) b = .ok o) : order (some b) a = .ok o.swap := by
  cases comparable_of_order h with
  | numbers m n =>
    rw [order_numbers, Except.ok.injEq] at h ⊢
    rw [← h]
    exact Std.OrientedOrd.eq_swap
  | texts s t =>
    rw [order, Except.ok.injEq] at h ⊢
    rw [← h]
    exact Std.OrientedOrd.eq_swap

theorem order_trans (hab : order (some a) b = .ok .lt) (hbc : order (some b) c = .ok .lt) :
    order (some a) c = .ok .lt := by
  cases comparable_of_order hab with
  | numbers m n =>
    cases comparable_of_order hbc with
    | numbers n k =>
      rw [order_numbers, Except.ok.injEq] at hab hbc ⊢
      exact Std.TransCmp.lt_trans hab hbc
  | texts s t =>
    cases comparable_of_order hbc with
    | texts t u =>
      rw [order, Except.ok.injEq] at hab hbc ⊢
      exact Std.TransCmp.lt_trans hab hbc

/-! ## What the tests look at -/

variable {source : Source} {op : Operator}

theorem compares_ofOrder (h : op ∈ Operator.ofOrder) :
    compares op expected received = (order received expected).map op.accepts := by
  simp only [Operator.ofOrder, List.mem_cons, List.not_mem_nil, or_false] at h
  rcases h with rfl | rfl | rfl | rfl
  · rfl
  · rfl
  · rfl
  · rfl

theorem passes_ofOrder_iff (h : op ∈ Operator.ofOrder) : Passes source op received expected ↔
    ∃ o, order received expected = .ok o ∧ op.accepts o = true := by
  rw [passes_iff op (Operator.ne_pattern_of_mem_ofOrder h), compares_ofOrder h]
  rcases order received expected with fault | o
  · simp [Except.map]
  · simp [Except.map]

/-- With a comparison that is decided, an operator of order looks at nothing but its outcome. -/
theorem passes_iff_accepts (hop : op ∈ Operator.ofOrder) (h : order received expected = .ok o) :
    Passes source op received expected ↔ op.accepts o = true := by
  rw [passes_ofOrder_iff hop, h]
  simp

theorem passes_less_iff :
    Passes source .less received expected ↔ order received expected = .ok .lt := by
  rw [passes_ofOrder_iff (by decide)]
  constructor
  · rintro ⟨o, ho, haccepts⟩
    rw [ho, eq_of_beq haccepts]
  · intro h
    exact ⟨.lt, h, rfl⟩

/-! ## How they come out -/

/-- The test with one operator fails because the two values have no order. -/
def Mismatches (source : Source) (op : Operator) (received : Option Value) (expected : Value) :
    Prop :=
  ∃ a, evaluate source (.object [(op.key, expected)]) (.ok received) = [a] ∧ a.passed = false ∧
    a.message = some
      ("type mismatch: cannot compare " ++ Value.kindOf received ++ " with " ++ expected.kind)

/-- How the tests of order come out for two values that have an order. -/
structure Ordered (source : Source) (a b : Value) : Prop where
  less_or_atLeast : Xor (Passes source .less (some a) b) (Passes source .atLeast (some a) b)
  greater_or_atMost : Xor (Passes source .greater (some a) b) (Passes source .atMost (some a) b)
  not_both : ¬ (Passes source .less (some a) b ∧ Passes source .greater (some a) b)
  less_swap : Passes source .less (some a) b ↔ Passes source .greater (some b) a
  atMost_swap : Passes source .atMost (some a) b ↔ Passes source .atLeast (some b) a

/-- How tests come out for two texts. -/
structure OrderedTexts (source : Source) (s t : String) : Prop where
  /-- The first text is a beginning of the second, or has the smaller code point where they part. -/
  less : Passes source .less (some (.string s)) (.string t) ↔
    List.Lex (fun c d => c.toNat < d.toNat) s.toList t.toList
  exactlyOne :
    let less := Passes source .less (some (.string s)) (.string t)
    let equal := Passes source .equal (some (.string s)) (.string t)
    let greater := Passes source .greater (some (.string s)) (.string t)
    (less ∧ ¬ equal ∧ ¬ greater) ∨ (¬ less ∧ equal ∧ ¬ greater) ∨ (¬ less ∧ ¬ equal ∧ greater)

theorem mismatches_ofOrder (source : Source) (hop : op ∈ Operator.ofOrder)
    (h : ∀ a, received = some a → ¬ Comparable a expected) :
    Mismatches source op received expected := by
  have hcompares : compares op expected received =
      .error (.incomparable expected.kind (Value.kindOf received)) := by
    rw [compares_ofOrder hop, order_of_not_comparable h]
    rfl
  refine ⟨ofOperator source op expected received,
    evaluate_operator source (Operator.ne_pattern_of_mem_ofOrder hop) expected received, ?_, ?_⟩
  · rw [ofOperator, hcompares]
    rfl
  · rw [ofOperator, hcompares]
    rfl

theorem ordered_of_comparable (source : Source) (h : Comparable a b) : Ordered source a b := by
  obtain ⟨o, ho⟩ := exists_order h
  have hop {op : Operator} (hmem : op ∈ Operator.ofOrder) :
      Passes source op (some a) b ↔ op.accepts o = true := passes_iff_accepts hmem ho
  have hop' {op : Operator} (hmem : op ∈ Operator.ofOrder) :
      Passes source op (some b) a ↔ op.accepts o.swap = true :=
    passes_iff_accepts hmem (order_swap ho)
  constructor
  · rw [hop (by decide), hop (by decide), Operator.accepts_atLeast, Bool.not_eq_true',
      ← Bool.not_eq_true]
    exact xor_not_right.mpr Iff.rfl
  · rw [hop (by decide), hop (by decide), Operator.accepts_atMost, Bool.not_eq_true',
      ← Bool.not_eq_true]
    exact xor_not_right.mpr Iff.rfl
  · rw [hop (by decide), hop (by decide)]
    rintro ⟨hless, hgreater⟩
    exact absurd ((eq_of_beq hless).symm.trans (eq_of_beq hgreater)) nofun
  · rw [hop (by decide), hop' (by decide), Operator.accepts_greater_swap]
  · rw [hop (by decide), hop' (by decide), Operator.accepts_atLeast_swap]

theorem orderedTexts (source : Source) (s t : String) : OrderedTexts source s t := by
  have ho : order (some (.string s)) (.string t) = .ok (compare s t) := rfl
  have hless : Passes source .less (some (.string s)) (.string t) ↔ compare s t = .lt := by
    rw [passes_iff_accepts (by decide) ho]
    exact beq_iff_eq
  have hgreater : Passes source .greater (some (.string s)) (.string t) ↔ compare s t = .gt := by
    rw [passes_iff_accepts (by decide) ho]
    exact beq_iff_eq
  have hequal : Passes source .equal (some (.string s)) (.string t) ↔ compare s t = .eq := by
    rw [passes_equal_iff, Std.compare_eq_iff_eq]
    rfl
  constructor
  · rw [hless]
    exact compareOfLessAndEq_eq_lt.trans String.lt_iff
  · intro less equal greater
    rcases hcompare : compare s t with _ | _ | _
    · exact .inl ⟨hless.mpr hcompare, by simp [equal, hequal, hcompare],
        by simp [greater, hgreater, hcompare]⟩
    · exact .inr (.inl ⟨by simp [less, hless, hcompare], hequal.mpr hcompare,
        by simp [greater, hgreater, hcompare]⟩)
    · exact .inr (.inr ⟨by simp [less, hless, hcompare], by simp [equal, hequal, hcompare],
        hgreater.mpr hcompare⟩)

/-- **Tests of order.**  Whatever is received and expected, all four operators of order fail and
name both kinds unless the two values have an order.  If they have, one of each pair of opposites
passes, and exchanging the values exchanges the operators; on texts the order is that of words, by
code points, and one of less, equal and greater passes.  What is less than something less is less. -/
theorem passes_ofOrder (source : Source) :
    (∀ (received : Option Value) (expected : Value),
      (∀ a, received = some a → ¬ Comparable a expected) →
        ∀ op ∈ Operator.ofOrder, Mismatches source op received expected) ∧
    (∀ a b : Value, Comparable a b → Ordered source a b) ∧
    (∀ s t : String, OrderedTexts source s t) ∧
    ∀ a b c : Value, Passes source .less (some a) b → Passes source .less (some b) c →
      Passes source .less (some a) c := by
  refine ⟨fun received expected hnot op hop => mismatches_ofOrder source hop hnot,
    fun a b => ordered_of_comparable source, orderedTexts source, fun a b c hab hbc => ?_⟩
  rw [passes_less_iff] at hab hbc ⊢
  exact order_trans hab hbc

/-- As numbers 2 is less than 10, as texts it is not, and a text has no order with a number. -/
theorem passes_ofOrder_digits :
    let two : Value := .number (.int 2)
    let ten : Value := .number (.int 10)
    (∀ a, some (Value.string "10") = some a → ¬ Comparable a two) ∧ Comparable two ten ∧
      Mismatches .body .less (some (.string "10")) two ∧ Ordered .body two ten ∧
      Passes .body .less (some (.string "10")) (.string "2") ∧
      Passes .body .less (some (.string "2")) (.string "2x") ∧
      Passes .body .less (some (.string "10")) (.string "2x") := by
  intro two ten
  obtain ⟨hmismatches, hordered, htexts, htrans⟩ := passes_ofOrder .body
  have hnot : ∀ a, some (Value.string "10") = some a → ¬ Comparable a (.number (.int 2)) := by
    intro a ha hcomparable
    cases ha
    cases hcomparable
  have hcomparable : Comparable two ten := .numbers _ _
  have hfirst : Passes .body .less (some (.string "10")) (.string "2") :=
    (htexts "10" "2").less.mpr (.rel (by decide))
  have hnext : Passes .body .less (some (.string "2")) (.string "2x") :=
    (htexts "2" "2x").less.mpr (.cons .nil)
  exact ⟨hnot, hcomparable, hmismatches _ _ hnot .less (by decide), hordered _ _ hcomparable,
    hfirst, hnext, htrans _ _ _ hfirst hnext⟩

end Assertion

end RequestSuite
