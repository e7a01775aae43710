import RequestSuite.Proofs.Path.Grammar

/-!
# What a path matches

A path is followed level by level, from all values of one level to those of the next.  What it
matches is said from the top down: the matches of a list of steps are those of the rest of it on
each child that the first step picks (`matched`).  Both ways give the same values in the same order
(`select_eq_matched`), and `query_matched` says what a query makes of them.
-/

namespace RequestSuite.Path

/-! ## Matches -/

/-- The children that a step picks out of a value, in document order.  The positions from -1 down
count from the last item. -/
def Step.children : Step → Value → List Value
  | .key name, v => (v.field? name).toList
  | .index (.ofNat i), .array items => items[i]?.toList
  | .index (.negSucc i), .array items => items.reverse[i]?.toList
  | .wildcard, .array items => items
  | .wildcard, .object fields => fields.map (·.2)
  | _, _ => []

/-- The values that a list of steps matches, in document order. -/
def matched : List Step → Value → List Value
  | [], v => [v]
  | step :: rest, v => (step.children v).flatMap (matched rest)

/-! ## Level by level -/

theorem item?_negSucc (items : List Value) (i : Nat) :
    item? items (.negSucc i) = items.reverse[i]? := by
  have hneg : Int.negSucc i < 0 := Int.negSucc_lt_zero i
  have hplace : fromStart items.length (.negSucc i) = (items.length : Int) - (i + 1) := by
    rw [fromStart, if_pos hneg]
    omega
  simp only [item?, hplace]
  by_cases hi : i < items.length
  · have hpos : ¬ (items.length : Int) - (i + 1) < 0 := by omega
    have hnat : ((items.length : Int) - (i + 1)).toNat = items.length - 1 - i := by omega
    rw [if_neg hpos, hnat, List.getElem?_reverse hi]
  · have hout : (items.length : Int) - (i + 1) < 0 := by omega
    have hlong : items.reverse.length ≤ i := by
      rw [List.length_reverse]
      omega
    rw [if_pos hout, List.getElem?_eq_none hlong]

/-- A step leads to the children that it picks. -/
theorem Step.follow_eq_children (step : Step) (v : Value) : step.follow v = step.children v := by
  cases step with
  | key name => cases v <;> rfl
  | wildcard => cases v <;> rfl
  | index position =>
    cases v with
    | array items =>
      cases position with
      | ofNat i => exact congrArg Option.toList (item?_natCast items i)
      | negSucc i => exact congrArg Option.toList (item?_negSucc items i)
    | null | bool _ | number _ | string _ | object _ => cases position <;> rfl

/-- What is found level by level is what is matched from the top down. -/
theorem select_eq_matched (steps : List Step) (v : Value) : select steps v = matched steps v := by
  induction steps generalizing v with
  | nil => rfl
  | cons step rest ih =>
    have hrest : select rest = matched rest := funext ih
    rw [select_cons, matched, Step.follow_eq_children, hrest]

/-- Without wildcards there is at most one match. -/
theorem matched_cases {steps : List Step} (h : .wildcard ∉ steps) (v : Value) :
    matched steps v = [] ∨ ∃ w, matched steps v = [w] := by
  rw [← select_eq_matched]
  rcases select_eq_nil_or_leads h v with hnone | ⟨w, hlead⟩
  · exact .inl hnone
  · exact .inr ⟨w, hlead.select⟩

/-! ## Queries -/

theorem find?_of_wildcard {steps : List Step} (h : .wildcard ∈ steps) (v : Value) :
    find? steps v =
      if (matched steps v).isEmpty then none else some (.array (matched steps v)) := by
  have hwildcard : steps.contains .wildcard = true := by
    rw [List.contains_eq_mem]
    exact decide_eq_true h
  rw [find?, hwildcard, select_eq_matched]
  rfl

theorem find?_eq_none_iff (steps : List Step) (v : Value) :
    find? steps v = none ↔ matched steps v = [] := by
  by_cases h : .wildcard ∈ steps
  · rw [find?_of_wildcard h]
    cases matched steps v <;> simp
  · rw [find?_eq_head? h, select_eq_matched, List.head?_eq_none_iff]

theorem find?_eq_some_iff {steps : List Step} (h : .wildcard ∉ steps) (v w : Value) :
    find? steps v = some w ↔ matched steps v = [w] := by
  rw [find?_eq_head? h, select_eq_matched]
  rcases matched_cases h v with hnone | ⟨u, hone⟩
  · simp [hnone]
  · simp [hone]

theorem query_of_parse {text : String} {steps : List Step} (h : parse text = .ok steps)
    (v : Value) : query v text = .ok (find? steps v) := by
  rw [query, h]
  rfl

/-- Only a text that is no path is an error, whatever the value. -/
theorem query_eq_error_iff {text : String} {e : PathError} (v : Value) :
    query v text = .error e ↔ parse text = .error e := by
  rw [query]
  rcases parse text with e' | steps
  · simp [Except.map]
  · simp [Except.map]

/-- The sum of the length of a list and a position of 64 bits has 64 bits. -/
theorem fitsInt64_fromStart {length : Nat} {position : Int} (hlength : Text.FitsInt64 length)
    (hposition : Text.FitsInt64 position) : Text.FitsInt64 (fromStart length position) := by
  obtain ⟨-, hhigh⟩ := hlength
  obtain ⟨hlow', hhigh'⟩ := hposition
  unfold fromStart
  split
  · exact ⟨by omega, by omega⟩
  · exact ⟨hlow', hhigh'⟩

/-- **What a query finds.**  A query with an accepted path finds nothing if and only if nothing is
matched.  A path with a wildcard finds the list of all matches in document order.  A path without
one has at most one match and finds that one.  Positions have 64 bits, and so has the place from
the start for which a position stands in a list. -/
theorem query_matched {text : String} {steps : List Step} (h : parse text = .ok steps)
    (v : Value) :
    (query v text = .ok none ↔ matched steps v = []) ∧
    (.wildcard ∈ steps → matched steps v ≠ [] →
      query v text = .ok (some (.array (matched steps v)))) ∧
    (.wildcard ∉ steps → (matched steps v).length ≤ 1 ∧
      ∀ w, query v text = .ok (some w) ↔ matched steps v = [w]) ∧
    (∀ i, .index i ∈ steps → Text.FitsInt64 i) ∧
    ∀ (length : Nat) (i : Int), Text.FitsInt64 length → Text.FitsInt64 i →
      Text.FitsInt64 (fromStart length i) := by
  have hquery := query_of_parse h v
  refine ⟨?_, fun hwildcard hsome => ?_, fun hplain => ⟨?_, fun w => ?_⟩,
    fun i hi => fitsInt64_of_parse h hi, fun length i => fitsInt64_fromStart⟩
  · rw [hquery, Except.ok.injEq, find?_eq_none_iff]
  · rw [hquery, find?_of_wildcard hwildcard, if_neg (by simpa using hsome)]
  · rcases matched_cases hplain v with hnone | ⟨w, hone⟩
    · simp [hnone]
    · simp [hone]
  · rw [hquery, Except.ok.injEq, find?_eq_some_iff hplain]

/-- Two wildcards and a position from the end, over maps and lists in turn. -/
theorem query_matched_last :
    let v : Value := .object [
      ("a", .array [.null, .object [("x", .string "1"), ("y", .string "2")]]),
      ("b", .object [("x", .string "3")]),
      ("c", .array [.array [.string "4"]])]
    parse "$.*[-1].*" = .ok [.wildcard, .index (-1), .wildcard] ∧
      query v "$.*[-1].*" = .ok (some (.array [.string "1", .string "2", .string "4"])) := by
  intro v
  have h : parse "$.*[-1].*" = .ok [.wildcard, .index (-1), .wildcard] := by decide +kernel
  obtain ⟨-, hall, -⟩ := query_matched h v
  exact ⟨h, hall (by decide) (by decide)⟩

end RequestSuite.Path
