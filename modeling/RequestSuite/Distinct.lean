/-!
# First occurrences

A list with only the first of equal elements kept, in the same order.
-/

namespace RequestSuite

/-- A list with only the first of equal elements kept. -/
def distinct {α : Type} [DecidableEq α] : List α → List α
  | [] => []
  | a :: rest => a :: (distinct rest).filter (· ≠ a)

variable {α : Type} [DecidableEq α]

@[simp] theorem mem_distinct {a : α} {l : List α} : a ∈ distinct l ↔ a ∈ l := by
  induction l with
  | nil => simp [distinct]
  | cons b rest ih =>
    by_cases h : a = b <;> simp [distinct, h, ih]

theorem nodup_distinct (l : List α) : (distinct l).Nodup := by
  induction l with
  | nil => simp [distinct]
  | cons b rest ih =>
    simp only [distinct, List.nodup_cons]
    exact ⟨by simp, ih.filter _⟩

theorem distinct_eq_singleton {l : List α} {a : α} (hne : l ≠ []) (h : ∀ b ∈ l, b = a) :
    distinct l = [a] := by
  cases l with
  | nil => exact absurd rfl hne
  | cons b rest =>
    obtain ⟨rfl, hrest⟩ := List.forall_mem_cons.mp h
    rw [distinct, List.filter_eq_nil_iff.mpr]
    intro c hc
    simpa using hrest c (mem_distinct.mp hc)

theorem distinct_append (l l' : List α) :
    distinct (l ++ l') = distinct l ++ (distinct l').filter (· ∉ l) := by
  induction l with
  | nil => exact (List.filter_eq_self.mpr fun _ _ => by simp).symm
  | cons a rest ih =>
    simp only [List.cons_append, distinct, ih, List.filter_append, List.filter_filter,
      List.mem_cons, not_or, Bool.decide_and]

theorem distinct_eq_self {l : List α} (h : l.Nodup) : distinct l = l := by
  induction l with
  | nil => rfl
  | cons a rest ih =>
    obtain ⟨ha, hrest⟩ := List.nodup_cons.mp h
    rw [distinct, ih hrest, List.filter_eq_self.mpr]
    intro b hb
    have hne : b ≠ a := fun heq => ha (heq ▸ hb)
    simpa using hne

theorem distinct_append_distinct (l l' : List α) :
    distinct (l ++ distinct (l ++ l')) = distinct (l ++ l') := by
  have hold : (distinct l).filter (· ∉ l) = [] :=
    List.filter_eq_nil_iff.mpr fun a ha => by simpa using mem_distinct.mp ha
  rw [distinct_append l (distinct (l ++ l')), distinct_eq_self (nodup_distinct (l ++ l')),
    distinct_append, List.filter_append, hold, List.filter_filter, List.nil_append]
  simp only [Bool.and_self]

theorem distinct_distinct_append (l l' : List α) :
    distinct (distinct l ++ l') = distinct (l ++ l') := by
  rw [distinct_append, distinct_append, distinct_eq_self (nodup_distinct l)]
  simp only [mem_distinct]

theorem distinct_append_distinct_right (l l' : List α) :
    distinct (l ++ distinct l') = distinct (l ++ l') := by
  rw [distinct_append, distinct_append, distinct_eq_self (nodup_distinct l')]

/-- An element at the end of a list is kept if it is new. -/
theorem distinct_concat (l : List α) (a : α) :
    distinct (l ++ [a]) = if a ∈ l then distinct l else distinct l ++ [a] := by
  rw [distinct_append]
  by_cases h : a ∈ l <;> simp [distinct, h]

end RequestSuite
