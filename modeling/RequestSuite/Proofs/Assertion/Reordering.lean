import RequestSuite.Proofs.Assertion.Tally

/-!
# The order of operators

A map of operators is evaluated key by key.  A pattern looks its flags up in the whole map and
counts where the first of its two keys stands, so the evaluation carries along whether it has been
counted.  The assertions do not show this: up to their order they are the assertion of the pattern,
if one of its keys is there, and one for each other key (`Assertion.ofKeys_perm`).  So a map with its
keys in another order gives the same assertions (`Assertion.evaluate_perm`).
-/

namespace RequestSuite

namespace Assertion

open scoped List

variable (source : Source) (operators : Table Value) (received : Option Value)

/-! ## The assertions without their order -/

/-- The assertion of a pattern, if one of its two keys is among the fields. -/
def patternPart (fields : List (String × Value)) : List Assertion :=
  if fields.any fun f => Operator.isPatternKey f.1 then [ofPattern source operators received]
  else []

/-- The assertions of the fields that belong to no pattern. -/
def otherPart (fields : List (String × Value)) : List Assertion :=
  (fields.filter fun f => !Operator.isPatternKey f.1).map (ofField source operators received)

/-- Wherever the first key of a pattern stands, its assertion can be taken to the front. -/
theorem ofKeys_perm (fields : List (String × Value)) :
    ofKeys source operators received false fields ~
      patternPart source operators received fields ++
        otherPart source operators received fields := by
  unfold patternPart otherPart
  induction fields with
  | nil => exact .nil
  | cons field rest ih =>
    by_cases hkey : Operator.isPatternKey field.1 = true
    · rw [ofKeys_cons_pattern source operators received false hkey, ofKeys_done,
        ofField_of_isPatternKey source operators received hkey, List.any_cons, hkey,
        List.filter_cons_of_neg (by simp [hkey])]
      exact .refl _
    · rw [ofKeys_cons_other source operators received false (by simpa using hkey), List.any_cons,
        Bool.eq_false_iff.mpr hkey, Bool.false_or, List.filter_cons_of_pos (by simp [hkey]),
        List.map_cons]
      exact (ih.cons _).trans List.perm_middle.symm

/-- Only the assertion of a pattern is shown as one. -/
theorem filter_otherPart (fields : List (String × Value)) :
    (otherPart source operators received fields).filter (·.operator = Operator.pattern.key) =
      [] := by
  rw [List.filter_eq_nil_iff]
  intro a ha
  obtain ⟨field, hfield, rfl⟩ := List.mem_map.mp ha
  have hother : Operator.isPatternKey field.1 = false := by
    simpa using (List.mem_filter.mp hfield).2
  rw [((scores_ofField source operators received field).other hother).1, decide_eq_true_eq]
  intro hpattern
  simp [Operator.isPatternKey, hpattern] at hother

theorem filter_ofPattern :
    [ofPattern source operators received].filter (·.operator = Operator.pattern.key) =
      [ofPattern source operators received] := by
  simp [ofPattern]

theorem filter_ofKeys (fields : List (String × Value)) :
    (ofKeys source operators received false fields).filter (·.operator = Operator.pattern.key) =
      patternPart source operators received fields := by
  have hperm := (ofKeys_perm source operators received fields).filter
    (·.operator = Operator.pattern.key)
  rw [List.filter_append, filter_otherPart, List.append_nil] at hperm
  -- A list of at most one assertion has no other order.
  by_cases hany : (fields.any fun f => Operator.isPatternKey f.1) = true
  · rw [patternPart, if_pos hany] at hperm ⊢
    rw [filter_ofPattern] at hperm
    exact List.perm_singleton.mp hperm
  · rw [patternPart, if_neg hany] at hperm ⊢
    exact List.perm_nil.mp hperm

/-! ## Another order -/

theorem patternPart_perm {fields fields' : List (String × Value)} (h : fields ~ fields') :
    patternPart source operators received fields =
      patternPart source operators received fields' := by
  rw [patternPart, patternPart, h.any_eq]

theorem otherPart_perm {fields fields' : List (String × Value)} (h : fields ~ fields') :
    otherPart source operators received fields ~ otherPart source operators received fields' :=
  (h.filter _).map _

variable {operators} {operators' : Table Value}

/-- Of the whole map, only what is found under the keys of a pattern counts. -/
theorem ofPattern_congr (hget : ∀ key, operators.get? key = operators'.get? key) :
    ofPattern source operators received = ofPattern source operators' received := by
  simp only [ofPattern, matchesPattern, hget]

theorem ofField_congr (hget : ∀ key, operators.get? key = operators'.get? key) :
    ofField source operators received = ofField source operators' received := by
  funext field
  simp only [ofField, ofPattern_congr source received hget]

theorem ofKeys_congr (hget : ∀ key, operators.get? key = operators'.get? key)
    (fields : List (String × Value)) :
    ofKeys source operators received false fields =
      ofKeys source operators' received false fields := by
  rw [ofKeys_eq_map, ofKeys_eq_map, ofField_congr source received hget]

theorem evaluate_object (hne : operators ≠ []) :
    evaluate source (.object operators) (.ok received) =
      ofKeys source operators received false operators := by
  cases operators with
  | nil => exact absurd rfl hne
  | cons field rest => rfl

/-- **The order of operators.**  A map of operators with its keys in another order gives the same
assertions, equal in all that is shown of them, in another order.  If one of the two keys of a
pattern is there, just one assertion is that of the pattern, and it is the same one wherever the
pattern, its flags and the other operators stand. -/
theorem evaluate_perm (hne : operators ≠ []) (hdistinct : operators.names.Nodup)
    (hperm : operators ~ operators') :
    evaluate source (.object operators) (.ok received) ~
      evaluate source (.object operators') (.ok received) ∧
    ((∃ field ∈ operators, Operator.isPatternKey field.1 = true) → ∃ a : Assertion,
      (evaluate source (.object operators) (.ok received)).filter
        (·.operator = Operator.pattern.key) = [a] ∧
      (evaluate source (.object operators') (.ok received)).filter
        (·.operator = Operator.pattern.key) = [a]) := by
  have hne' : operators' ≠ [] := by
    rintro rfl
    exact hne hperm.eq_nil
  -- Both maps are read with the look-ups of the first one, which are those of the second.
  have hget : ∀ key, operators'.get? key = operators.get? key :=
    fun key => (Table.get?_perm hdistinct hperm key).symm
  rw [evaluate_object source received hne, evaluate_object source received hne',
    ofKeys_congr source received hget]
  constructor
  · calc ofKeys source operators received false operators
        ~ patternPart source operators received operators ++
          otherPart source operators received operators := ofKeys_perm source operators received _
      _ = patternPart source operators received operators' ++
          otherPart source operators received operators := by
        rw [patternPart_perm source operators received hperm]
      _ ~ patternPart source operators received operators' ++
          otherPart source operators received operators' :=
        (otherPart_perm source operators received hperm).append_left _
      _ ~ ofKeys source operators received false operators' :=
        (ofKeys_perm source operators received _).symm
  · rintro ⟨field, hfield, hkey⟩
    refine ⟨ofPattern source operators received, ?_⟩
    rw [filter_ofKeys, filter_ofKeys, ← patternPart_perm source operators received hperm,
      patternPart, if_pos (List.any_eq_true.mpr ⟨field, hfield, hkey⟩)]
    exact ⟨rfl, rfl⟩

/-- The flags may stand before the pattern or after it, and next to it or not. -/
theorem evaluate_perm_flags :
    let flags : String × Value := ("$options", .string "i")
    let unknown : String × Value := ("$contains", .null)
    let pattern : String × Value := ("$regex", .string "^A")
    let equal : String × Value := ("$eq", .string "ab")
    let before : Table Value := [flags, unknown, pattern, equal]
    let after : Table Value := [pattern, equal, flags, unknown]
    let results := evaluate .body (.object before) (.ok (some (.string "ab")))
    let results' := evaluate .body (.object after) (.ok (some (.string "ab")))
    before ≠ [] ∧ before.names.Nodup ∧ before ~ after ∧ pattern ∈ before ∧
      results ~ results' ∧ ∃ a : Assertion,
        results.filter (·.operator = Operator.pattern.key) = [a] ∧
        results'.filter (·.operator = Operator.pattern.key) = [a] := by
  intro flags unknown pattern equal before after results results'
  have hne : before ≠ [] := nofun
  have hdistinct : before.names.Nodup := by decide
  have hperm : [flags, unknown] ++ [pattern, equal] ~ [pattern, equal] ++ [flags, unknown] :=
    List.perm_append_comm
  have hmem : pattern ∈ before := .tail _ (.tail _ (.head _))
  obtain ⟨hresults, honly⟩ :=
    evaluate_perm .body (some (.string "ab")) hne hdistinct hperm
  exact ⟨hne, hdistinct, hperm, hmem, hresults, honly ⟨pattern, hmem, rfl⟩⟩

end Assertion

end RequestSuite
