import RequestSuite.Proofs.Path.Selection

/-!
# Paths behind paths

What follows the dollar sign of one path may be written behind another path that has no wildcard.
The longer path is read as the steps of both (`parse_append`), and a query with it first asks for
what the first path finds and goes on from there with the second (`query_append`).
-/

namespace RequestSuite.Path

/-! ## Reading -/

theorem parse_dollar_eq_ok_iff {s : String} {steps : List Step} :
    parse ("$" ++ s) = .ok steps ↔ ∃ segs : List Segment,
      Text.trimEndChars s.toList = source segs ∧ segs.map Segment.step = steps := by
  have hchars : ("$" ++ s).toList = '$' :: s.toList := by simp
  rw [parse_eq_ok_iff, hchars, trimChars_dollar]
  simp only [List.cons.injEq, true_and]

section

variable {a b : String} {before after : List Step}

/-- A path behind a path that does not end with a blank is read as the steps of both. -/
theorem parse_append (ha : parse ("$" ++ a) = .ok before) (hend : EndsPlainly a.toList)
    (hb : parse ("$" ++ b) = .ok after) : parse ("$" ++ a ++ b) = .ok (before ++ after) := by
  obtain ⟨segs, hsource, rfl⟩ := parse_dollar_eq_ok_iff.mp ha
  obtain ⟨segs', hsource', rfl⟩ := parse_dollar_eq_ok_iff.mp hb
  -- Nothing is cut off at the end of the first path, alone or with the second one behind it.
  rw [Text.trimEndChars_eq_self hend] at hsource
  rw [String.append_assoc]
  refine parse_dollar_eq_ok_iff.mpr ⟨segs ++ segs', ?_, List.map_append⟩
  rw [String.toList_append, Text.trimEndChars_append hend, hsource', source_append, hsource]

end

/-! ## Following -/

section

variable {before : List Step} {v w : Value}

theorem find?_append_of_none (h : .wildcard ∉ before) (hnone : find? before v = none)
    (after : List Step) : find? (before ++ after) v = none := by
  rw [find?_eq_head? h, List.head?_eq_none_iff] at hnone
  rw [find?_eq_none_iff, ← select_eq_matched, select_append, hnone, List.flatMap_nil]

/-- What steps find behind others is what they find in the value that the others find. -/
theorem find?_append_of_some (h : .wildcard ∉ before) (hsome : find? before v = some w)
    (after : List Step) : find? (before ++ after) v = find? after w := by
  have hselect : select (before ++ after) v = select after w := by
    have hone := (find?_eq_some_iff h v w).mp hsome
    rw [select_append, select_eq_matched, hone, List.flatMap_singleton]
  have hwildcard : (before ++ after).contains .wildcard = after.contains .wildcard := by
    rw [List.contains_eq_mem, List.contains_eq_mem]
    simp [h]
  rw [find?, hselect, hwildcard, find?]

end

/-- **Paths compose.**  Take an accepted path without wildcard that does not end with a blank, and
write what follows the dollar sign of another accepted path behind it.  The whole is accepted.  It
finds nothing where the first path finds nothing, and otherwise what the second path finds in the
value that the first one finds. -/
theorem query_append {a b : String} {before after : List Step}
    (ha : parse ("$" ++ a) = .ok before) (hplain : .wildcard ∉ before)
    (hend : ∀ c ∈ a.toList.getLast?, Text.isBlank c = false)
    (hb : parse ("$" ++ b) = .ok after) :
    parse ("$" ++ a ++ b) = .ok (before ++ after) ∧ ∀ v,
      (query v ("$" ++ a) = .ok none → query v ("$" ++ a ++ b) = .ok none) ∧
      ∀ w, query v ("$" ++ a) = .ok (some w) →
        query v ("$" ++ a ++ b) = query w ("$" ++ b) := by
  have hab := parse_append ha hend hb
  refine ⟨hab, fun v => ?_⟩
  rw [query_of_parse ha, query_of_parse hab]
  refine ⟨fun hnone => ?_, fun w hsome => ?_⟩
  · rw [find?_append_of_none hplain (Except.ok.inj hnone)]
  · rw [query_of_parse hb, find?_append_of_some hplain (Except.ok.inj hsome)]

/-- A path with a wildcard behind one with a quoted key and a position from the end. -/
theorem query_append_wildcard :
    let w : Value := .object [("x", .string "1"), ("y", .null)]
    let v : Value := .object [("a.b", .array [.null, w])]
    query v "$['a.b'][-1]" = .ok (some w) ∧
      query v "$['a.b'][-1].* " = query w "$.* " := by
  intro w v
  have ha : parse ("$" ++ "['a.b'][-1]") = .ok [.key "a.b", .index (-1)] := by decide +kernel
  have hb : parse ("$" ++ ".* ") = .ok [.wildcard] := by decide +kernel
  have hw : query v ("$" ++ "['a.b'][-1]") = .ok (some w) := by
    rw [query_of_parse ha]
    rfl
  have hend : EndsPlainly "['a.b'][-1]".toList :=
    endsPlainly_concat "['a.b'][-1".toList (by decide)
  obtain ⟨-, hfound⟩ := query_append ha (by decide) hend hb
  exact ⟨hw, (hfound v).2 w hw⟩

end RequestSuite.Path
