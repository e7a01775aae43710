import RequestSuite.Proofs.Template.Tokens
import RequestSuite.Template.Resolve

/-!
# Placeholders, position by position

The names in a template are those of its tokens.  They are also found without reading the template
from the start: at every dollar sign that has no backslash before it, the text after it is looked at
on its own (`nameAt?`).  Both ways find the same names in the same order (`names_eq_occurrences`),
in a text and in all texts of a value (`Value.templateNames_eq_met`).
-/

namespace RequestSuite.Template

/-- The name of the placeholder that starts at a position, if no backslash stands before it. -/
def nameAt? (s : List Char) (i : Nat) : Option String :=
  if s[i]? = some '$' ∧ (i = 0 ∨ s[i - 1]? ≠ some '\\') then
    (placeholder? (s.drop (i + 1))).map fun found => String.ofList found.1.name
  else none

/-- The names of all placeholders without a backslash before them, position by position. -/
def occurrences (s : List Char) : List String :=
  (List.range s.length).filterMap (nameAt? s)

/-- The names that occur in a text from one of its parts on. -/
def occurrencesAfter (u s : List Char) : List String :=
  (List.range s.length).filterMap fun i => nameAt? (u ++ s) (u.length + i)

theorem occurrencesAfter_cons (u : List Char) (c : Char) (s : List Char) :
    occurrencesAfter u (c :: s) =
      (nameAt? (u ++ c :: s) u.length).toList ++ occurrencesAfter (u ++ [c]) s := by
  have hrest (i : Nat) : nameAt? (u ++ c :: s) (u.length + (i + 1)) =
      nameAt? (u ++ [c] ++ s) ((u ++ [c]).length + i) := by
    rw [List.append_assoc, List.singleton_append, List.length_append, List.length_singleton,
      Nat.add_assoc, Nat.add_comm 1 i]
  rw [occurrencesAfter, List.length_cons, List.range_succ_eq_map, List.filterMap_cons,
    List.filterMap_map, occurrencesAfter]
  simp only [Function.comp_def, Nat.succ_eq_add_one, hrest, Nat.add_zero]
  cases nameAt? (u ++ c :: s) u.length <;> rfl

/-- A name is looked for at a dollar sign, unless a backslash stands before it. -/
theorem nameAt?_length (u : List Char) (c : Char) (s : List Char) :
    nameAt? (u ++ c :: s) u.length =
      if c = '$' ∧ u.getLast? ≠ some '\\' then
        (placeholder? s).map fun found => String.ofList found.1.name
      else none := by
  have hat : (u ++ c :: s)[u.length]? = some c := by simp
  have hdrop : (u ++ c :: s).drop (u.length + 1) = s := by simp
  have hbefore : (u.length = 0 ∨ (u ++ c :: s)[u.length - 1]? ≠ some '\\') ↔
      u.getLast? ≠ some '\\' := by
    rcases List.eq_nil_or_concat u with rfl | ⟨init, d, rfl⟩
    · simp
    · simp
  rw [nameAt?, hat, hdrop]
  simp only [Option.some.injEq, hbefore]

theorem placeholder?_eq_none {s : List Char} (h : ¬ StartsPlaceholder s) :
    placeholder? s = none := by
  rw [← Option.not_isSome_iff_eq_none, isSome_placeholder?_iff]
  exact h

theorem occurrencesAfter_nil (u : List Char) : occurrencesAfter u [] = [] := rfl

/-- Nothing is found among characters that are no dollar signs. -/
theorem occurrencesAfter_append {a : List Char} (h : '$' ∉ a) (u s : List Char) :
    occurrencesAfter u (a ++ s) = occurrencesAfter (u ++ a) s := by
  induction a generalizing u with
  | nil => rw [List.nil_append, List.append_nil]
  | cons c a ih =>
    obtain ⟨hc, ha⟩ := List.ne_and_not_mem_of_not_mem_cons h
    rw [List.cons_append, occurrencesAfter_cons, nameAt?_length, if_neg fun h => hc h.1.symm,
      ih ha, List.append_assoc]
    rfl

/-- Reading a text from one of its parts on finds the names that occur there, unless the part ends
in a backslash that belongs to an escape. -/
theorem namesIn_scan (s : List Char) : ∀ u : List Char,
    (u.getLast? = some '\\' → ∀ rest, s = '$' :: rest → ¬ StartsPlaceholder rest) →
      namesIn (scan s) = occurrencesAfter u s := by
  induction s using scan_induction with
  | nil => exact fun u _ => (occurrencesAfter_nil u).symm
  | escape s hstarts ih =>
    intro u _
    have hbackslash : nameAt? (u ++ '\\' :: '$' :: s) u.length = none := by
      rw [nameAt?_length, if_neg fun h => absurd h.1 (by decide)]
    have hdollar : nameAt? (u ++ ['\\'] ++ '$' :: s) (u ++ ['\\']).length = none := by
      rw [nameAt?_length, if_neg fun h => h.2 (by simp)]
    rw [occurrencesAfter_cons, occurrencesAfter_cons, hbackslash, hdollar]
    exact ih _ fun hlast => absurd hlast (by simp)
  | placeholder p rest hname hends ih =>
    intro u hu
    have hfound : placeholder? (p.chars ++ rest) = some (p, rest) :=
      placeholder?_eq_some_iff.mpr ⟨rfl, hname, hends⟩
    have hstarts : StartsPlaceholder (p.chars ++ rest) :=
      isSome_placeholder?_iff.mp (by rw [hfound]; rfl)
    have hlast : u.getLast? ≠ some '\\' := fun hlast => hu hlast _ rfl hstarts
    have hnone : '$' ∉ p.chars := Placeholder.dollar_not_mem hname
    rw [occurrencesAfter_cons, nameAt?_length, if_pos ⟨rfl, hlast⟩, hfound,
      occurrencesAfter_append hnone]
    -- A placeholder does not end in a backslash, so what follows is read afresh.
    refine congrArg (String.ofList p.name :: ·) (ih _ fun hend => ?_)
    have hmem : '\\' ∈ '$' :: p.chars := by
      have := List.mem_of_getLast? (l := '$' :: p.chars) (a := '\\')
      refine this ?_
      simpa using hend
    rcases List.mem_cons.mp hmem with h | h
    · cases h
    · exact absurd h (Placeholder.backslash_not_mem hname)
  | char c s hplain ih =>
    intro u _
    have hhere : nameAt? (u ++ c :: s) u.length = none := by
      rw [nameAt?_length]
      split
      · rename_i hdollar
        rw [placeholder?_eq_none (hplain.1 hdollar.1)]
        rfl
      · rfl
    rw [occurrencesAfter_cons, hhere, namesIn_pushChar]
    refine ih _ fun hlast rest hs => ?_
    rw [List.getLast?_concat, Option.some.injEq] at hlast
    exact hplain.2 rest hlast hs

/-- The names in a template are those found position by position. -/
theorem names_eq_occurrences (s : String) : names s = occurrences s.toList := by
  have hscan := namesIn_scan s.toList [] nofun
  rw [names, tokens, hscan, occurrencesAfter, occurrences]
  simp only [List.nil_append, List.length_nil, Nat.zero_add]

end RequestSuite.Template

/-! ## Texts in values -/

namespace RequestSuite.Value

mutual

/-- The texts in a value, in document order; keys do not count. -/
def texts : Value → List String
  | .string s => [s]
  | .array items => textsOfItems items
  | .object fields => textsOfFields fields
  | .null | .bool _ | .number _ => []

/-- The texts in a list of values. -/
def textsOfItems : List Value → List String
  | [] => []
  | v :: rest => texts v ++ textsOfItems rest

/-- The texts in the values of a list of fields. -/
def textsOfFields : List (String × Value) → List String
  | [] => []
  | (_, v) :: rest => texts v ++ textsOfFields rest

end

mutual

theorem templateNames_eq (v : Value) : v.templateNames = v.texts.flatMap Template.names := by
  cases v with
  | string s => exact (List.flatMap_singleton Template.names s).symm
  | array items => exact templateNamesOfItems_eq items
  | object fields => exact templateNamesOfFields_eq fields
  | null => rfl
  | bool b => rfl
  | number n => rfl

theorem templateNamesOfItems_eq (items : List Value) :
    templateNamesOfItems items = (textsOfItems items).flatMap Template.names := by
  cases items with
  | nil => rfl
  | cons v rest =>
    rw [templateNamesOfItems, textsOfItems, List.flatMap_append, templateNames_eq v,
      templateNamesOfItems_eq rest]

theorem templateNamesOfFields_eq (fields : List (String × Value)) :
    templateNamesOfFields fields = (textsOfFields fields).flatMap Template.names := by
  cases fields with
  | nil => rfl
  | cons field rest =>
    rw [templateNamesOfFields, textsOfFields, List.flatMap_append, templateNames_eq field.2,
      templateNamesOfFields_eq rest]

end

/-- The names of the placeholders in the texts of a value without a backslash before them, in
document order and with repetitions. -/
def met (v : Value) : List String :=
  v.texts.flatMap fun s => Template.occurrences s.toList

theorem templateNames_eq_met (v : Value) : v.templateNames = v.met := by
  rw [templateNames_eq, met]
  exact congrArg (v.texts.flatMap ·) (funext Template.names_eq_occurrences)

end RequestSuite.Value
