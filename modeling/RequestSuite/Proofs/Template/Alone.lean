import RequestSuite.Proofs.Template.Noting

/-!
# Placeholders that stand alone

A template may be filled in as a value or as a text.  The two differ only for a template that is
the placeholder of a defined variable and nothing else: as a value it becomes the variable's value
with its kind, and as a text it becomes the text of this value.  `fill_fillText` says so, and that
both ways note the same names.
-/

namespace RequestSuite.Template

/-- Whether a template is the placeholder of a name and nothing else. -/
def IsAlone (name s : String) : Prop :=
  IsName name.toList ∧ (s = "$" ++ name ∨ s = "$(" ++ name ++ ")")

theorem isAlone_iff_placeholderChars {name s : String} : IsAlone name s ↔
    IsName name.toList ∧ ∃ delimited, s.toList = placeholderChars name delimited := by
  refine and_congr_right fun _ => ?_
  simp only [Bool.exists_bool, ← String.toList_inj, String.toList_append]
  rfl

theorem scan_placeholderChars {name : String} (h : IsName name.toList) (delimited : Bool) :
    scan (placeholderChars name delimited) = [.variable name delimited] := by
  have hfound : placeholder? ((⟨name.toList, delimited⟩ : Placeholder).chars ++ []) =
      some (⟨name.toList, delimited⟩, []) :=
    placeholder?_eq_some_iff.mpr ⟨rfl, h, fun _ _ hc => by cases hc⟩
  have hchars := placeholderChars_eq ⟨name.toList, delimited⟩
  rw [String.ofList_toList, ← List.append_nil (Placeholder.chars _)] at hchars
  rw [hchars, scan_variable hfound, scan_nil, String.ofList_toList]

/-- The templates that are read as one placeholder are those that are written as one. -/
theorem exists_tokens_eq_iff {name s : String} :
    (∃ delimited, tokens s = [.variable name delimited]) ↔ IsAlone name s := by
  rw [isAlone_iff_placeholderChars]
  constructor
  · rintro ⟨delimited, htokens⟩
    refine ⟨?_, delimited, toList_of_tokens htokens⟩
    refine isName_scan s.toList name delimited ?_
    rw [← tokens, htokens]
    exact List.mem_cons_self
  · rintro ⟨hname, delimited, hs⟩
    exact ⟨delimited, by rw [tokens, hs, scan_placeholderChars hname]⟩

theorem IsAlone.mem_names {name s : String} (h : IsAlone name s) : name ∈ names s := by
  obtain ⟨delimited, htokens⟩ := exists_tokens_eq_iff.mpr h
  rw [names, htokens]
  exact List.mem_cons_self

variable {lookup : Lookup} {name s : String} {v : Value}

theorem resolve_of_isAlone (hs : IsAlone name s) (hv : lookup name = some v) :
    resolve lookup s = v := by
  obtain ⟨delimited, htokens⟩ := exists_tokens_eq_iff.mpr hs
  rw [resolve, htokens]
  simp only [hv]

theorem resolveText_of_isAlone (hs : IsAlone name s) (hv : lookup name = some v) :
    resolveText lookup s = v.text := by
  obtain ⟨delimited, htokens⟩ := exists_tokens_eq_iff.mpr hs
  rw [resolveText, htokens, List.flatMap_singleton, Token.fill, hv, String.ofList_toList]

/-- A placeholder without a value stays as it is, in the value as in the text. -/
theorem resolve_of_not_isAlone (h : ∀ name, IsAlone name s → lookup name = none) :
    resolve lookup s = .string (resolveText lookup s) := by
  by_cases htokens : ∃ name delimited, tokens s = [.variable name delimited]
  · obtain ⟨name, delimited, htokens⟩ := htokens
    have hnone : lookup name = none := h name (exists_tokens_eq_iff.mp ⟨delimited, htokens⟩)
    -- Here the shorter way puts back the whole template, which is the text of the placeholder.
    rw [resolve, resolveText, htokens, List.flatMap_singleton, Token.fill]
    simp only [hnone, ← toList_of_tokens htokens, String.ofList_toList]
  · exact resolve_eq_string fun name delimited h => htokens ⟨name, delimited, h⟩

/-- Either a template is the placeholder of a defined variable alone, or it is none. -/
theorem isAlone_cases (lookup : Lookup) (s : String) :
    (∃ name v, IsAlone name s ∧ lookup name = some v) ∨
      ∀ name, IsAlone name s → lookup name = none := by
  by_cases h : ∃ name v, IsAlone name s ∧ lookup name = some v
  · exact .inl h
  · exact .inr fun name hs =>
      Option.eq_none_iff_forall_ne_some.mpr fun v hv => h ⟨name, v, hs, hv⟩

theorem text_resolve (lookup : Lookup) (s : String) :
    (resolve lookup s).text = resolveText lookup s := by
  rcases isAlone_cases lookup s with ⟨name, v, hs, hv⟩ | hs
  · rw [resolve_of_isAlone hs hv, resolveText_of_isAlone hs hv]
  · rw [resolve_of_not_isAlone hs, Value.text]

/-- **Filling in as a value and as a text.**  Both note the same names in the same order, and the
text of the value is the text.  The value is that of a variable, whatever kind it has, if the
template is the placeholder of this variable and nothing else, and it is a text in every other
case. -/
theorem fill_fillText (store : Store) (s : String) (noted : List String) :
    (fill store.get? s).run noted =
        (resolve store.get? s, Noting.noteAll noted (undefinedNames store.get? s)) ∧
      (fillText store.get? s).run noted =
        (resolveText store.get? s, Noting.noteAll noted (undefinedNames store.get? s)) ∧
      (resolve store.get? s).text = resolveText store.get? s ∧
      (∀ name v, IsAlone name s → store.get? name = some v → resolve store.get? s = v) ∧
      ((∀ name, IsAlone name s → store.get? name = none) →
        resolve store.get? s = .string (resolveText store.get? s)) :=
  ⟨notes_fill store.get? s noted, notes_fillText store.get? s noted, text_resolve store.get? s,
    fun _ _ => resolve_of_isAlone, resolve_of_not_isAlone⟩

/-- A list keeps its kind only where its placeholder stands alone. -/
example :
    let store := Store.empty.insert "ids" (.array [.bool true, .null])
    resolve store.get? "$(ids)" = .array [.bool true, .null] ∧
      resolveText store.get? "$(ids)" = "[true,null]" ∧
      resolve store.get? "$ids " = .string "[true,null] " ∧
      resolve store.get? "\\$ids" = .string "$ids" ∧ resolve store.get? "$id" = .string "$id" := by
  cbv

end RequestSuite.Template
