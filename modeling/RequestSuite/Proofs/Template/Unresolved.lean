import RequestSuite.Proofs.Template.Alone
import RequestSuite.Proofs.Template.Occurrence

/-!
# Templates that stay as they are

A placeholder without a value stays as it is, and so does all text but the backslashes of escapes.
A value without escapes in which no placeholder has a value is therefore filled in with itself, and
with the same names whenever it is filled in again (`Value.filled_unresolved`).
-/

namespace RequestSuite

variable {lookup : Lookup}

/-! ## Templates -/

namespace Template

/-- Whether a backslash stands directly before a placeholder somewhere in a text. -/
def HasEscape (s : List Char) : Prop :=
  ∃ u rest, s = u ++ '\\' :: '$' :: rest ∧ StartsPlaceholder rest

theorem escape_mem_scan_iff {s : List Char} : .escape ∈ scan s ↔ HasEscape s := by
  constructor
  · intro hmem
    obtain ⟨before, after, hsplit⟩ := List.append_of_mem hmem
    have hs : s = source before ++ '\\' :: '$' :: source after := by
      conv_lhs => rw [← source_scan s, hsplit, source_append, source_cons]
      rfl
    obtain ⟨rest, hrest, hstarts⟩ := (escaped_scan s _ _ hs).mp ⟨before, after, hsplit, rfl⟩
    cases hrest
    exact ⟨source before, source after, hs, hstarts⟩
  · rintro ⟨u, rest, hs, hstarts⟩
    obtain ⟨before, after, hsplit, -⟩ := (escaped_scan s u _ hs).mpr ⟨rest, rfl, hstarts⟩
    rw [hsplit]
    exact List.mem_append_right _ List.mem_cons_self

theorem Token.fill_eq_source {t : Token} (hescape : t ≠ .escape)
    (hnone : ∀ name ∈ namesIn [t], lookup name = none) : t.fill lookup = t.source := by
  rcases t with cs | _ | ⟨name, delimited⟩
  · rfl
  · exact absurd rfl hescape
  · rw [fill, hnone name List.mem_cons_self, source]

theorem resolveText_unresolved {s : String} (hescape : ¬ HasEscape s.toList)
    (hnone : ∀ name ∈ names s, lookup name = none) : resolveText lookup s = s := by
  have hfill : (tokens s).flatMap (Token.fill lookup) = source (tokens s) := by
    refine List.flatMap_congr fun t ht => Token.fill_eq_source ?_ fun name hname => hnone name ?_
    · rintro rfl
      exact hescape (escape_mem_scan_iff.mp ht)
    · rw [names, namesIn_eq_flatMap]
      exact List.mem_flatMap.mpr ⟨t, ht, hname⟩
  rw [resolveText, hfill, tokens, source_scan, String.ofList_toList]

theorem resolve_unresolved {s : String} (hescape : ¬ HasEscape s.toList)
    (hnone : ∀ name ∈ names s, lookup name = none) : resolve lookup s = .string s := by
  rw [resolve_of_not_isAlone fun name hs => hnone name hs.mem_names,
    resolveText_unresolved hescape hnone]

end Template

/-! ## Values -/

namespace Value

mutual

/-- A value all of whose texts stay as they are stays as it is. -/
theorem resolve_eq_self (v : Value)
    (h : ∀ s ∈ v.texts, Template.resolve lookup s = .string s) : v.resolve lookup = v := by
  cases v with
  | string s => exact h s List.mem_cons_self
  | array items => exact congrArg array (resolveItems_eq_self items h)
  | object fields => exact congrArg object (resolveFields_eq_self fields h)
  | null => rfl
  | bool b => rfl
  | number n => rfl

theorem resolveItems_eq_self (items : List Value)
    (h : ∀ s ∈ textsOfItems items, Template.resolve lookup s = .string s) :
    resolveItems lookup items = items := by
  cases items with
  | nil => rfl
  | cons v rest =>
    obtain ⟨hv, hrest⟩ := List.forall_mem_append.mp h
    rw [resolveItems, resolve_eq_self v hv, resolveItems_eq_self rest hrest]

theorem resolveFields_eq_self (fields : List (String × Value))
    (h : ∀ s ∈ textsOfFields fields, Template.resolve lookup s = .string s) :
    resolveFields lookup fields = fields := by
  cases fields with
  | nil => rfl
  | cons field rest =>
    obtain ⟨hv, hrest⟩ := List.forall_mem_append.mp h
    rw [resolveFields, resolve_eq_self field.2 hv, resolveFields_eq_self rest hrest]

end

theorem resolve_unresolved {v : Value} (hescape : ∀ s ∈ v.texts, ¬ Template.HasEscape s.toList)
    (hnone : ∀ name ∈ v.met, lookup name = none) : v.resolve lookup = v := by
  refine resolve_eq_self v fun s hs => Template.resolve_unresolved (hescape s hs) fun name hname => ?_
  rw [Template.names_eq_occurrences] at hname
  exact hnone name (List.mem_flatMap.mpr ⟨s, hs, hname⟩)

theorem undefinedNames_unresolved {v : Value} (hnone : ∀ name ∈ v.met, lookup name = none) :
    v.undefinedNames lookup = distinct v.met := by
  rw [undefinedNames, templateNames_eq_met, List.filter_eq_self.mpr]
  exact fun name hname => Option.isNone_iff_eq_none.mpr (hnone name hname)

theorem filled_of_unresolved {store : Store} {v : Value}
    (hescape : ∀ s ∈ v.texts, ¬ Template.HasEscape s.toList)
    (hnone : ∀ name ∈ v.met, store.get? name = none) : v.filled store = (v, distinct v.met) := by
  rw [filled, resolve_unresolved hescape hnone, undefinedNames_unresolved hnone]

/-- **Unresolved values.**  A value without escapes whose placeholders have no values is filled in
with itself, and its names are noted in the order in which they are first met, the first time and
every other time.  If it has no placeholders, this holds for every store and no name is noted. -/
theorem filled_unresolved (v : Value) (hescape : ∀ s ∈ v.texts, ¬ Template.HasEscape s.toList) :
    (∀ store : Store, (∀ name ∈ v.met, store.get? name = none) →
      (v.fill store.get?).run [] = v.filled store ∧
        v.filled store = (v, distinct v.met) ∧
        (v.filled store).1.filled store = v.filled store) ∧
      (v.met = [] → ∀ store : Store, v.filled store = (v, [])) := by
  refine ⟨fun store hnone => ?_, fun hmet store => ?_⟩
  · have hfilled := filled_of_unresolved hescape hnone
    exact ⟨v.run_fill store, hfilled, by rw [hfilled]; exact hfilled⟩
  · have hfilled : v.filled store = (v, distinct v.met) :=
      filled_of_unresolved hescape (by rw [hmet]; exact nofun)
    rw [hfilled, hmet]
    rfl

/-- Two names, one of them met twice, and a pattern whose backslashes are no escapes. -/
theorem filled_unresolved_missing :
    let v : Value := .object [("$key", .array [.string "$missing and $(other)", .bool true]),
      ("price", .string "^\\$\\d+ $missing$")]
    let store := Store.empty.insert "key" .null
    (∀ s ∈ v.texts, ¬ Template.HasEscape s.toList) ∧
      (∀ name ∈ v.met, store.get? name = none) ∧
      v.filled store = (v, ["missing", "other"]) ∧
      (v.filled store).1.filled store = v.filled store := by
  intro v store
  have hescape : ∀ s ∈ v.texts, ¬ Template.HasEscape s.toList := by
    simp only [← Template.escape_mem_scan_iff]
    decide +kernel
  have hmet : v.met = ["missing", "other", "missing"] := by decide
  have hnone : ∀ name ∈ v.met, store.get? name = none := by
    rw [hmet]
    decide
  obtain ⟨-, hfilled, hagain⟩ := (filled_unresolved v hescape).1 store hnone
  refine ⟨hescape, hnone, ?_, hagain⟩
  rw [hfilled, hmet]
  rfl

end Value

end RequestSuite
