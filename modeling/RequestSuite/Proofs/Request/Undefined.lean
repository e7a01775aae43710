import RequestSuite.Proofs.Template.Mention
import RequestSuite.Proofs.Template.Noting
import RequestSuite.Proofs.Template.Occurrence

/-!
# Names without values in a request

The placeholders of a request stand in its method, its addresses, the values of its headers and
parameters, its body and the values that its tests expect.  `Request.undefinedNames_met` says that
filling in a request reports just the names among them that have no value, each once, in the order
in which they are first met, and that filling in leaves everything but these texts as it is.
-/

namespace RequestSuite

open Noting

/-! ## All texts of a request -/

/-- The texts in which a request may have placeholders, in the order in which they are filled in. -/
def Request.texts (r : Request) : List String :=
  [r.method] ++ r.baseUrl.toList ++ [r.url] ++ r.headers.flatMap (fun h => h.2.texts) ++
    r.params.flatMap (fun p => p.value.texts) ++ r.body.toList.flatMap Value.texts ++
    r.tests.status.toList.flatMap Value.texts ++ r.tests.body.toList.flatMap Value.texts ++
    r.tests.headers.flatMap (fun h => h.2.texts) ++ r.tests.json.flatMap (fun p => p.2.texts)

/-- The names of the placeholders of a request without a backslash before them, in the order in
which they are met. -/
def Request.met (r : Request) : List String :=
  r.texts.flatMap fun s => Template.occurrences s.toList

theorem Request.names_eq_met (r : Request) : r.names = r.met := by
  have htexts : r.texts = r.templates.flatMap Value.texts := by
    simp [texts, templates, TestSection.templates, Value.texts, List.flatMap_append,
      List.flatMap_map, Option.toList_map]
  rw [names, met, htexts, List.flatMap_assoc]
  exact congrArg (r.templates.flatMap ·) (funext Value.templateNames_eq_met)

/-! ## One pass over a request -/

/-- The values of entries filled in, noting names without a value. -/
def fillEntries (lookup : Lookup) (entries : List (String × Value)) :
    Noting (List (String × Value)) :=
  entries.mapM fun e => (e.1, ·) <$> e.2.fill lookup

/-- A request with all templates filled in, one after the other, noting names without a value. -/
def Request.fill (lookup : Lookup) (r : Request) : Noting Request := do
  let method ← Template.fillText lookup r.method
  let baseUrl ← r.baseUrl.mapM (Template.fillText lookup)
  let url ← Template.fillText lookup r.url
  let headers ← fillEntries lookup r.headers
  let params ← r.params.mapM fun p =>
    (fun value => { p with value := value }) <$> p.value.fill lookup
  let body ← r.body.mapM (Value.fill lookup)
  let status ← r.tests.status.mapM (Value.fill lookup)
  let expectedBody ← r.tests.body.mapM (Value.fill lookup)
  let expectedHeaders ← fillEntries lookup r.tests.headers
  let json ← fillEntries lookup r.tests.json
  return { r with
    method := method
    baseUrl := baseUrl
    url := url
    headers := headers
    params := params
    body := body
    tests := ⟨status, expectedBody, expectedHeaders, json⟩ }

section

variable (lookup : Lookup)

theorem fillEntries_notes (entries : List (String × Value)) :
    Notes (fillEntries lookup entries) (resolveEntries lookup entries)
      (entries.flatMap fun e => e.2.templateNames.filter fun name => (lookup name).isNone) :=
  Notes.mapM (fun e => (e.2.fill_notes lookup).map (e.1, ·)) entries

theorem Request.fill_notes (r : Request) : Notes (r.fill lookup) (r.resolve lookup)
    (r.names.filter fun name => (lookup name).isNone) := by
  have htext := Template.notes_fillText lookup
  have hvalue := Value.fill_notes lookup
  have hparam (p : Param) := (hvalue p.value).map fun value => { p with value := value }
  -- The names are noted field by field; together they are those of the whole request.
  have hpass : ∃ names, names = r.names.filter (fun name => (lookup name).isNone) ∧
      Notes (r.fill lookup) (r.resolve lookup) names := by
    refine ⟨_, ?_, (htext r.method).bind <| (Notes.option htext r.baseUrl).bind <|
      (htext r.url).bind <| (fillEntries_notes lookup r.headers).bind <|
      (Notes.mapM hparam r.params).bind <| (Notes.option hvalue r.body).bind <|
      (Notes.option hvalue r.tests.status).bind <| (Notes.option hvalue r.tests.body).bind <|
      (fillEntries_notes lookup r.tests.headers).bind <|
      (fillEntries_notes lookup r.tests.json).bind <| notes_pure _⟩
    simp [names, templates, TestSection.templates, Template.undefinedNames, Value.templateNames,
      List.filter_flatMap, List.flatMap_map, Option.toList_map]
    rfl
  obtain ⟨names, hnames, hnotes⟩ := hpass
  exact hnames ▸ hnotes

end

/-! ## What stays as it is -/

namespace Value

mutual

/-- Whether a value is another one with nothing but texts replaced. -/
def SameShape : Value → Value → Prop
  | .string _, _ => True
  | .array items, .array items' => SameShapeItems items items'
  | .object fields, .object fields' => SameShapeFields fields fields'
  | .null, .null => True
  | .bool b, .bool b' => b' = b
  | .number n, .number n' => n' = n
  | _, _ => False

/-- The same for two lists of values, item by item. -/
def SameShapeItems : List Value → List Value → Prop
  | [], [] => True
  | v :: rest, v' :: rest' => SameShape v v' ∧ SameShapeItems rest rest'
  | _, _ => False

/-- The same for two lists of fields, which have the same keys in the same order. -/
def SameShapeFields : List (String × Value) → List (String × Value) → Prop
  | [], [] => True
  | (k, v) :: rest, (k', v') :: rest' => k' = k ∧ SameShape v v' ∧ SameShapeFields rest rest'
  | _, _ => False

end

variable (lookup : Lookup)

mutual

theorem sameShape_resolve (v : Value) : v.SameShape (v.resolve lookup) := by
  cases v with
  | string s => trivial
  | array items => exact sameShapeItems_resolve items
  | object fields => exact sameShapeFields_resolve fields
  | null => trivial
  | bool b => exact rfl
  | number n => exact rfl

theorem sameShapeItems_resolve (items : List Value) :
    SameShapeItems items (resolveItems lookup items) := by
  cases items with
  | nil => trivial
  | cons v rest => exact ⟨sameShape_resolve v, sameShapeItems_resolve rest⟩

theorem sameShapeFields_resolve (fields : List (String × Value)) :
    SameShapeFields fields (resolveFields lookup fields) := by
  cases fields with
  | nil => trivial
  | cons field rest =>
    exact ⟨rfl, sameShape_resolve field.2, sameShapeFields_resolve rest⟩

end

end Value

/-- Whether entries have the same names in the same order, and values of the same shape. -/
def SameEntries : List (String × Value) → List (String × Value) → Prop :=
  List.Forall₂ fun e e' => e'.1 = e.1 ∧ e.2.SameShape e'.2

/-- Whether a request is another one with nothing but texts replaced that may have placeholders. -/
structure Request.SameShape (r r' : Request) : Prop where
  name : r'.name = r.name
  options : r'.options = r.options
  captures : r'.captures = r.captures
  baseUrl : r'.baseUrl.isSome = r.baseUrl.isSome
  headers : SameEntries r.headers r'.headers
  params : List.Forall₂ (fun p p' => p'.name = p.name ∧ p'.encode = p.encode ∧
    p.value.SameShape p'.value) r.params r'.params
  body : Option.Rel Value.SameShape r.body r'.body
  status : Option.Rel Value.SameShape r.tests.status r'.tests.status
  expectedBody : Option.Rel Value.SameShape r.tests.body r'.tests.body
  expectedHeaders : SameEntries r.tests.headers r'.tests.headers
  json : SameEntries r.tests.json r'.tests.json

theorem sameEntries_resolve (lookup : Lookup) (entries : List (String × Value)) :
    SameEntries entries (resolveEntries lookup entries) :=
  List.forall₂_map_right_iff.mpr
    (List.forall₂_same.mpr fun e _ => ⟨rfl, e.2.sameShape_resolve lookup⟩)

theorem sameShape_option_resolve (lookup : Lookup) (v : Option Value) :
    Option.Rel Value.SameShape v (v.map (Value.resolve lookup)) := by
  cases v with
  | none => exact .none
  | some v => exact .some (v.sameShape_resolve lookup)

theorem Request.sameShape_resolve (lookup : Lookup) (r : Request) :
    r.SameShape (r.resolve lookup) where
  name := rfl
  options := rfl
  captures := rfl
  baseUrl := Option.isSome_map
  headers := sameEntries_resolve lookup r.headers
  params := List.forall₂_map_right_iff.mpr
    (List.forall₂_same.mpr fun p _ => ⟨rfl, rfl, p.value.sameShape_resolve lookup⟩)
  body := sameShape_option_resolve lookup r.body
  status := sameShape_option_resolve lookup r.tests.status
  expectedBody := sameShape_option_resolve lookup r.tests.body
  expectedHeaders := sameEntries_resolve lookup r.tests.headers
  json := sameEntries_resolve lookup r.tests.json

/-! ## The names that are reported -/

/-- A name stands after just those that were met before it and have no value either. -/
theorem exists_distinct_filter_eq {met before after : List String} {name : String}
    {p : String → Bool} (hmet : met = before ++ name :: after) (hname : name ∉ before)
    (hp : p name = true) : ∃ earlier later, distinct (met.filter p) = earlier ++ name :: later ∧
      ∀ other, other ∈ earlier ↔ other ∈ before ∧ p other = true := by
  have hnew : name ∉ before.filter p := fun h => hname (List.mem_filter.mp h).1
  have heq : distinct (met.filter p) = distinct (before.filter p) ++
      name :: ((distinct (after.filter p)).filter (· ≠ name)).filter (· ∉ before.filter p) := by
    have hkeep : decide (name ∉ before.filter p) = true := decide_eq_true hnew
    rw [hmet, List.filter_append, List.filter_cons_of_pos hp, distinct_append, distinct]
    exact congrArg _ (List.filter_cons_of_pos hkeep)
  exact ⟨_, _, heq, fun other => by rw [mem_distinct, List.mem_filter]⟩

/-- **The names without values in a request.**  Filling in a request in one pass with one list of
names gives the filled-in request and the names that are reported.  These are distinct, they are
just the names of placeholders that have no value, and each of them comes after just those that are
met before it.  Nothing but texts that may have placeholders is replaced. -/
theorem Request.undefinedNames_met (lookup : Lookup) (r : Request) :
    (r.fill lookup).run [] = (r.resolve lookup, r.undefinedNames lookup) ∧
      (r.undefinedNames lookup).Nodup ∧
      (∀ name, name ∈ r.undefinedNames lookup ↔ name ∈ r.met ∧ lookup name = none) ∧
      (∀ before name after, r.met = before ++ name :: after → name ∉ before →
        lookup name = none → ∃ earlier later,
          r.undefinedNames lookup = earlier ++ name :: later ∧
            ∀ other, other ∈ earlier ↔ other ∈ before ∧ lookup other = none) ∧
      r.SameShape (r.resolve lookup) := by
  have hnames : r.undefinedNames lookup =
      distinct (r.met.filter fun name => (lookup name).isNone) := by
    rw [← names_eq_met]
    rfl
  refine ⟨?_, nodup_distinct _, fun name => ?_, fun before name after hmet hnew hnone => ?_,
    r.sameShape_resolve lookup⟩
  · rw [r.fill_notes lookup [], noteAll_nil]
    rfl
  · rw [hnames, mem_distinct, List.mem_filter, Option.isNone_iff_eq_none]
  · rw [hnames]
    simpa only [Option.isNone_iff_eq_none] using exists_distinct_filter_eq hmet hnew
      (p := fun name => (lookup name).isNone) (Option.isNone_iff_eq_none.mpr hnone)

end RequestSuite
