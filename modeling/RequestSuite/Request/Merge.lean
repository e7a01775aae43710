import RequestSuite.Request.Basic

/-!
# Merging layers

What a request says is laid over what is said in common.  Headers, tests and captures are merged
name by name, and a name keeps the place of its first occurrence.  Parameters may be repeated, so
all common parameters of a name give way to those of the request.  Everything else is taken from
the request if it is there, and from the common layer otherwise.
-/

namespace RequestSuite

/-- The fields that a request cannot do without. -/
inductive RequiredField where
  | method
  | url
deriving DecidableEq, Repr

/-- The name of a field. -/
def RequiredField.name : RequiredField → String
  | method => "method"
  | url => "url"

/-- A request that lacks a field. -/
structure MissingField where
  request : String
  field : RequiredField
deriving DecidableEq, Repr

/-- What an incomplete request is reported as. -/
def MissingField.message (e : MissingField) : String :=
  "request '" ++ e.request ++ "' is missing required field '" ++ e.field.name ++ "'"

/-- Entries laid over others, name by name. -/
def mergeEntries {α : Type} (common request : List (String × α)) : Table α :=
  Table.ofPairs (common ++ request)

/-- Headers laid over others, without regard to the case of their names. -/
def mergeHeaders {α : Type} (common request : List (String × α)) : Table α :=
  Table.ofPairs ((common ++ request).map fun h => (Text.lower h.1, h.2))

/-- Parameters laid over others: the request's, and those common ones whose names it does not use. -/
def mergeParams (common request : List Param) : List Param :=
  (common.filter fun c => !request.any fun r => r.name == c.name) ++ request

/-- Tests laid over others. -/
def TestSection.merge (common request : TestSection) : TestSection :=
  { status := request.status.or common.status
    body := request.body.or common.body
    headers := mergeHeaders common.headers request.headers
    json := mergeEntries common.json request.json }

/-- Captures laid over others; those in the short notation go by their variables. -/
def CaptureSection.merge (common request : CaptureSection) : CaptureSection :=
  { status := request.status.or common.status
    body := request.body.or common.body
    headers := mergeHeaders common.headers request.headers
    json := mergeEntries common.json request.json
    setvars :=
      (Table.ofPairs ((common.setvars ++ request.setvars).map fun c => (c.target, c))).map (·.2) }

/-- Options laid over others, and the standard ones where neither is set. -/
def Options.merge (common request : Options (Option Bool)) : Options Bool :=
  (request.zipWith Option.or common).zipWith (fun set standard => set.getD standard) .standard

/-- A text that is not blank. -/
def nonBlank (s : Option String) : Option String :=
  s.filter fun s => !Text.isBlankText s

/-- A request with what is said about it in common, provided that it has a method and an
address. -/
def RequestLayer.merge (common : Option CommonLayer) (request : RequestLayer) :
    Except MissingField Request :=
  let shared := (common.map CommonLayer.toLayer).getD {}
  match (nonBlank request.method).or (nonBlank shared.method), nonBlank request.url with
  | none, _ => .error ⟨request.name, .method⟩
  | some _, none => .error ⟨request.name, .url⟩
  | some method, some url =>
    .ok {
      name := request.name
      method := Text.trim method
      baseUrl := common.bind (·.baseUrl)
      url := Text.trim url
      headers := mergeHeaders shared.headers request.headers
      params := mergeParams shared.params request.params
      body := request.body.or shared.body
      options := shared.options.merge request.options
      tests := shared.tests.merge request.tests
      captures := shared.captures.merge request.captures }

/-! ## What merging gives -/

theorem nonBlank_eq_some_iff {s : Option String} {text : String} :
    nonBlank s = some text ↔ s = some text ∧ Text.isBlankText text = false := by
  rw [nonBlank, Option.filter_eq_some_iff, Bool.not_eq_true']

theorem nonBlank_trim {text : String} (h : Text.isBlankText text = false) :
    nonBlank (some (Text.trim text)) = some (Text.trim text) :=
  nonBlank_eq_some_iff.mpr ⟨rfl, (Text.isBlankText_trim text).trans h⟩

/-- What is said in common, which may be nothing. -/
def sharedLayer (common : Option CommonLayer) : Layer :=
  (common.map CommonLayer.toLayer).getD {}

/-- The request that a method and an address complete. -/
def RequestLayer.completed (common : Option CommonLayer) (layer : RequestLayer)
    (method url : String) : Request :=
  { name := layer.name
    method := Text.trim method
    baseUrl := common.bind (·.baseUrl)
    url := Text.trim url
    headers := mergeHeaders (sharedLayer common).headers layer.headers
    params := mergeParams (sharedLayer common).params layer.params
    body := layer.body.or (sharedLayer common).body
    options := (sharedLayer common).options.merge layer.options
    tests := (sharedLayer common).tests.merge layer.tests
    captures := (sharedLayer common).captures.merge layer.captures }

/-- Merging succeeds just if there is an address, and a method of the request or in common. -/
theorem RequestLayer.merge_eq_ok_iff {common : Option CommonLayer} {layer : RequestLayer}
    {r : Request} : layer.merge common = .ok r ↔ ∃ method url,
      (nonBlank layer.method).or (nonBlank (sharedLayer common).method) = some method ∧
        nonBlank layer.url = some url ∧ r = layer.completed common method url := by
  unfold merge
  simp only
  constructor
  · intro h
    split at h
    · cases h
    · cases h
    · rename_i method url hmethod hurl
      cases h
      exact ⟨method, url, hmethod, hurl, rfl⟩
  · rintro ⟨method, url, hmethod, hurl, rfl⟩
    simp only [sharedLayer] at hmethod
    rw [hmethod, hurl]
    rfl

end RequestSuite
