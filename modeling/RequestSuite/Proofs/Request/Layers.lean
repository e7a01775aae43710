import RequestSuite.Proofs.Bundle.Declared
import RequestSuite.Proofs.Template.Blank
import RequestSuite.Proofs.Template.Mention

/-!
# Filling in layers and filling in requests

Merging looks at names and keys and never at values, and filling in templates changes values and
never names or keys.  So it makes no difference whether layers are filled in before they are merged
or after it.  A value in common that the request says anew leaves no trace, not even a name that has
no value.  `RequestLayer.merge_resolve` says both.
-/

namespace RequestSuite

/-! ## Layers filled in -/

/-- A layer with the templates in its values filled in; its method is left for later. -/
def Layer.resolve (lookup : Lookup) (l : Layer) : Layer :=
  { l with
    headers := resolveEntries lookup l.headers
    params := l.params.map fun p => { p with value := p.value.resolve lookup }
    body := l.body.map (Value.resolve lookup)
    tests := l.tests.resolve lookup }

/-- The common layer with the templates in its values filled in. -/
def CommonLayer.resolve (lookup : Lookup) (c : CommonLayer) : CommonLayer :=
  { c with toLayer := c.toLayer.resolve lookup }

/-- The layer of a request with the templates in its values filled in. -/
def RequestLayer.resolve (lookup : Lookup) (l : RequestLayer) : RequestLayer :=
  { l with toLayer := l.toLayer.resolve lookup }

section

variable (lookup : Lookup)

theorem sharedLayer_resolve (common : Option CommonLayer) :
    sharedLayer (common.map (CommonLayer.resolve lookup)) =
      (sharedLayer common).resolve lookup := by
  cases common <;> rfl

/-! ## The parts of a request -/

theorem mergeEntries_resolve (common request : List (String × Value)) :
    mergeEntries (resolveEntries lookup common) (resolveEntries lookup request) =
      resolveEntries lookup (mergeEntries common request) := by
  rw [mergeEntries, resolveEntries, resolveEntries, ← List.map_append, Table.ofPairs_map]
  rfl

theorem mergeHeaders_resolve (common request : List (String × Value)) :
    mergeHeaders (resolveEntries lookup common) (resolveEntries lookup request) =
      resolveEntries lookup (mergeHeaders common request) := by
  have hlower (headers : List (String × Value)) :
      (resolveEntries lookup headers).map (fun h => (Text.lower h.1, h.2)) =
        (headers.map fun h => (Text.lower h.1, h.2)).map fun h => (h.1, h.2.resolve lookup) := by
    simp only [resolveEntries, List.map_map, Function.comp_def]
  rw [mergeHeaders, List.map_append, hlower, hlower, ← List.map_append, ← List.map_append,
    Table.ofPairs_map]
  rfl

/-- Whether a common parameter gives way depends on its name only. -/
theorem mergeParams_resolve (common request : List Param) :
    mergeParams (common.map fun p => { p with value := p.value.resolve lookup })
        (request.map fun p => { p with value := p.value.resolve lookup }) =
      (mergeParams common request).map fun p => { p with value := p.value.resolve lookup } := by
  rw [mergeParams, mergeParams, List.map_append, List.filter_map]
  simp only [Function.comp_def, List.any_map]

theorem or_map_resolve (request common : Option Value) :
    (request.map (Value.resolve lookup)).or (common.map (Value.resolve lookup)) =
      (request.or common).map (Value.resolve lookup) := by
  cases request <;> rfl

theorem mergeTests_resolve (common request : TestSection) :
    (common.resolve lookup).merge (request.resolve lookup) =
      (common.merge request).resolve lookup := by
  simp only [TestSection.merge, TestSection.resolve, or_map_resolve, mergeHeaders_resolve,
    mergeEntries_resolve]

theorem RequestLayer.completed_resolve (common : Option CommonLayer) (layer : RequestLayer)
    (method url : String) :
    (layer.resolve lookup).completed (common.map (CommonLayer.resolve lookup)) method url =
      let r := layer.completed common method url
      { r.resolve lookup with method := r.method, baseUrl := r.baseUrl, url := r.url } := by
  have hbase : (common.map (CommonLayer.resolve lookup)).bind (·.baseUrl) =
      common.bind (·.baseUrl) := by
    cases common <;> rfl
  simp only [completed, Request.resolve, sharedLayer_resolve, hbase, RequestLayer.resolve,
    Layer.resolve, mergeHeaders_resolve, mergeParams_resolve, or_map_resolve,
    mergeTests_resolve]

end

/-! ## What is written in a layer -/

/-- What a value of a layer can be about. -/
inductive Topic where
  | method
  /-- A header, by its name in lower case. -/
  | header (name : String)
  | param (name : String)
  | body
  /-- What a test expects at a place in the response. -/
  | expected (source : Source)
deriving DecidableEq, Repr

/-- All values that are written in a layer, with what they are about. -/
def Layer.written (l : Layer) : List (Topic × Value) :=
  (nonBlank l.method).toList.map (fun m => (.method, .string m)) ++
    l.headers.map (fun h => (.header (Text.lower h.1), h.2)) ++
    l.params.map (fun p => (.param p.name, p.value)) ++
    l.body.toList.map (fun v => (.body, v)) ++
    l.tests.leaves.map (fun leaf => (.expected leaf.1, leaf.2))

namespace Layer

variable {l : Layer} {name : String} {v : Value}

theorem mem_written_method :
    (.method, v) ∈ l.written ↔ ∃ m, nonBlank l.method = some m ∧ .string m = v := by
  simp [written]

theorem mem_written_header :
    (.header name, v) ∈ l.written ↔ (name, v) ∈ l.headers.map fun h => (Text.lower h.1, h.2) := by
  simp [written]

theorem mem_written_param :
    (.param name, v) ∈ l.written ↔ ∃ p ∈ l.params, p.name = name ∧ p.value = v := by
  simp [written]

theorem mem_written_body : (.body, v) ∈ l.written ↔ l.body = some v := by
  simp [written]

theorem mem_written_expected {source : Source} :
    (.expected source, v) ∈ l.written ↔ (source, v) ∈ l.tests.leaves := by
  simp [written]

end Layer

/-- Whether a value about something is in force: it is written in the request, or in common if
nothing is written about it in the request. -/
def InForce (common : Option CommonLayer) (layer : RequestLayer) (topic : Topic) (v : Value) : Prop :=
  (topic, v) ∈ layer.written ∨
    ((topic, v) ∈ (sharedLayer common).written ∧ ∀ w, (topic, w) ∉ layer.written)

/-! ## Where the values of a merged request come from -/

section

variable {common : Option CommonLayer} {layer : RequestLayer}

theorem inForce_method {method : String}
    (h : (nonBlank layer.method).or (nonBlank (sharedLayer common).method) = some method) :
    InForce common layer .method (.string method) := by
  rcases Option.or_eq_some_iff.mp h with hown | ⟨hnone, hshared⟩
  · exact .inl (Layer.mem_written_method.mpr ⟨method, hown, rfl⟩)
  · refine .inr ⟨Layer.mem_written_method.mpr ⟨method, hshared, rfl⟩, fun w hw => ?_⟩
    obtain ⟨m, hm, -⟩ := Layer.mem_written_method.mp hw
    exact absurd (hnone.symm.trans hm) nofun

theorem inForce_header {e : String × Value}
    (h : e ∈ mergeHeaders (sharedLayer common).headers layer.headers) :
    InForce common layer (.header e.1) e.2 := by
  have hlast := (Table.overlay_ofPairs _).values e h
  rw [List.map_append] at hlast
  rcases mem_of_lastValue_append hlast with hown | ⟨hshared, hnone⟩
  · exact .inl (Layer.mem_written_header.mpr hown)
  · exact .inr ⟨Layer.mem_written_header.mpr hshared,
      fun w hw => hnone w (Layer.mem_written_header.mp hw)⟩

theorem inForce_param {p : Param}
    (h : p ∈ mergeParams (sharedLayer common).params layer.params) :
    InForce common layer (.param p.name) p.value := by
  rcases List.mem_append.mp h with hshared | hown
  · obtain ⟨hmem, hnone⟩ := List.mem_filter.mp hshared
    refine .inr ⟨Layer.mem_written_param.mpr ⟨p, hmem, rfl, rfl⟩, fun w hw => ?_⟩
    obtain ⟨p', hp', hname, -⟩ := Layer.mem_written_param.mp hw
    rw [Bool.not_eq_true', List.any_eq_false] at hnone
    exact hnone p' hp' (by simp [hname])
  · exact .inl (Layer.mem_written_param.mpr ⟨p, hown, rfl, rfl⟩)

theorem inForce_body {v : Value} (h : layer.body.or (sharedLayer common).body = some v) :
    InForce common layer .body v := by
  rcases Option.or_eq_some_iff.mp h with hown | ⟨hnone, hshared⟩
  · exact .inl (Layer.mem_written_body.mpr hown)
  · refine .inr ⟨Layer.mem_written_body.mpr hshared, fun w hw => ?_⟩
    exact absurd (hnone.symm.trans (Layer.mem_written_body.mp hw)) nofun

/-- A section of tests holds what it evaluates. -/
theorem TestSection.holds_leaves (t : TestSection) : t.Holds t.leaves := by
  obtain ⟨status, body, headers, json⟩ := t
  have hstatus : Holds { status := status } (status.map (Source.status, ·)).toList := by
    cases status with
    | none => exact holds_empty
    | some v => exact holds_status v
  have hbody : Holds { body := body } (body.map (Source.body, ·)).toList := by
    cases body with
    | none => exact holds_empty
    | some v => exact holds_body v
  have hall := ((hstatus.append hbody).append (holds_headers headers)).append (holds_json json)
  simpa [followedBy, leaves, afterStatus] using hall

theorem inForce_expected {leaf : Source × Value}
    (h : leaf ∈ ((sharedLayer common).tests.merge layer.tests).leaves) :
    InForce common layer (.expected leaf.1) leaf.2 := by
  have hlast := TestSection.lastValue_leaf
    ((sharedLayer common).tests.holds_leaves.append layer.tests.holds_leaves) h
  rcases mem_of_lastValue_append hlast with hown | ⟨hshared, hnone⟩
  · exact .inl (Layer.mem_written_expected.mpr hown)
  · exact .inr ⟨Layer.mem_written_expected.mpr hshared,
      fun w hw => hnone w (Layer.mem_written_expected.mp hw)⟩

theorem TestSection.exists_leaf_of_mem_templates {t : TestSection} {v : Value}
    (h : v ∈ t.templates) : ∃ source, (source, v) ∈ t.leaves := by
  rcases mem_templates.mp h with h | h | ⟨e, he, rfl⟩ | ⟨e, he, rfl⟩
  · exact ⟨.status, by simp [leaves, h]⟩
  · exact ⟨.body, by simp [leaves, afterStatus, h]⟩
  · exact ⟨.header (Text.lower e.1), by
      simp only [leaves, afterStatus, List.mem_append]
      exact .inr (.inl (.inr (List.mem_map_of_mem he)))⟩
  · exact ⟨.json e.1, by
      simp only [leaves, afterStatus, List.mem_append]
      exact .inr (.inr (List.mem_map_of_mem he))⟩

/-- What a merged request mentions is mentioned by a value that is in force, or in an address. -/
theorem mentioned_of_merged {r : Request} {name : String} (h : layer.merge common = .ok r)
    (hname : name ∈ r.names) :
    (∃ topic v, InForce common layer topic v ∧ name ∈ v.templateNames) ∨
      (∃ url, layer.url = some url ∧ name ∈ Template.names url) ∨
      ∃ base, common.bind (·.baseUrl) = some base ∧ name ∈ Template.names base := by
  obtain ⟨method, url, hmethod, hurl, rfl⟩ := RequestLayer.merge_eq_ok_iff.mp h
  obtain ⟨v, hv, hname⟩ := List.mem_flatMap.mp hname
  -- One case for each kind of template; the method and the address have been trimmed.
  rcases Request.mem_templates.mp hv with rfl | ⟨base, hbase, rfl⟩ | rfl | ⟨e, he, rfl⟩ |
    ⟨p, hp, rfl⟩ | hbody | htest
  · have htrimmed : name ∈ Template.names (Text.trim method) := hname
    rw [Template.names_trim] at htrimmed
    exact .inl ⟨.method, .string method, inForce_method hmethod, htrimmed⟩
  · exact .inr (.inr ⟨base, hbase, hname⟩)
  · have htrimmed : name ∈ Template.names (Text.trim url) := hname
    rw [Template.names_trim] at htrimmed
    exact .inr (.inl ⟨url, (nonBlank_eq_some_iff.mp hurl).1, htrimmed⟩)
  · exact .inl ⟨_, _, inForce_header he, hname⟩
  · exact .inl ⟨_, _, inForce_param hp, hname⟩
  · exact .inl ⟨_, _, inForce_body hbody, hname⟩
  · obtain ⟨source, hleaf⟩ := TestSection.exists_leaf_of_mem_templates htest
    exact .inl ⟨_, _, inForce_expected hleaf, hname⟩

end

/-- Whether a name stands only in values in common about which something else is written in the
request. -/
structure OnlyOverridden (name : String) (common : Option CommonLayer) (layer : RequestLayer) :
    Prop where
  shared : ∀ e ∈ (sharedLayer common).written, name ∈ e.2.templateNames →
    ∃ e' ∈ layer.written, e'.1 = e.1
  baseUrl : ∀ base ∈ common.bind (·.baseUrl), name ∉ Template.names base
  request : ∀ e ∈ layer.written, name ∉ e.2.templateNames
  url : ∀ url ∈ layer.url, name ∉ Template.names url

theorem OnlyOverridden.not_mem_names {common : Option CommonLayer} {layer : RequestLayer}
    {r : Request} {name : String} (hname : OnlyOverridden name common layer)
    (h : layer.merge common = .ok r) : name ∉ r.names := by
  intro hmem
  rcases mentioned_of_merged h hmem with ⟨topic, v, hown | ⟨hshared, hnone⟩, hv⟩ | ⟨url, hurl, hv⟩ |
    ⟨base, hbase, hv⟩
  · exact hname.request (topic, v) hown hv
  · obtain ⟨e, he, rfl⟩ := hname.shared (topic, v) hshared hv
    exact hnone e.2 he
  · exact hname.url url hurl hv
  · exact hname.baseUrl base hbase hv

/-- **Filling in and merging commute.**  Layers that are filled in first are merged into the request
that is merged first and then filled in; only its method and addresses are filled in later, for they
are no values of the layers.  A name that stands only in values in common that the request overrides
is not reported as undefined. -/
theorem RequestLayer.merge_resolve {common : Option CommonLayer} {layer : RequestLayer}
    {r : Request} (h : layer.merge common = .ok r) (lookup : Lookup) :
    (layer.resolve lookup).merge (common.map (CommonLayer.resolve lookup)) =
        .ok { r.resolve lookup with method := r.method, baseUrl := r.baseUrl, url := r.url } ∧
      ∀ name, OnlyOverridden name common layer → name ∉ r.undefinedNames lookup := by
  refine ⟨?_, fun name hname hmem => ?_⟩
  · obtain ⟨method, url, hmethod, hurl, rfl⟩ := merge_eq_ok_iff.mp h
    refine merge_eq_ok_iff.mpr ⟨method, url, ?_, hurl, (completed_resolve lookup ..).symm⟩
    rw [sharedLayer_resolve]
    exact hmethod
  · have hnames : name ∈ r.names.filter fun name => (lookup name).isNone := mem_distinct.mp hmem
    exact hname.not_mem_names h (List.mem_filter.mp hnames).1

namespace RequestLayer

/-- A common layer with a placeholder in a value of each kind. -/
def draftCommon : CommonLayer :=
  { baseUrl := some "http://$host"
    method := some "$old"
    headers := [("X-Id", .string "$old")]
    params := [⟨"page", .array [.string "$(old)"], true⟩, ⟨"tag", .string "$new", true⟩]
    body := some (.string "$old")
    tests := { status := some (.string "$old"), headers := [("Via", .string "$old")] } }

/-- A request that says anew all that mentions the old name. -/
def draftLayer : RequestLayer :=
  { name := "draft"
    method := some "PUT"
    url := some "/drafts"
    headers := [("x-id", .string "$new")]
    params := [⟨"page", .number (.int 1), true⟩]
    body := some .null
    tests := { status := some (.number (.int 200)), headers := [("VIA", .string "1.1 $host")] } }

/-- What both say together. -/
def draftRequest : Request :=
  { name := "draft"
    method := "PUT"
    baseUrl := some "http://$host"
    url := "/drafts"
    headers := [("x-id", .string "$new")]
    params := [⟨"tag", .string "$new", true⟩, ⟨"page", .number (.int 1), true⟩]
    body := some .null
    options := .standard
    tests := { status := some (.number (.int 200)), headers := [("via", .string "1.1 $host")] }
    captures := {} }

theorem onlyOverridden_draft : OnlyOverridden "old" (some draftCommon) draftLayer where
  shared := by decide +kernel
  baseUrl := by decide +kernel
  request := by decide +kernel
  url := by decide +kernel

/-- Only the new name has a value. -/
def draftLookup : Lookup := fun name =>
  if name = "new" then some (.number (.int 7)) else none

theorem merge_resolve_draft :
    draftLayer.merge (some draftCommon) = .ok draftRequest ∧
      (draftLayer.resolve draftLookup).merge (some (draftCommon.resolve draftLookup)) =
        .ok { draftRequest.resolve draftLookup with
          method := "PUT", baseUrl := some "http://$host", url := "/drafts" } ∧
      OnlyOverridden "old" (some draftCommon) draftLayer ∧
      "old" ∉ draftRequest.undefinedNames draftLookup := by
  have hmerge : draftLayer.merge (some draftCommon) = .ok draftRequest := rfl
  obtain ⟨hresolve, hnames⟩ := merge_resolve hmerge draftLookup
  exact ⟨hmerge, hresolve, onlyOverridden_draft, hnames "old" onlyOverridden_draft⟩

end RequestLayer

end RequestSuite
