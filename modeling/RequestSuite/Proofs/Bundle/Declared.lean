import RequestSuite.Bundle.Reader
import RequestSuite.Proofs.Bundle.Reading
import RequestSuite.Proofs.Request.Named
import RequestSuite.Request.Merge

/-!
# Declared tests

A bundle declares tests in two places, in common and for a request, and in two notations.  Each
declaration is about a place in the response.  `Bundle.results_run_declared` says that just the
declared places are tested, each of them once, against the value of its last declaration for the
request, or else in common.
-/

namespace RequestSuite

/-! ## Declarations -/

/-- The fields of a map; none for a value of another kind. -/
def Value.entries : Value → List (String × Value)
  | .object fields => fields
  | _ => []

/-- The name and the value that an item of a list of headers tells. -/
def headerItem? (item : Value) : Option (String × Value) :=
  match item.field? "name", item.field? "value" with
  | some (.string name), some v => some (name, v)
  | _, _ => none

/-- The headers that a list or a map tells. -/
def headerEntries : Value → List (String × Value)
  | .array items => items.filterMap headerItem?
  | v => v.entries

/-- The tests that a key of a section of tests declares, as places in the response with the expected
values.  Names of headers are taken in lower case. -/
def declared (key : String) (v : Value) : List (Source × Value) :=
  match key with
  | "status" => [(.status, v)]
  | "body" => [(.body, v)]
  | "headers" => (headerEntries v).map fun h => (.header (Text.lower h.1), h.2)
  | "json" => v.entries.map fun p => (.json p.1, p.2)
  | _ =>
    match key.toList with
    | '$' :: 'h' :: '.' :: name => [(.header (Text.lower (String.ofList name)), v)]
    | s => if Source.isPathText s then [(.json key, v)] else []

/-- The tests that a section declares, in the order in which they are written. -/
def declaredIn (tests : Value) : List (Source × Value) :=
  tests.entries.flatMap fun e => declared e.1 e.2

/-- The tests that a request or the common part of a bundle declares. -/
def declarations (layer : Value) : List (Source × Value) :=
  (lastValue "tests" layer.entries).elim [] declaredIn

/-- The kind of a place, as a number in the order in which tests are evaluated. -/
def Source.rank : Source → Nat
  | .status => 0
  | .body => 1
  | .header _ => 2
  | .json _ => 3

theorem declared_header {key : String} {name : List Char}
    (h : key.toList = '$' :: 'h' :: '.' :: name) (v : Value) :
    declared key v = [(.header (Text.lower (String.ofList name)), v)] := by
  unfold declared
  split
  · cases h
  · cases h
  · cases h
  · cases h
  · simp only [h]

theorem declared_path {key : String} (h : Source.isPathText key.toList = true) (v : Value) :
    declared key v = [(.json key, v)] := by
  unfold declared
  split
  · cases h
  · cases h
  · cases h
  · cases h
  · split
    · rename_i heq
      rw [heq] at h
      cases h
    · rw [if_pos h]

/-! ## What a section of tests holds -/

namespace TestSection

/-- Whether a section of tests holds just some declarations. -/
structure Holds (t : TestSection) (declarations : List (Source × Value)) : Prop where
  status : t.status = lastValue .status declarations
  body : t.body = lastValue .body declarations
  headers : t.headers.map (fun h => (.header (Text.lower h.1), h.2)) =
    ranked Source.rank 2 declarations
  json : t.json.map (fun p => (.json p.1, p.2)) = ranked Source.rank 3 declarations

/-- A section of tests with those of another one added to it. -/
def followedBy (t t' : TestSection) : TestSection :=
  ⟨t'.status.or t.status, t'.body.or t.body, t.headers ++ t'.headers, t.json ++ t'.json⟩

variable {t t' : TestSection} {ds ds' : List (Source × Value)}

theorem Holds.append (h : t.Holds ds) (h' : t'.Holds ds') :
    (t.followedBy t').Holds (ds ++ ds') where
  status := by rw [lastValue_append, ← h.status, ← h'.status, followedBy]
  body := by rw [lastValue_append, ← h.body, ← h'.body, followedBy]
  headers := by rw [ranked_append, ← h.headers, ← h'.headers, followedBy, List.map_append]
  json := by rw [ranked_append, ← h.json, ← h'.json, followedBy, List.map_append]

theorem holds_empty : Holds {} [] :=
  ⟨rfl, rfl, rfl, rfl⟩

theorem holds_status (v : Value) : Holds { status := some v } [(.status, v)] :=
  ⟨rfl, rfl, rfl, rfl⟩

theorem holds_body (v : Value) : Holds { body := some v } [(.body, v)] :=
  ⟨rfl, rfl, rfl, rfl⟩

theorem holds_headers (headers : List (String × Value)) : Holds { headers := headers }
    (headers.map fun h => (.header (Text.lower h.1), h.2)) where
  status := (lastValue_eq_none (List.forall_mem_map.mpr fun _ _ => by simp)).symm
  body := (lastValue_eq_none (List.forall_mem_map.mpr fun _ _ => by simp)).symm
  headers := (List.filter_eq_self.mpr (List.forall_mem_map.mpr fun _ _ => rfl)).symm
  json :=
    (List.filter_eq_nil_iff.mpr (List.forall_mem_map.mpr fun _ _ => by simp [Source.rank])).symm

theorem holds_json (json : List (String × Value)) :
    Holds { json := json } (json.map fun p => (.json p.1, p.2)) where
  status := (lastValue_eq_none (List.forall_mem_map.mpr fun _ _ => by simp)).symm
  body := (lastValue_eq_none (List.forall_mem_map.mpr fun _ _ => by simp)).symm
  headers :=
    (List.filter_eq_nil_iff.mpr (List.forall_mem_map.mpr fun _ _ => by simp [Source.rank])).symm
  json := (List.filter_eq_self.mpr (List.forall_mem_map.mpr fun _ _ => rfl)).symm

end TestSection

open Reading TestSection

namespace Bundle

theorem gives_sectionFields {place : Place} {v : Value} {entries : Table Value}
    (h : (sectionFields place v).Gives entries) : v.entries = entries := by
  cases v with
  | null => exact gives_pure.mp h
  | object fields => exact gives_pure.mp h
  | _ => exact (not_gives_refuse h).elim

theorem gives_requiredField {place : Place} {entry : Table Value} {name : String} {v : Value}
    (h : (requiredField place entry name).Gives v) : entry.get? name = some v := by
  unfold requiredField at h
  split at h
  · rename_i u hu
    rw [hu, gives_pure.mp h]
  · exact (not_gives_refuse h).elim

theorem gives_readHeaderItem (place : Place) (v : Value) (header : String × Value)
    (h : (readHeaderItem place v).Gives header) : headerItem? v = some header := by
  obtain ⟨⟨name, value, entry⟩, hpair, h⟩ := h.bind
  obtain rfl := gives_pure.mp h
  obtain ⟨fields, hfields, hpair⟩ := hpair.bind
  obtain ⟨nameValue, hnameField, hpair⟩ := hpair.bind
  obtain ⟨name', hname, hpair⟩ := hpair.bind
  obtain ⟨value', hvalue, hpair⟩ := hpair.bind
  cases gives_pure.mp hpair
  have hget := gives_requiredField hnameField
  rw [gives_string hname] at hget
  simp [headerItem?, gives_fields hfields, Value.field?, hget, gives_requiredField hvalue]

theorem gives_readHeaders {place : Place} {v : Value} {headers : List (String × Value)}
    (h : (readHeaders place v).Gives headers) : headerEntries v = headers := by
  cases v with
  | array items => exact Gives.eachItem gives_readHeaderItem h
  | object entries => exact gives_pure.mp h
  | null => exact gives_pure.mp h
  | _ => exact (not_gives_refuse h).elim

/-- What a section holds before a key, and what the key declares. -/
theorem holds_readTest {place : Place} {before : List (Source × Value)} {t t' : TestSection}
    {entry : String × Value} (hbefore : t.Holds before) (h : (readTest place t entry).Gives t') :
    t'.Holds (before ++ declared entry.1 entry.2) := by
  obtain ⟨key, v⟩ := entry
  unfold readTest at h
  simp only at h
  split at h
  · obtain rfl := gives_pure.mp h
    rw [declared]
    simpa [followedBy] using hbefore.append (holds_status v)
  · obtain rfl := gives_pure.mp h
    rw [declared]
    simpa [followedBy] using hbefore.append (holds_body v)
  · obtain ⟨headers, hheaders, h⟩ := h.bind
    obtain rfl := gives_pure.mp h
    rw [declared, gives_readHeaders hheaders]
    simpa [followedBy] using hbefore.append (holds_headers headers)
  · obtain ⟨entries, hentries, h⟩ := h.bind
    obtain rfl := gives_pure.mp h
    rw [declared, gives_fields hentries, Value.entries]
    simpa [followedBy] using hbefore.append (holds_json entries)
  -- The short notations, of a header and of a path.
  · split at h
    · rename_i name hname
      split at h
      · exact (not_gives_refuse h).elim
      · obtain rfl := gives_pure.mp h
        rw [declared_header hname]
        simpa [followedBy] using hbefore.append (holds_headers [(String.ofList name, v)])
    · split at h
      · rename_i hpath
        obtain rfl := gives_pure.mp h
        rw [declared_path hpath]
        simpa [followedBy] using hbefore.append (holds_json [(key, v)])
      · exact (not_gives_refuse h).elim

theorem holds_readTests {place : Place} {v : Value} {t : TestSection}
    (h : (readTests place v).Gives t) : t.Holds (declaredIn v) := by
  obtain ⟨entries, hentries, h⟩ := h.bind
  have hfold : t.Holds (entries.flatMap fun e => declared e.1 e.2) :=
    Gives.foldlM (motive := fun before t => t.Holds (before.flatMap fun e => declared e.1 e.2))
      (fun before t e t' hbefore hstep => by
        rw [List.flatMap_append, List.flatMap_singleton]
        exact holds_readTest hbefore hstep) holds_empty h
  rw [declaredIn, gives_sectionFields hentries]
  exact hfold

/-! ## What a layer holds -/

/-- What a field of a layer does to the tests: it leaves them alone, unless it is the section of the
tests, which replaces them. -/
def TestsAfter (field : String × Value) (t t' : TestSection) : Prop :=
  if field.1 = "tests" then t'.Holds (declaredIn field.2) else t' = t

theorem testsAfter_of_ne {field : String × Value} (h : field.1 ≠ "tests") (t : TestSection) :
    TestsAfter field t t := by
  rw [TestsAfter, if_neg h]

theorem tests_of_gives {α : Type} {reading : Reading α} {field : α → Layer} {layer : Layer}
    {t : TestSection} (h : Gives (reading >>= fun a => pure (field a)) layer)
    (hfield : ∀ a, (field a).tests = t) : layer.tests = t := by
  obtain ⟨a, _, h⟩ := h.bind
  obtain rfl := gives_pure.mp h
  exact hfield a

theorem testsAfter_readLayerField {place : Place} {layer layer' : Layer} {key : String} {v : Value}
    {reading : Reading Layer} (hkey : readLayerField? place layer key v = some reading)
    (h : reading.Gives layer') :
    TestsAfter (key, v) layer.tests layer'.tests := by
  unfold readLayerField? at hkey
  simp only at hkey
  split at hkey <;> cases hkey
  case h_4 =>
    -- A body is taken as it is, without being read.
    obtain rfl := gives_pure.mp h
    rfl
  case h_6 =>
    -- The tests, which replace those that were there.
    obtain ⟨t, ht, h⟩ := h.bind
    obtain rfl := gives_pure.mp h
    exact holds_readTests ht
  all_goals exact tests_of_gives h fun _ => rfl

section

variable {σ : Type} (tests : σ → TestSection)

/-- The same for what contains a layer, where a key without meaning changes nothing. -/
theorem testsAfter_otherField {place : Place} {layer : Layer} {key : String} {v : Value} {s s' : σ}
    {set : Layer → σ} {notice : Notice} (hs : tests s = layer.tests)
    (hset : ∀ layer', tests (set layer') = layer'.tests)
    (h : Gives (match readLayerField? place layer key v with
      | some reading => do return set (← reading)
      | none => do
        note notice
        return s) s') :
    TestsAfter (key, v) (tests s) (tests s') := by
  split at h
  · rename_i reading hreading
    obtain ⟨layer', hlayer, h⟩ := h.bind
    obtain rfl := gives_pure.mp h
    rw [hs, hset]
    exact testsAfter_readLayerField hreading hlayer
  · rename_i hnone
    obtain ⟨_, _, h⟩ := h.bind
    obtain rfl := gives_pure.mp h
    have hkey : key ≠ "tests" := by
      rintro rfl
      cases hnone
    exact testsAfter_of_ne hkey (tests s)

/-- What holds the tests of the last section that was read holds them in the end. -/
theorem holds_foldlM {step : σ → String × Value → Reading σ}
    (hstep : ∀ s e s', (step s e).Gives s' → TestsAfter e (tests s) (tests s'))
    {fields : List (String × Value)} {s s' : σ} (hinit : (tests s).Holds [])
    (h : Gives (fields.foldlM step s) s') :
    (tests s').Holds ((lastValue "tests" fields).elim [] declaredIn) :=
  Gives.foldlM
    (motive := fun before s => (tests s).Holds ((lastValue "tests" before).elim [] declaredIn))
    (fun before s e s' hbefore hs => by
      -- A section of tests does not add to the one before it, so only the last one counts.
      have hone := hstep s e s' hs
      rw [TestsAfter] at hone
      rw [lastValue_concat]
      by_cases hkey : e.1 = "tests"
      · rw [if_pos hkey] at hone ⊢
        exact hone
      · rw [if_neg hkey] at hone ⊢
        rw [hone]
        exact hbefore) hinit h

end

theorem testsAfter_readCommonField {place : Place} {common common' : CommonLayer}
    {field : String × Value} (h : (readCommonField place common field).Gives common') :
    TestsAfter field common.tests common'.tests := by
  unfold readCommonField at h
  simp only at h
  split at h
  · rename_i hkey
    obtain ⟨s, _, h⟩ := h.bind
    obtain rfl := gives_pure.mp h
    exact testsAfter_of_ne (by rw [hkey]; decide) _
  · exact testsAfter_otherField (fun c : CommonLayer => c.tests) rfl (fun _ => rfl) h

theorem testsAfter_readRequestField {place : Place} {request request' : RequestLayer}
    {field : String × Value} (h : (readRequestField place request field).Gives request') :
    TestsAfter field request.tests request'.tests := by
  unfold readRequestField at h
  simp only at h
  split at h
  · rename_i hkey
    obtain ⟨s, _, h⟩ := h.bind
    obtain rfl := gives_pure.mp h
    exact testsAfter_of_ne (by rw [hkey]; decide) _
  · exact testsAfter_otherField (fun r : RequestLayer => r.tests) rfl (fun _ => rfl) h

theorem holds_readCommon {place : Place} {v : Value} {common : CommonLayer}
    (h : (readCommon place v).Gives common) : common.tests.Holds (declarations v) := by
  obtain ⟨fields, hfields, h⟩ := h.bind
  rw [declarations, gives_fields hfields]
  exact holds_foldlM (fun c : CommonLayer => c.tests)
    (fun _ _ _ => testsAfter_readCommonField) holds_empty h

theorem holds_readRequest {place : Place} {entry : String × Value} {request : RequestLayer}
    (h : (readRequest place entry).Gives request) :
    request.tests.Holds (declarations entry.2) := by
  unfold readRequest at h
  split at h
  · obtain ⟨_, hrefused, _⟩ := h.bind
    exact (not_gives_refuse hrefused).elim
  obtain ⟨fields, hfields, h⟩ := h.bind
  rw [declarations, gives_fields hfields]
  exact holds_foldlM (fun r : RequestLayer => r.tests)
    (fun _ _ _ => testsAfter_readRequestField) holds_empty h

end Bundle

/-! ## What merged tests evaluate -/

namespace TestSection

variable {common request : TestSection} {ds : List (Source × Value)}

theorem overlay_headers (h : (common.followedBy request).Holds ds) :
    Overlay ((common.merge request).headers.map fun e => (Source.header (Text.lower e.1), e.2))
      (ranked Source.rank 2 ds) := by
  rw [← h.headers]
  exact overlay_mergeHeaders (fun _ _ => Source.header.inj) (fun _ v => v) common.headers
    request.headers

theorem overlay_json (h : (common.followedBy request).Holds ds) :
    Overlay ((common.merge request).json.map fun e => (Source.json e.1, e.2))
      (ranked Source.rank 3 ds) := by
  rw [← h.json]
  exact (Table.overlay_ofPairs (common.json ++ request.json)).map
    (fun _ _ => Source.json.inj) fun _ v => v

/-- Of the declarations about a kind with only one place the last one is left. -/
theorem overlay_only (source : Source) (hsource : ∀ s : Source, s.rank = source.rank → s = source)
    (ds : List (Source × Value)) :
    Overlay ((lastValue source ds).map (source, ·)).toList (ranked Source.rank source.rank ds) := by
  rw [← lastValue_ranked Source.rank]
  exact overlay_lastValue fun d hd =>
    hsource d.1 (rank_of_mem_ranked (List.mem_map_of_mem hd))

theorem overlay_status (h : (common.followedBy request).Holds ds) :
    Overlay ((common.merge request).status.map (Source.status, ·)).toList
      (ranked Source.rank 0 ds) := by
  have honly := overlay_only .status (fun s hs => by cases s <;> simp_all [Source.rank]) ds
  rw [← h.status] at honly
  exact honly

theorem overlay_body (h : (common.followedBy request).Holds ds) :
    Overlay ((common.merge request).body.map (Source.body, ·)).toList
      (ranked Source.rank 1 ds) := by
  have honly := overlay_only .body (fun s hs => by cases s <;> simp_all [Source.rank]) ds
  rw [← h.body] at honly
  exact honly

/-- The merged tests, kind by kind. -/
def leafSections (t : TestSection) : List (List (Source × Value)) :=
  [(t.status.map (Source.status, ·)).toList, (t.body.map (Source.body, ·)).toList,
    t.headers.map fun e => (Source.header (Text.lower e.1), e.2),
    t.json.map fun e => (Source.json e.1, e.2)]

theorem leaves_eq_flatten (t : TestSection) : t.leaves = t.leafSections.flatten := by
  simp [leaves, afterStatus, leafSections]

/-- Tests are merged kind by kind. -/
theorem inSections_leafSections (h : (common.followedBy request).Holds ds) :
    InSections Source.rank ds [0, 1, 2, 3] (common.merge request).leafSections :=
  .cons (overlay_status h) (.cons (overlay_body h) (.cons (overlay_headers h)
    (.cons (overlay_json h) .nil)))

/-- The places that merged tests look at are the declared ones, kind by kind. -/
theorem sources_leaves (h : (common.followedBy request).Holds ds) :
    (common.merge request).leaves.map (·.1) =
      [0, 1, 2, 3].flatMap fun n => distinct ((ranked Source.rank n ds).map (·.1)) := by
  rw [leaves_eq_flatten]
  exact (inSections_leafSections h).keys

theorem lastValue_leaf (h : (common.followedBy request).Holds ds) {leaf : Source × Value}
    (hleaf : leaf ∈ (common.merge request).leaves) : lastValue leaf.1 ds = some leaf.2 := by
  rw [leaves_eq_flatten] at hleaf
  exact (inSections_leafSections h).values hleaf

end TestSection

theorem Source.rank_mem (source : Source) : source.rank ∈ [0, 1, 2, 3] := by
  cases source <;> simp [rank]

/-- The declared places, kind by kind, are distinct, and all of them are there. -/
theorem mem_sourcesByRank {ds : List (Source × Value)} {source : Source} :
    source ∈ [0, 1, 2, 3].flatMap (fun n => distinct ((ranked Source.rank n ds).map (·.1))) ↔
      source ∈ ds.map (·.1) :=
  mem_keysByRank Source.rank_mem

theorem nodup_sourcesByRank (ds : List (Source × Value)) :
    ([0, 1, 2, 3].flatMap fun n => distinct ((ranked Source.rank n ds).map (·.1))).Nodup :=
  nodup_keysByRank (by decide)

theorem RequestLayer.tests_merge {common : Option CommonLayer} {layer : RequestLayer} {r : Request}
    (h : layer.merge common = .ok r) :
    r.tests = ((common.map CommonLayer.toLayer).getD {}).tests.merge layer.tests := by
  obtain ⟨method, url, -, -, rfl⟩ := merge_eq_ok_iff.mp h
  rfl

namespace Bundle

theorem holds_shared {common : Option Value} {place : Place} {shared : Option CommonLayer}
    (h : common.mapM (fun v => (readCommon place v).outcome.1) = .ok shared) :
    ((shared.map CommonLayer.toLayer).getD {}).tests.Holds (common.elim [] declarations) := by
  cases common with
  | none =>
    cases h
    exact holds_empty
  | some v =>
    rw [Option.mapM_some] at h
    cases hread : (readCommon place v).outcome.1 with
    | error e =>
      rw [hread] at h
      cases h
    | ok layer =>
      rw [hread] at h
      cases h
      exact holds_readCommon (gives_of_outcome hread)

/-- **Every declared test is evaluated once, and nothing else is.**  The tests of a merged request
are evaluated place by place: the status, the body, the headers, and what paths find, each kind in
the order of the first declarations, those in common before those of the request.  The expected
value is that of the last declaration of the request about the place, or else in common. -/
theorem results_run_declared {common : Option Value} {entry : String × Value}
    {place place' : Place} {shared : Option CommonLayer} {layer : RequestLayer} {r : Request}
    (hshared : common.mapM (fun v => (readCommon place v).outcome.1) = .ok shared)
    (hlayer : (readRequest place' entry).outcome.1 = .ok layer)
    (hmerge : layer.merge shared = .ok r) (response : Response) :
    let inCommon := common.elim [] declarations
    let inRequest := declarations entry.2
    ∃ leaves : List (Source × Value),
      (r.tests.run false response).results = leaves.flatMap (fun leaf =>
        Assertion.evaluate leaf.1 leaf.2 (leaf.1.extract response)) ∧
      leaves.map (·.1) = [0, 1, 2, 3].flatMap (fun n =>
        distinct ((ranked Source.rank n (inCommon ++ inRequest)).map (·.1))) ∧
      (leaves.map (·.1)).Nodup ∧
      (∀ source, source ∈ leaves.map (·.1) ↔ source ∈ (inCommon ++ inRequest).map (·.1)) ∧
      ∀ leaf ∈ leaves,
        (lastValue leaf.1 inRequest).or (lastValue leaf.1 inCommon) = some leaf.2 := by
  intro inCommon inRequest
  have hholds := (holds_shared hshared).append (holds_readRequest (gives_of_outcome hlayer))
  have hsources := sources_leaves hholds
  rw [← RequestLayer.tests_merge hmerge] at hsources
  refine ⟨r.tests.leaves, r.tests.results_run response, hsources, ?_, ?_, fun leaf hleaf => ?_⟩
  · rw [hsources]
    exact nodup_sourcesByRank _
  · intro source
    rw [hsources]
    exact mem_sourcesByRank
  · rw [RequestLayer.tests_merge hmerge] at hleaf
    rw [← lastValue_append]
    exact lastValue_leaf hholds hleaf

/-- A common part with tests of the status, of a header and of the body. -/
def commonPart : Value :=
  .object [("tests", .object [("status", .number (.int 200)),
    ("headers", .array [.object [("name", .string "X-Id"), ("value", .string "1")]]),
    ("$.a", .number (.int 1))])]

/-- A request that declares all of these tests anew, the header in other letters, and one more. -/
def loginPart : Value :=
  .object [("method", .string "GET"), ("url", .string "http://host/"),
    ("tests", .object [("$h.x-ID", .string "2"),
      ("json", .object [("$.b", .number (.int 4)), ("$.a", .number (.int 3))]),
      ("status", .number (.int 201))])]

theorem results_run_declared_login : ∃ shared layer r,
    (readCommon [.key "common"] commonPart).outcome.1 = .ok shared ∧
      (readRequest [.key "requests"] ("login", loginPart)).outcome.1 = .ok layer ∧
      layer.merge (some shared) = .ok r ∧
      ∀ response, ∃ leaves : List (Source × Value),
        (r.tests.run false response).results = leaves.flatMap (fun leaf =>
          Assertion.evaluate leaf.1 leaf.2 (leaf.1.extract response)) ∧
        leaves.map (·.1) = [.status, .header "x-id", .json "$.a", .json "$.b"] ∧
        ∀ leaf ∈ leaves, leaf ∈ [(.status, .number (.int 201)), (.header "x-id", .string "2"),
          (.json "$.a", .number (.int 3)), (.json "$.b", .number (.int 4))] := by
  obtain ⟨shared, layer, r, hshared, hlayer, hmerge⟩ : ∃ shared layer r,
      (readCommon [.key "common"] commonPart).outcome.1 = .ok shared ∧
        (readRequest [.key "requests"] ("login", loginPart)).outcome.1 = .ok layer ∧
        layer.merge (some shared) = .ok r :=
    ⟨_, _, _, rfl, rfl, rfl⟩
  refine ⟨shared, layer, r, hshared, hlayer, hmerge, fun response => ?_⟩
  have hcommon : (some commonPart).mapM (fun v => (readCommon [.key "common"] v).outcome.1) =
      .ok (some shared) := by
    rw [Option.mapM_some, hshared]
    rfl
  obtain ⟨leaves, hresults, hsources, _, _, hvalues⟩ :=
    results_run_declared hcommon hlayer hmerge response
  have hleaves : leaves.map (·.1) = [.status, .header "x-id", .json "$.a", .json "$.b"] := by
    rw [hsources]
    decide +kernel
  refine ⟨leaves, hresults, hleaves, ?_⟩
  rintro ⟨source, v⟩ hleaf
  have hsource : source ∈ leaves.map (·.1) := List.mem_map_of_mem hleaf
  have hvalue := hvalues _ hleaf
  rw [hleaves] at hsource
  simp only [List.mem_cons, List.not_mem_nil, or_false] at hsource
  rcases hsource with rfl | rfl | rfl | rfl <;> cases hvalue <;> simp

end Bundle

end RequestSuite
