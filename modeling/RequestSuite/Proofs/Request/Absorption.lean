import RequestSuite.Proofs.Request.Overlay
import RequestSuite.Request.Merge

/-!
# Merging a second time

A merged request can be written as a layer of its own, in which everything is set.  Laying it over
the same common layer changes nothing, although every part follows a rule of its own:
`RequestLayer.merge_toLayer` says that what is common has been absorbed.
-/

namespace RequestSuite

/-! ## The parts of a request -/

section

variable {α : Type}

theorem mergeEntries_absorb (common request : List (String × α)) :
    mergeEntries common (mergeEntries common request) = mergeEntries common request :=
  Table.ofPairs_append_ofPairs common request

theorem mergeHeaders_absorb (common request : List (String × α)) :
    mergeHeaders common (mergeHeaders common request) = mergeHeaders common request := by
  have habsorb := Table.ofPairs_map_absorb (fun h : String × α => (Text.lower h.1, h.2)) id
    (fun h => by rw [id, Text.lower_lower]) common request
  rwa [List.map_id] at habsorb

end

/-- All common parameters that could come back have given way already. -/
theorem mergeParams_absorb (common request : List Param) :
    mergeParams common (mergeParams common request) = mergeParams common request := by
  have hnone : common.filter
      (fun c => !(mergeParams common request).any fun r => r.name == c.name) = [] := by
    rw [List.filter_eq_nil_iff]
    intro c hc
    rw [Bool.not_eq_true, Bool.not_eq_false', mergeParams, List.any_append, Bool.or_eq_true]
    by_cases hrequest : request.any (fun r => r.name == c.name) = true
    · exact .inr hrequest
    · refine .inl (List.any_eq_true.mpr ⟨c, List.mem_filter.mpr ⟨hc, ?_⟩, beq_self_eq_true _⟩)
      rw [Bool.not_eq_true', ← Bool.not_eq_true]
      exact hrequest
  rw [mergeParams, hnone, List.nil_append]

theorem TestSection.merge_absorb (common request : TestSection) :
    common.merge (common.merge request) = common.merge request := by
  simp only [merge, mergeEntries_absorb, mergeHeaders_absorb, Option.or_assoc, Option.or_self]

theorem CaptureSection.merge_absorb (common request : CaptureSection) :
    common.merge (common.merge request) = common.merge request := by
  have hsetvars := Table.ofPairs_map_absorb (fun c : Capture => (c.target, c)) Prod.snd
    (fun _ => rfl) common.setvars request.setvars
  simp only [merge, mergeEntries_absorb, mergeHeaders_absorb, Option.or_assoc, Option.or_self,
    hsetvars]

theorem Options.merge_absorb (common request : Options (Option Bool)) :
    common.merge ((common.merge request).map some) = common.merge request :=
  rfl

/-! ## The whole request -/

/-- A request as a layer that sets everything. -/
def Request.toLayer (r : Request) : RequestLayer :=
  { name := r.name
    method := some r.method
    url := some r.url
    headers := r.headers
    params := r.params
    body := r.body
    options := r.options.map some
    tests := r.tests
    captures := r.captures }

namespace RequestLayer

variable {common : Option CommonLayer} {layer : RequestLayer} {r : Request}

/-- **What is common is absorbed.**  A merged request, laid over the same common layer once more,
comes out as it is. -/
theorem merge_toLayer (h : layer.merge common = .ok r) : r.toLayer.merge common = .ok r := by
  obtain ⟨method, url, hmethod, hurl, rfl⟩ := merge_eq_ok_iff.mp h
  -- The method counts as set by the request now, whichever layer it came from.
  have hblank : Text.isBlankText method = false := by
    rcases Option.or_eq_some_iff.mp hmethod with hown | ⟨-, hshared⟩
    · exact (nonBlank_eq_some_iff.mp hown).2
    · exact (nonBlank_eq_some_iff.mp hshared).2
  refine merge_eq_ok_iff.mpr ⟨Text.trim method, Text.trim url, ?_, ?_, ?_⟩
  · exact Option.or_eq_some_iff.mpr (.inl (nonBlank_trim hblank))
  · exact nonBlank_trim (nonBlank_eq_some_iff.mp hurl).2
  · simp only [completed, Request.toLayer, Text.trim_trim, mergeHeaders_absorb,
      mergeParams_absorb, TestSection.merge_absorb, CaptureSection.merge_absorb,
      Options.merge_absorb, Option.or_assoc, Option.or_self]

/-- A common layer with a header, parameters of two names, an option, a test and two captures. -/
def searchCommon : CommonLayer :=
  { baseUrl := some "http://host/"
    method := some " GET "
    headers := [("X-Id", .string "1"), ("Accept", .string "*/*")]
    params := [⟨"page", .number (.int 1), true⟩, ⟨"tag", .string "a", false⟩,
      ⟨"page", .number (.int 2), true⟩]
    options := { Options.unset with follow := some true }
    tests := { headers := [("Content-Type", .string "text/html")] }
    captures := { setvars := [⟨"id", .header "x-id"⟩, ⟨"all", .body⟩] } }

/-- A request that says some of this anew, in other letters and in another order. -/
def searchLayer : RequestLayer :=
  { name := "search"
    url := some " /search\n"
    headers := [("x-id", .string "2"), ("Via", .null), ("X-ID", .string "3")]
    params := [⟨"page", .number (.int 3), true⟩]
    body := some (.string "$q")
    tests := { status := some (.number (.int 200)), headers := [("content-type", .null)] }
    captures := { setvars := [⟨"token", .json "$.t"⟩, ⟨"id", .json "$.id"⟩] } }

/-- What both say together. -/
def searchRequest : Request :=
  { name := "search"
    method := "GET"
    baseUrl := some "http://host/"
    url := "/search"
    headers := [("x-id", .string "3"), ("accept", .string "*/*"), ("via", .null)]
    params := [⟨"tag", .string "a", false⟩, ⟨"page", .number (.int 3), true⟩]
    body := some (.string "$q")
    options := { Options.standard with follow := true }
    tests := { status := some (.number (.int 200)), headers := [("content-type", .null)] }
    captures := { setvars := [⟨"id", .json "$.id"⟩, ⟨"all", .body⟩, ⟨"token", .json "$.t"⟩] } }

theorem merge_toLayer_search : searchLayer.merge (some searchCommon) = .ok searchRequest ∧
    searchRequest.toLayer.merge (some searchCommon) = .ok searchRequest :=
  ⟨rfl, merge_toLayer (rfl : searchLayer.merge (some searchCommon) = .ok searchRequest)⟩

end RequestLayer

end RequestSuite
