import Mathlib.Data.List.Find
import RequestSuite.Proofs.Request.Overlay
import RequestSuite.Request.Merge

/-!
# What is merged by name

Headers, tests and captures of headers go by their names without regard to case, tests and captures
of paths by the paths, and captures in the short notation by their variables.  In each of these
lists a name comes once, at its first place and with its last value (`MergedBy`).  Where case does
not count, writing a name in other letters changes nothing, and a header is found under any
spelling.  `RequestLayer.merge_named` says this of a whole request.
-/

namespace RequestSuite

variable {α : Type}

/-! ## Merging by name -/

/-- Whether a list is what entries come to that are merged by their names in some spelling. -/
structure MergedBy (spelling : String → String) (entries merged : List (String × α)) : Prop where
  /-- No name comes twice. -/
  nodup : (merged.map (·.1)).Nodup
  /-- The names are those of the entries. -/
  names : ∀ name, name ∈ merged.map (·.1) ↔ ∃ e ∈ entries, spelling e.1 = name
  /-- The names stand in the order in which they come first. -/
  order : merged.map (·.1) = distinct (entries.map fun e => spelling e.1)
  /-- The value of a name is that of the last entry with the name. -/
  value : ∀ e ∈ merged, ∃ before written after, entries = before ++ (written, e.2) :: after ∧
    spelling written = e.1 ∧ ∀ d ∈ after, spelling d.1 ≠ e.1

/-- Entries with their names in some spelling. -/
def spelled (spelling : String → String) (entries : List (String × α)) : List (String × α) :=
  entries.map fun e => (spelling e.1, e.2)

theorem Overlay.mergedBy {spelling : String → String} {entries merged : List (String × α)}
    (h : Overlay merged (spelled spelling entries)) : MergedBy spelling entries merged := by
  have hkeys : merged.map (·.1) = distinct (entries.map fun e => spelling e.1) := by
    rw [h.keys, spelled, List.map_map]
    rfl
  refine ⟨hkeys ▸ nodup_distinct _, fun name => ?_, hkeys, fun e he => ?_⟩
  · rw [hkeys, mem_distinct, List.mem_map]
  · obtain ⟨before, after, hsplit, hafter⟩ := exists_of_lastValue (h.values e he)
    obtain ⟨before', rest, rfl, -, hrest⟩ := List.map_eq_append_iff.mp hsplit
    obtain ⟨⟨written, v⟩, after', rfl, hwritten, rfl⟩ := List.map_eq_cons_iff.mp hrest
    obtain ⟨hname, rfl⟩ := Prod.mk.inj hwritten
    exact ⟨before', written, after', rfl, hname, fun d hd => hafter _ (List.mem_map_of_mem hd)⟩

theorem mergedBy_mergeHeaders (common request : List (String × α)) :
    MergedBy Text.lower (common ++ request) (mergeHeaders common request) :=
  (Table.overlay_ofPairs _).mergedBy

theorem mergedBy_ofPairs (entries : List (String × α)) :
    MergedBy id entries (Table.ofPairs entries) := by
  have hspelled : spelled id entries = entries := List.map_id entries
  refine Overlay.mergedBy ?_
  rw [hspelled]
  exact Table.overlay_ofPairs entries

/-- Captures as entries under their variables. -/
def Capture.byTarget (captures : List Capture) : List (String × Capture) :=
  captures.map fun c => (c.target, c)

theorem Capture.byTarget_merge (common request : CaptureSection) :
    byTarget (common.merge request).setvars =
      Table.ofPairs (byTarget (common.setvars ++ request.setvars)) := by
  rw [CaptureSection.merge, byTarget, List.map_map]
  refine (List.map_congr_left fun e he => ?_).trans (List.map_id _)
  obtain ⟨c, -, rfl⟩ := List.mem_map.mp (Table.mem_of_mem_ofPairs he)
  rfl

theorem mergedBy_setvars (common request : CaptureSection) :
    MergedBy id (Capture.byTarget (common.setvars ++ request.setvars))
      (Capture.byTarget (common.merge request).setvars) :=
  Capture.byTarget_merge common request ▸ mergedBy_ofPairs _

/-! ## Letter case -/

theorem MergedBy.lower_name {entries merged : List (String × α)}
    (h : MergedBy Text.lower entries merged) : ∀ e ∈ merged, Text.lower e.1 = e.1 := by
  intro e he
  obtain ⟨d, -, hd⟩ := (h.names e.1).mp (List.mem_map_of_mem he)
  rw [← hd, Text.lower_lower]

/-- Merged headers are laid over each other by their names in lower case, whatever is made of the
names and values afterwards. -/
theorem overlay_mergeHeaders {β ι : Type} [DecidableEq ι] {f : String → ι} (hf : f.Injective)
    (g : String → α → β) (common request : List (String × α)) :
    Overlay
      ((mergeHeaders common request).map fun e => (f (Text.lower e.1), g (Text.lower e.1) e.2))
      ((common ++ request).map fun e => (f (Text.lower e.1), g (Text.lower e.1) e.2)) := by
  have hlower : (mergeHeaders common request).map
        (fun e => (f (Text.lower e.1), g (Text.lower e.1) e.2)) =
      (mergeHeaders common request).map fun e => (f e.1, g e.1 e.2) := by
    refine List.map_congr_left fun e he => ?_
    rw [(mergedBy_mergeHeaders common request).lower_name e he]
  have hentries := (Table.overlay_ofPairs (spelled Text.lower (common ++ request))).map hf g
  rw [spelled, List.map_map] at hentries
  rw [hlower]
  exact hentries

theorem mergeHeaders_spelled (common request : List (String × α)) :
    mergeHeaders (spelled Text.lower common) (spelled Text.lower request) =
      mergeHeaders common request := by
  simp only [mergeHeaders, spelled, List.map_append, List.map_map, Function.comp_def,
    Text.lower_lower]

/-- A layer with all names of headers in lower case.  Two layers differ in nothing but the case of
such names just if they are the same in lower case. -/
def Layer.lowered (l : Layer) : Layer :=
  { l with
    headers := spelled Text.lower l.headers
    tests := { l.tests with headers := spelled Text.lower l.tests.headers }
    captures := { l.captures with headers := spelled Text.lower l.captures.headers } }

/-- The common layer with all names of headers in lower case. -/
def CommonLayer.lowered (c : CommonLayer) : CommonLayer :=
  { c with toLayer := c.toLayer.lowered }

/-- The layer of a request with all names of headers in lower case. -/
def RequestLayer.lowered (l : RequestLayer) : RequestLayer :=
  { l with toLayer := l.toLayer.lowered }

theorem sharedLayer_lowered (common : Option CommonLayer) :
    sharedLayer (common.map CommonLayer.lowered) = (sharedLayer common).lowered := by
  cases common <;> rfl

/-- The case of names of headers makes no difference to merging. -/
theorem RequestLayer.merge_lowered (common : Option CommonLayer) (layer : RequestLayer) :
    layer.lowered.merge (common.map CommonLayer.lowered) = layer.merge common := by
  have hbase : (common.map CommonLayer.lowered).bind (·.baseUrl) = common.bind (·.baseUrl) := by
    cases common <;> rfl
  have hshared : ((common.map CommonLayer.lowered).map CommonLayer.toLayer).getD {} =
      (((common.map CommonLayer.toLayer).getD {}).lowered) := sharedLayer_lowered common
  simp only [merge, hshared, hbase, lowered, Layer.lowered, TestSection.merge,
    CaptureSection.merge, mergeHeaders_spelled]

/-! ## Looking for a header -/

theorem Table.get?_eq_find? (t : Table α) (name : String) :
    t.get? name = (t.find? fun e => e.1 = name).map (·.2) := by
  induction t with
  | nil => rfl
  | cons e rest ih =>
    rw [get?, List.find?_cons]
    by_cases h : e.1 = name
    · simp [h]
    · simp [h, ih]

/-- Where all names of headers are in lower case, a header is found by its name in lower case. -/
theorem Table.find?_eq_get?_lower {t : Table α} (h : ∀ e ∈ t, Text.lower e.1 = e.1)
    (name : String) : (t.find? fun e => Text.sameIgnoringCase e.1 name).map (·.2) =
      t.get? (Text.lower name) := by
  rw [get?_eq_find?]
  congr 1
  refine List.find?_congr fun e he => ?_
  rw [Text.sameIgnoringCase, h e he]
  rfl

theorem Request.header?_eq_get? {r : Request} (h : ∀ e ∈ r.headers, Text.lower e.1 = e.1)
    (name : String) : r.header? name = r.headers.get? (Text.lower name) :=
  Table.find?_eq_get?_lower h name

/-! ## Whole requests -/

namespace RequestLayer

/-- **What is merged by name.**  In each list of a merged request that is merged by name, a name
comes once, at the place of its first entry and with the value of its last one, the common entries
before those of the request.  Names of headers are written in lower case, so layers that differ in
the case of such names only give the same request, and a header is found under any spelling of its
name; under any other name no header is found. -/
theorem merge_named {common : Option CommonLayer} {layer : RequestLayer} {r : Request}
    (h : layer.merge common = .ok r) :
    let shared := sharedLayer common
    MergedBy Text.lower (shared.headers ++ layer.headers) r.headers ∧
    MergedBy Text.lower (shared.tests.headers ++ layer.tests.headers) r.tests.headers ∧
    MergedBy Text.lower (shared.captures.headers ++ layer.captures.headers) r.captures.headers ∧
    MergedBy id (shared.tests.json ++ layer.tests.json) r.tests.json ∧
    MergedBy id (shared.captures.json ++ layer.captures.json) r.captures.json ∧
    MergedBy id (Capture.byTarget (shared.captures.setvars ++ layer.captures.setvars))
      (Capture.byTarget r.captures.setvars) ∧
    (∀ common' layer', common'.map CommonLayer.lowered = common.map CommonLayer.lowered →
      RequestLayer.lowered layer' = layer.lowered → layer'.merge common' = .ok r) ∧
    (∀ e ∈ r.headers, ∀ name, Text.sameIgnoringCase e.1 name = true →
      r.header? name = some e.2) ∧
    ∀ name, r.header? name = none ↔
      ∀ e ∈ shared.headers ++ layer.headers, Text.sameIgnoringCase e.1 name = false := by
  intro shared
  obtain ⟨method, url, -, -, hr⟩ := merge_eq_ok_iff.mp h
  have hheaders : MergedBy Text.lower (shared.headers ++ layer.headers) r.headers :=
    hr ▸ mergedBy_mergeHeaders _ _
  refine ⟨hheaders, hr ▸ mergedBy_mergeHeaders _ _, hr ▸ mergedBy_mergeHeaders _ _,
    hr ▸ mergedBy_ofPairs _, hr ▸ mergedBy_ofPairs _, hr ▸ mergedBy_setvars _ _,
    fun common' layer' hcommon hlayer => ?_, fun e he name hname => ?_, fun name => ?_⟩
  · rw [← merge_lowered, hcommon, hlayer, merge_lowered, h]
  · rw [Request.header?_eq_get? hheaders.lower_name, ← eq_of_beq hname,
      hheaders.lower_name e he]
    exact Table.get?_of_mem hheaders.nodup he
  · rw [Request.header?_eq_get? hheaders.lower_name, Table.get?_eq_none_iff, Table.names,
      hheaders.names]
    simp [Text.sameIgnoringCase]

/-- A common layer with a header and a variable that come twice. -/
def namesCommon : CommonLayer :=
  { method := some "GET"
    headers := [("X-Id", .string "1"), ("Accept", .string "*/*"), ("x-ID", .string "2")]
    tests := { json := [("$.a", .null), ("$.A", .bool true)] }
    captures := { setvars := [⟨"id", .body⟩, ⟨"all", .body⟩, ⟨"id", .status⟩] } }

/-- A request that says some of this anew. -/
def namesLayer : RequestLayer :=
  { name := "names"
    url := some "http://host/"
    headers := [("via", .null), ("ACCEPT", .string "text/html")]
    tests := { json := [("$.A", .bool false)] }
    captures := { setvars := [⟨"ID", .status⟩, ⟨"all", .json "$"⟩] } }

/-- The same request with its headers in other letters. -/
def namesLayerRecased : RequestLayer :=
  { namesLayer with headers := [("VIA", .null), ("accepT", .string "text/html")] }

/-- Headers keep their places and change their values, in whatever letters they are written. -/
theorem merge_named_recased : ∃ r, namesLayer.merge (some namesCommon) = .ok r ∧
    r.headers =
      [("x-id", .string "2"), ("accept", .string "text/html"), ("via", .null)] ∧
    r.tests.json = [("$.a", .null), ("$.A", .bool false)] ∧
    r.captures.setvars = [⟨"id", .status⟩, ⟨"all", .json "$"⟩, ⟨"ID", .status⟩] ∧
    namesLayerRecased.merge (some namesCommon) = .ok r ∧
    r.header? "X-iD" = some (.string "2") ∧ r.header? "cookie" = none := by
  have hmerge : namesLayer.merge (some namesCommon) =
      .ok (namesLayer.completed namesCommon "GET" "http://host/") := rfl
  obtain ⟨-, -, -, -, -, -, hcase, hfound, hmissing⟩ := merge_named hmerge
  refine ⟨_, hmerge, rfl, rfl, rfl, hcase _ namesLayerRecased rfl (by decide), ?_, ?_⟩
  · exact hfound ("x-id", .string "2") (by decide) "X-iD" (by decide)
  · exact (hmissing "cookie").mpr (by decide)

end RequestLayer

end RequestSuite
