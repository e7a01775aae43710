import Mathlib.Data.List.Forall2
import RequestSuite.Bundle.Reader
import RequestSuite.Request.Merge

/-!
# Lists and maps

Headers and parameters may be written as a list of names and values or as a map.  Both notations
tell entries (`TellsHeaders`, `TellsParams`), a list of parameters by its items, and a map of
parameters by its fields with one entry for each element of a list.  What is read depends on the
entries only, at every place and for every kind of value, and so two documents that are alike but
for these notations are the same bundle (`Bundle.ofText_alike`).
-/

namespace RequestSuite

namespace Bundle

open Reading

/-! ## The entries that are told -/

/-- Whether an item of a list tells an entry. -/
structure IsItem (item : Value) (e : String × Value) : Prop where
  name : item.field? "name" = some (.string e.1)
  value : item.field? "value" = some e.2

/-- Whether an item of a list of parameters tells an entry that is encoded. -/
structure IsEncodedItem (item : Value) (e : String × Value) : Prop extends IsItem item e where
  encode : ∀ flag, item.field? "encode" = some flag → flag = .bool true

/-- Entries with one for each element in place of an entry with a list. -/
def spread (entries : List (String × Value)) : List (String × Value) :=
  entries.flatMap fun e =>
    match e.2 with
    | .array vs => vs.map fun v => (e.1, v)
    | v => [(e.1, v)]

/-- Entries as items of a list. -/
def listed (entries : List (String × Value)) : List Value :=
  entries.map fun e => .object [("name", .string e.1), ("value", e.2)]

/-- Whether a list or a map of headers tells entries. -/
inductive TellsHeaders : Value → List (String × Value) → Prop
  | map (entries : List (String × Value)) : TellsHeaders (.object entries) entries
  | list {items : List Value} {entries : List (String × Value)}
      (h : List.Forall₂ IsItem items entries) : TellsHeaders (.array items) entries

/-- Whether a list or a map of parameters tells entries, all of them encoded. -/
inductive TellsParams : Value → List (String × Value) → Prop
  | map (entries : List (String × Value)) : TellsParams (.object entries) (spread entries)
  | list {items : List Value} {entries : List (String × Value)}
      (h : List.Forall₂ IsEncodedItem items entries) : TellsParams (.array items) entries

/-- Whatever a map tells, a list can tell. -/
theorem forall₂_listed (entries : List (String × Value)) :
    List.Forall₂ IsEncodedItem (listed entries) entries :=
  List.forall₂_map_left_iff.mpr (List.forall₂_same.mpr fun _ _ => ⟨⟨rfl, rfl⟩, nofun⟩)

/-! ## Documents that differ in the notation -/

/-- Whether two values are the same, or tell the same entries. -/
def SameEntries (Tells : Value → List (String × Value) → Prop) (v v' : Value) : Prop :=
  v = v' ∨ ∃ entries, Tells v entries ∧ Tells v' entries

/-- Whether two values are the same, or maps with the same keys and related values under them. -/
def SameKeys (R : String → Value → Value → Prop) (v v' : Value) : Prop :=
  v = v' ∨ ∃ fields fields', v = .object fields ∧ v' = .object fields' ∧
    List.Forall₂ (fun f f' => f.1 = f'.1 ∧ R f.1 f.2 f'.2) fields fields'

theorem SameKeys.of_forall₂ {R : String → Value → Value → Prop} {fields fields' : Table Value}
    (h : List.Forall₂ (fun f f' => f.1 = f'.1 ∧ R f.1 f.2 f'.2) fields fields') :
    SameKeys R (.object fields) (.object fields') :=
  .inr ⟨fields, fields', rfl, rfl, h⟩

/-- Whether values under a key of a section of tests are alike but for the notation of headers. -/
def TestAlike : String → Value → Value → Prop
  | "headers" => SameEntries TellsHeaders
  | _ => Eq

/-- Whether values under a key of a request, or of what is said in common, are alike but for the
notations of headers and parameters. -/
def FieldAlike : String → Value → Value → Prop
  | "headers" => SameEntries TellsHeaders
  | "params" => SameEntries TellsParams
  | "tests" => SameKeys TestAlike
  | _ => Eq

/-- Whether values under a key at the top of a document are alike but for these notations. -/
def TopAlike : String → Value → Value → Prop
  | "common" => SameKeys FieldAlike
  | "requests" => SameKeys fun _ => SameKeys FieldAlike
  | _ => Eq

/-! ## What is read -/

/-- Items that are read whatever their places are all read. -/
theorem eachItem_eq_pure {α : Type} {step : Place → Value → Reading α} {items : List Value}
    {as : List α} (h : List.Forall₂ (fun v a => ∀ place, step place v = pure a) items as)
    (place : Place) (i : Nat) : eachItem place step i items = pure as := by
  induction h generalizing i with
  | nil => rfl
  | cons hfirst _ ih => rw [eachItem, hfirst, pure_bind, ih, pure_bind]

theorem IsItem.readPair_eq {item : Value} {e : String × Value} (h : IsItem item e) :
    ∃ fields, item = .object fields ∧ ∀ place, readPair place item = pure (e.1, e.2, fields) := by
  cases item with
  | object fs =>
    refine ⟨fs, rfl, fun place => ?_⟩
    have hname : Table.get? fs "name" = some (.string e.1) := h.name
    have hvalue : Table.get? fs "value" = some e.2 := h.value
    simp only [readPair, fields, requiredField, hname, hvalue, pure_bind, string]
  | _ => cases h.name

theorem IsItem.readHeaderItem_eq {item : Value} {e : String × Value} (h : IsItem item e)
    (place : Place) : readHeaderItem place item = pure e := by
  obtain ⟨fields, -, hpair⟩ := h.readPair_eq
  rw [readHeaderItem, hpair, pure_bind]

theorem IsEncodedItem.readParamItem_eq {item : Value} {e : String × Value}
    (h : IsEncodedItem item e) (place : Place) :
    readParamItem place item = pure ⟨e.1, e.2, true⟩ := by
  obtain ⟨fields, rfl, hpair⟩ := h.toIsItem.readPair_eq
  rw [readParamItem, hpair, pure_bind]
  rcases hencode : Table.get? fields "encode" with _ | flag
  · simp only [hencode, pure_bind]
  · cases h.encode flag hencode
    simp only [hencode, Reading.bool, pure_bind]

/-- The headers that are read are the entries that are told. -/
theorem TellsHeaders.readHeaders_eq {v : Value} {entries : List (String × Value)}
    (h : TellsHeaders v entries) (place : Place) : readHeaders place v = pure entries := by
  cases h with
  | map => rfl
  | list h => exact eachItem_eq_pure (h.imp fun _ _ hitem => hitem.readHeaderItem_eq) place 0

theorem flatMap_paramsOfField (entries : List (String × Value)) :
    (entries.flatMap fun e => paramsOfField e.1 e.2) =
      (spread entries).map fun e => ⟨e.1, e.2, true⟩ := by
  rw [spread, List.map_flatMap]
  congr 1
  funext e
  obtain ⟨name, v⟩ := e
  cases v <;> simp [paramsOfField]

/-- The parameters that are read are the entries that are told, and all of them are encoded. -/
theorem TellsParams.readParams_eq {v : Value} {entries : List (String × Value)}
    (h : TellsParams v entries) (place : Place) :
    readParams place v = pure (entries.map fun e => ⟨e.1, e.2, true⟩) := by
  cases h with
  | map entries => rw [readParams, flatMap_paramsOfField]
  | list h =>
    refine eachItem_eq_pure (List.forall₂_map_right_iff.mpr (h.imp ?_)) place 0
    exact fun _ _ hitem => hitem.readParamItem_eq

/-! ## Alike documents are read alike -/

section

variable {α β : Type} {R : String → Value → Value → Prop} {v v' : Value}
  {get : Value → Reading (Table Value)}

/-- Going through the fields of a map gives the same for maps with the same keys if no step tells
related values apart. -/
theorem SameKeys.foldlM_eq {step : β → String × Value → Reading β} (h : SameKeys R v v')
    (hget : ∀ fields, get (.object fields) = pure fields)
    (hstep : ∀ b key w w', R key w w' → step b (key, w) = step b (key, w')) (b : β) :
    (get v >>= fun fields => fields.foldlM step b) =
      get v' >>= fun fields => fields.foldlM step b := by
  rcases h with rfl | ⟨fs, fs', rfl, rfl, h⟩
  · rfl
  · rw [hget, hget, pure_bind, pure_bind]
    induction h generalizing b with
    | nil => rfl
    | @cons f f' _ _ hfirst _ ih =>
      obtain ⟨key, w⟩ := f
      obtain ⟨_, w'⟩ := f'
      obtain ⟨rfl, hw⟩ := hfirst
      rw [List.foldlM_cons, List.foldlM_cons, hstep b key w w' hw]
      exact bind_congr ih

theorem SameKeys.mapM_eq {step : String × Value → Reading α} (h : SameKeys R v v')
    (hget : ∀ fields, get (.object fields) = pure fields)
    (hstep : ∀ key w w', R key w w' → step (key, w) = step (key, w')) :
    (get v >>= List.mapM step) = get v' >>= List.mapM step := by
  rcases h with rfl | ⟨fs, fs', rfl, rfl, h⟩
  · rfl
  · rw [hget, hget, pure_bind, pure_bind]
    induction h with
    | nil => rfl
    | @cons f f' _ _ hfirst _ ih =>
      obtain ⟨key, w⟩ := f
      obtain ⟨_, w'⟩ := f'
      obtain ⟨rfl, hw⟩ := hfirst
      rw [List.mapM_cons, List.mapM_cons, hstep key w w' hw, ih]

end

theorem readHeaders_eq_of_same {v v' : Value} (h : SameEntries TellsHeaders v v')
    (place : Place) : readHeaders place v = readHeaders place v' := by
  rcases h with rfl | ⟨entries, hv, hv'⟩
  · rfl
  · rw [hv.readHeaders_eq, hv'.readHeaders_eq]

theorem readParams_eq_of_same {v v' : Value} (h : SameEntries TellsParams v v')
    (place : Place) : readParams place v = readParams place v' := by
  rcases h with rfl | ⟨entries, hv, hv'⟩
  · rfl
  · rw [hv.readParams_eq, hv'.readParams_eq]

theorem readTest_eq_of_alike {key : String} {v v' : Value} (h : TestAlike key v v')
    (place : Place) (t : TestSection) : readTest place t (key, v) = readTest place t (key, v') := by
  unfold TestAlike at h
  split at h
  · simp only [readTest, readHeaders_eq_of_same h]
  · rw [h]

theorem readTests_eq_of_alike {v v' : Value} (h : SameKeys TestAlike v v') (place : Place) :
    readTests place v = readTests place v' := by
  refine h.foldlM_eq (fun _ => rfl) ?_ _
  intro t key w w' hw
  exact readTest_eq_of_alike hw place t

theorem readLayerField?_eq_of_alike {key : String} {v v' : Value} (h : FieldAlike key v v')
    (place : Place) (layer : Layer) :
    readLayerField? place layer key v = readLayerField? place layer key v' := by
  unfold FieldAlike at h
  split at h
  · simp only [readLayerField?, readHeaders_eq_of_same h]
  · simp only [readLayerField?, readParams_eq_of_same h]
  · simp only [readLayerField?, readTests_eq_of_alike h]
  · rw [h]

theorem readCommonField_eq_of_alike {key : String} {v v' : Value} (h : FieldAlike key v v')
    (place : Place) (common : CommonLayer) :
    readCommonField place common (key, v) = readCommonField place common (key, v') := by
  by_cases hkey : key = "baseUrl"
  · subst hkey
    obtain rfl : v = v' := h
    rfl
  · simp only [readCommonField, if_neg hkey, readLayerField?_eq_of_alike h]

theorem readRequestField_eq_of_alike {key : String} {v v' : Value} (h : FieldAlike key v v')
    (place : Place) (request : RequestLayer) :
    readRequestField place request (key, v) = readRequestField place request (key, v') := by
  by_cases hkey : key = "url"
  · subst hkey
    obtain rfl : v = v' := h
    rfl
  · simp only [readRequestField, if_neg hkey, readLayerField?_eq_of_alike h]

theorem readCommon_eq_of_alike {v v' : Value} (h : SameKeys FieldAlike v v') (place : Place) :
    readCommon place v = readCommon place v' := by
  refine h.foldlM_eq (fun _ => rfl) ?_ _
  intro common key w w' hw
  exact readCommonField_eq_of_alike hw place common

theorem readRequest_eq_of_alike {name : String} {v v' : Value} (h : SameKeys FieldAlike v v')
    (place : Place) : readRequest place (name, v) = readRequest place (name, v') := by
  -- A blank name is refused before the fields are looked at.
  have hfields : (fields (place.key name) v >>= fun fs =>
        fs.foldlM (readRequestField (place.key name)) { name := name }) =
      fields (place.key name) v' >>= fun fs =>
        fs.foldlM (readRequestField (place.key name)) { name := name } := by
    refine h.foldlM_eq (fun _ => rfl) ?_ _
    intro request key w w' hw
    exact readRequestField_eq_of_alike hw _ request
  simp only [readRequest, hfields]

theorem readRequests_eq_of_alike {v v' : Value}
    (h : SameKeys (fun _ => SameKeys FieldAlike) v v') (place : Place) :
    readRequests place v = readRequests place v' := by
  refine h.mapM_eq (fun _ => rfl) ?_
  intro name w w' hw
  exact readRequest_eq_of_alike hw place

theorem readTopField_eq_of_alike {key : String} {v v' : Value} (h : TopAlike key v v')
    (b : Bundle) : readTopField b (key, v) = readTopField b (key, v') := by
  unfold TopAlike at h
  split at h
  · simp only [readTopField, readCommon_eq_of_alike h]
  · simp only [readTopField, readRequests_eq_of_alike h]
  · rw [h]

/-- Documents that are alike but for the notations are read as the same bundle, or are refused for
the same reason, and with the same notices. -/
theorem ofValue_eq_of_alike {v v' : Value} (h : SameKeys TopAlike v v') :
    ofValue v = ofValue v' := by
  refine h.foldlM_eq (fun _ => rfl) ?_ _
  intro b key w w' hw
  exact readTopField_eq_of_alike hw b

/-! ## Bundles -/

/-- The value that a text holds if it is not blank. -/
def document? (content : String) : Option Value :=
  if Text.isBlankText content then none else (Yaml.readValue content).toOption

/-- The requests of a bundle with what is said about them in common. -/
def effective (b : Bundle) : List (Except MissingField Request) :=
  b.requests.map fun layer => layer.merge b.common

theorem document?_eq_some_iff {content : String} {v : Value} : document? content = some v ↔
    Text.isBlankText content = false ∧ Yaml.readValue content = .ok v := by
  unfold document?
  rcases hblank : Text.isBlankText content with _ | _
  · rcases hread : Yaml.readValue content with fault | w <;> simp [Except.toOption]
  · simp

/-- A text that is not blank is read by its document alone. -/
theorem ofText_of_document {content : String} {v : Value} (h : document? content = some v) :
    ofText content = (match (ofValue v).outcome.1 with
      | .error e => .error (.schema e)
      | .ok b => if b.requests.isEmpty then .error .noRequests else .ok b,
      (ofValue v).outcome.2) := by
  obtain ⟨hblank, hread⟩ := document?_eq_some_iff.mp h
  simp only [ofText, hblank, hread]
  rcases (ofValue v).outcome with ⟨e | b, notices⟩ <;> rfl

theorem ofText_eq_of_alike {content content' : String} {v v' : Value}
    (hv : document? content = some v) (hv' : document? content' = some v')
    (h : SameKeys TopAlike v v') : ofText content = ofText content' := by
  obtain ⟨hblank, hread⟩ := document?_eq_some_iff.mp hv
  obtain ⟨hblank', hread'⟩ := document?_eq_some_iff.mp hv'
  simp only [ofText, hblank, hblank', hread, hread', ofValue_eq_of_alike h]

/-- **Lists and maps are interchangeable.**  A map of headers and a list that tells its entries are
read alike, and so are a map of parameters and a list that tells an entry for each element of a
list in the map.  Texts whose documents differ in nothing but these notations are the same bundle
with the same notices, or refused for the same reason, and its requests are the same when they are
merged with what is said in common. -/
theorem ofText_alike :
    (∀ place entries items, List.Forall₂ IsItem items entries →
      readHeaders place (.object entries) = pure entries ∧
        readHeaders place (.array items) = pure entries) ∧
    (∀ place entries items, List.Forall₂ IsEncodedItem items (spread entries) →
      readParams place (.object entries) =
          pure ((spread entries).map fun e => ⟨e.1, e.2, true⟩) ∧
        readParams place (.array items) = readParams place (.object entries)) ∧
    ∀ content content' v v', document? content = some v → document? content' = some v' →
      SameKeys TopAlike v v' → ofText content = ofText content' ∧
        ∀ b, (ofText content).1 = .ok b →
          ∃ b', (ofText content').1 = .ok b' ∧ b'.effective = b.effective := by
  refine ⟨fun place entries items h => ⟨rfl, (TellsHeaders.list h).readHeaders_eq place⟩,
    fun place entries items h => ?_, fun content content' v v' hv hv' halike => ?_⟩
  · have hmap := (TellsParams.map entries).readParams_eq place
    exact ⟨hmap, ((TellsParams.list h).readParams_eq place).trans hmap.symm⟩
  · have hsame := ofText_eq_of_alike hv hv' halike
    refine ⟨hsame, fun b hb => ⟨b, ?_, rfl⟩⟩
    rw [← hsame, hb]

/-- A document with maps for its headers and parameters. -/
def mappedText : String :=
  "requests:\n r:\n  url: /\n  method: get\n  tests:\n   headers:\n    X:\n  params:\n" ++
    "   a: [1, []]\n   b: []\n"

/-- The same document with lists. -/
def listedText : String :=
  "requests:\n r:\n  url: /\n  method: get\n  tests:\n   headers:\n   - name: X\n     value:\n" ++
    "  params:\n  - name: a\n    value: 1\n  - name: a\n    value: []\n"

/-- The document, whatever its notations. -/
def written (headers params : Value) : Value :=
  .object [("requests", .object [("r", .object [("url", .string "/"), ("method", .string "get"),
    ("tests", .object [("headers", headers)]), ("params", params)])])]

/-- What the document is made of differs in its notations only. -/
theorem alike_written {headers headers' params params' : Value}
    (hheaders : SameEntries TellsHeaders headers headers')
    (hparams : SameEntries TellsParams params params') :
    SameKeys TopAlike (written headers params) (written headers' params') := by
  have htests : SameKeys TestAlike (.object [("headers", headers)])
      (.object [("headers", headers')]) := .of_forall₂ (.cons ⟨rfl, hheaders⟩ .nil)
  have hrequests : SameKeys (fun _ => SameKeys FieldAlike)
      (.object [("r", .object [("url", .string "/"), ("method", .string "get"),
        ("tests", .object [("headers", headers)]), ("params", params)])])
      (.object [("r", .object [("url", .string "/"), ("method", .string "get"),
        ("tests", .object [("headers", headers')]), ("params", params')])]) :=
    .of_forall₂ (.cons ⟨rfl, .of_forall₂ (.cons ⟨rfl, rfl⟩ (.cons ⟨rfl, rfl⟩
      (.cons ⟨rfl, htests⟩ (.cons ⟨rfl, hparams⟩ .nil))))⟩ .nil)
  exact .of_forall₂ (.cons ⟨rfl, hrequests⟩ .nil)

/-- The parameters in the map: a list with a list in it, and an empty list. -/
def mappedParams : List (String × Value) :=
  [("a", .array [.number (.int 1), .array []]), ("b", .array [])]

/-- One of the lists is taken apart, the list in it is not, and nothing is left of the empty one. -/
theorem ofText_alike_written :
    readHeaders [.key "headers"] (.array (listed [("X", .null)])) = pure [("X", .null)] ∧
      readParams [.key "params"] (.array (listed [("a", .number (.int 1)), ("a", .array [])])) =
        readParams [.key "params"] (.object mappedParams) ∧
      ofText mappedText = ofText listedText ∧
      ∃ b b', (ofText mappedText).1 = .ok b ∧ (ofText listedText).1 = .ok b' ∧
        b'.effective = b.effective := by
  obtain ⟨hheaders, hparams, htexts⟩ := ofText_alike
  have hitems : List.Forall₂ IsItem (listed [("X", .null)]) [("X", .null)] :=
    (forall₂_listed _).imp fun _ _ h => h.toIsItem
  have hspread := forall₂_listed (spread mappedParams)
  have halike : SameKeys TopAlike (written (.object [("X", .null)]) (.object mappedParams))
      (written (.array (listed [("X", .null)])) (.array (listed (spread mappedParams)))) :=
    alike_written (.inr ⟨_, .map _, .list hitems⟩) (.inr ⟨_, .map _, .list hspread⟩)
  have hmapped : document? mappedText =
      some (written (.object [("X", .null)]) (.object mappedParams)) := by decide +kernel
  have hlist : document? listedText =
      some (written (.array (listed [("X", .null)])) (.array (listed (spread mappedParams)))) := by
    decide +kernel
  obtain ⟨hsame, heffective⟩ := htexts _ _ _ _ hmapped hlist halike
  have hok : (ofText mappedText).1.isOk = true := by
    obtain ⟨hblank, hread⟩ := document?_eq_some_iff.mp hmapped
    simp only [ofText, hblank, hread]
    decide +kernel
  refine ⟨(hheaders _ _ _ hitems).2, (hparams _ _ _ hspread).2, hsame, ?_⟩
  rcases hb : (ofText mappedText).1 with e | b
  · rw [hb] at hok
    cases hok
  · obtain ⟨b', hb', hbb'⟩ := heffective b hb
    exact ⟨b, b', rfl, hb', hbb'⟩

end Bundle

end RequestSuite
