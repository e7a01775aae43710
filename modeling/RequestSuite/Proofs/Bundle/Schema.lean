import RequestSuite.Proofs.Bundle.Declared
import RequestSuite.Proofs.Bundle.ListOrMap
import RequestSuite.Proofs.Yaml.DistinctKeys

/-!
# What a refused bundle is refused for

The schema of bundles, as a table: every part of a document has a role (`Role`), the role of a part
decides which roles the parts under it have (`Role.child`), and `Role.Violates` says, by itself and
without the reader, what is wrong with a value in a role.  `Bundle.ofValue_located` says that the
place of an error is the place of a part of the document, that its role is the one from the table,
and that the value there is itself what violates the schema.
-/

namespace RequestSuite

/-! ## The schema -/

/-- Of which kinds the values in a role have to be. -/
inductive Form where
  | map
  /-- A map that may be left blank. -/
  | optionalMap
  /-- A list or a map that may be left blank. -/
  | listOrMap
  | text
  | truth
deriving DecidableEq, Repr

namespace Form

/-- Whether a value is of one of the kinds. -/
def admits : Form → Value → Bool
  | map, .object _ => true
  | optionalMap, .object _ | optionalMap, .null => true
  | listOrMap, .array _ | listOrMap, .object _ | listOrMap, .null => true
  | text, .string _ => true
  | truth, .bool _ => true
  | _, _ => false

/-- What is wrong with a value of another kind. -/
def problem : Form → String → Problem
  | map, kind | optionalMap, kind => .notAMap kind
  | listOrMap, kind => .notAListOrMap kind
  | text, kind => .notAString kind
  | truth, kind => .notABoolean kind

end Form

/-- What a part of a document is there for. -/
inductive Role where
  | document
  | requests
  /-- What is said in common or about a request, with the key that only the one or the other has. -/
  | layer (ownKey : String)
  /-- Headers, or parameters, which may tell whether they are encoded. -/
  | pairs (encoded : Bool)
  | pair (encoded : Bool)
  | options
  | tests
  /-- A test under a key that is no section of tests. -/
  | test (key : String)
  | captures
  /-- A capture under a key that is no section of captures. -/
  | unknownCapture (key : String)
  /-- Variables, under the places from which they are captured. -/
  | targets
  | setvars
  | descriptor
  | environments
  /-- A map whose fields are taken as they are. -/
  | anyMap
  | text
  | truth
deriving DecidableEq, Repr

namespace Role

/-- Of which kinds the values in a role have to be; any will do where nothing is said. -/
def form? : Role → Option Form
  | document | requests | layer _ | pair _ | targets | anyMap => some .map
  | options | tests | captures | setvars | environments => some .optionalMap
  | pairs _ => some .listOrMap
  | text | descriptor => some .text
  | truth => some .truth
  | test _ | unknownCapture _ => none

/-- The role of what stands under a key of a layer, except the key of its own. -/
def ofLayerKey : String → Option Role
  | "method" => some text
  | "headers" => some (pairs false)
  | "params" => some (pairs true)
  | "options" => some options
  | "tests" => some tests
  | "capture" => some captures
  | "setvars" => some setvars
  | _ => none

/-- The role of what stands under a key of the tests. -/
def ofTestKey : String → Option Role
  | "status" | "body" => none
  | "headers" => some (pairs false)
  | "json" => some anyMap
  | key => some (test key)

/-- The role of what stands under a key of the captures. -/
def ofCaptureKey : String → Option Role
  | "status" | "body" => some text
  | "headers" | "json" => some targets
  | key => some (unknownCapture key)

/-- The role of what stands one step below; none where any value will do. -/
def child : Role → PlaceStep → Option Role
  | document, .key "common" => some (layer "baseUrl")
  | document, .key "requests" => some requests
  | document, .key "variables" => some environments
  | requests, .key _ => some (layer "url")
  | layer ownKey, .key key => if key = ownKey then some text else ofLayerKey key
  | pairs encoded, .index _ => some (pair encoded)
  | pair _, .key "name" => some text
  | pair true, .key "encode" => some truth
  | options, .key _ => some truth
  | tests, .key key => ofTestKey key
  | captures, .key key => ofCaptureKey key
  | targets, .key _ => some text
  | setvars, .key _ => some descriptor
  | environments, .key _ => some anyMap
  | _, _ => none

/-- The role of what stands at a place below. -/
def at? : Role → Place → Option Role
  | role, [] => some role
  | role, step :: rest => (role.child step).bind fun inner => inner.at? rest

/-- What is wrong with a value itself in its role. -/
inductive Violates : Role → Value → Problem → Prop
  | wrongKind {role : Role} (form : Form) {v : Value} (hform : role.form? = some form)
      (hv : form.admits v = false) : Violates role v (form.problem v.kind)
  | missingField {encoded : Bool} {fields : Table Value} {name : String}
      (hname : name ∈ ["name", "value"]) (hmissing : fields.get? name = none) :
      Violates (pair encoded) (.object fields) (.missingField name)
  | blankRequestName {fields : Table Value} {name : String} (hname : name ∈ fields.names)
      (hblank : Text.isBlankText name = true) :
      Violates requests (.object fields) .blankRequestName
  | emptyHeaderName {v : Value} : Violates (test "$h.") v .emptyHeaderName
  | unknownTest {key : String} {v : Value}
      (hheader : ∀ name, key.toList ≠ '$' :: 'h' :: '.' :: name)
      (hpath : Source.isPathText key.toList = false) : Violates (test key) v (.unknownTest key)
  | unknownCapture {key : String} {v : Value} :
      Violates (unknownCapture key) v (.unknownCapture key)
  | badDescriptor {s : String} {error : DescriptorError}
      (h : Source.ofDescriptor s = .error error) :
      Violates descriptor (.string s) (.badDescriptor error)

theorem document_child {step : PlaceStep} {inner : Role}
    (h : document.child step = some inner) :
    ∃ part ∈ ["common", "requests", "variables"], step = .key part := by
  cases step with
  | index i => cases h
  | key name =>
    refine ⟨name, ?_, rfl⟩
    by_contra hname
    simp only [List.mem_cons, List.not_mem_nil, or_false, not_or] at hname
    simp [child, hname] at h

end Role

/-! ## Errors and the parts they are about -/

/-- How a step below the top is written. -/
def PlaceStep.written : PlaceStep → String
  | .key name => "." ++ name
  | .index i => "[" ++ toString i ++ "]"

namespace Place

theorem textAfter_eq_join (place : Place) :
    place.textAfter = String.join (place.map PlaceStep.written) := by
  induction place with
  | nil => rfl
  | cons step rest ih =>
    rw [List.map_cons, String.join_cons, ← ih]
    cases step <;> rfl

theorem node?_cons (step : PlaceStep) (rest : Place) (v : Value) :
    node? (step :: rest) v = (node? [step] v).bind (node? rest) := by
  cases step with
  | key name =>
    simp only [node?]
    cases v.field? name <;> rfl
  | index i =>
    cases v with
    | array items =>
      simp only [node?]
      cases items[i]? <;> rfl
    | _ => rfl

theorem node?_key_of_mem {fields : List (String × Value)}
    (h : (Value.object fields).HasDistinctKeys) {e : String × Value} (he : e ∈ fields) :
    node? [.key e.1] (.object fields) = some e.2 := by
  have hget : Table.get? fields e.1 = some e.2 := Table.get?_of_mem h.nodup_names he
  simp only [node?, Value.field?, hget]
  rfl

end Place

/-- Whether an error is about a part of a document. -/
structure SchemaError.IsAbout (e : SchemaError) (v : Value) : Prop where
  /-- The part is there, and it violates the schema by itself. -/
  violates : ∃ node role, e.place.node? v = some node ∧ Role.document.at? e.place = some role ∧
    role.Violates node e.problem
  /-- The part is the whole document or stands in a part that is read, and its place is written
  as the steps to it. -/
  written : (e.place = [] ∧ e.place.text = "<root>") ∨
    ∃ part ∈ ["common", "requests", "variables"], ∃ rest, e.place = .key part :: rest ∧
      e.place.text = part ++ String.join (rest.map PlaceStep.written)

namespace Bundle

open Reading Role

/-- Whether an error is about a part of a value at a place, given the role of the whole: the part is
there, and it violates the schema itself. -/
def Blames (role : Role) (place : Place) (v : Value) (e : SchemaError) : Prop :=
  ∃ rest node inner, e.place = place ++ rest ∧ rest.node? v = some node ∧
    role.at? rest = some inner ∧ inner.Violates node e.problem

variable {role inner : Role} {place : Place} {v : Value} {e : SchemaError}

theorem blames_here {problem : Problem} (h : role.Violates v problem) :
    Blames role place v ⟨place, problem⟩ :=
  ⟨[], v, role, (List.append_nil place).symm, rfl, rfl, h⟩

/-- What is about a part of a part is about a part of the whole. -/
theorem Blames.below (step : PlaceStep) {w : Value} (h : Blames inner (place ++ [step]) w e)
    (hchild : role.child step = some inner) (hnode : Place.node? [step] v = some w) :
    Blames role place v e := by
  obtain ⟨rest, node, last, hplace, hrest, hrole, hviolates⟩ := h
  refine ⟨step :: rest, node, last, ?_, ?_, ?_, hviolates⟩
  · rw [hplace, List.append_assoc, List.singleton_append]
  · rw [Place.node?_cons, hnode]
    exact hrest
  · rw [at?, hchild]
    exact hrole

/-! ## Single values and maps -/

theorem blames_string (role : Role) (hform : role.form? = some .text)
    (h : (string place v).Refuses e) : Blames role place v e := by
  cases v with
  | string s => exact (not_refuses_pure h).elim
  | _ =>
    obtain rfl := refuses_refuse.mp h
    exact blames_here (.wrongKind _ hform rfl)

theorem blames_bool (h : (Reading.bool place v).Refuses e) : Blames .truth place v e := by
  cases v with
  | bool b => exact (not_refuses_pure h).elim
  | _ =>
    obtain rfl := refuses_refuse.mp h
    exact blames_here (.wrongKind .truth rfl rfl)

theorem blames_fields (role : Role) (hform : role.form? = some .map)
    (h : (fields place v).Refuses e) : Blames role place v e := by
  cases v with
  | object fields => exact (not_refuses_pure h).elim
  | _ =>
    obtain rfl := refuses_refuse.mp h
    exact blames_here (.wrongKind _ hform rfl)

theorem blames_sectionFields (role : Role) (hform : role.form? = some .optionalMap)
    (h : (sectionFields place v).Refuses e) : Blames role place v e := by
  cases v with
  | object fields => exact (not_refuses_pure h).elim
  | null => exact (not_refuses_pure h).elim
  | _ =>
    obtain rfl := refuses_refuse.mp h
    exact blames_here (.wrongKind _ hform rfl)

theorem entries_of_gives_fields {entries : Table Value} (h : (fields place v).Gives entries) :
    v.entries = entries := by
  rw [gives_fields h]
  rfl

theorem eq_object_of_mem_entries {entry : String × Value} (h : entry ∈ v.entries) :
    v = .object v.entries := by
  cases v with
  | object fields => rfl
  | _ => cases h

/-- What is about a field of a map is about a part of the map. -/
theorem Blames.entry {entry : String × Value} (h : Blames inner (place.key entry.1) entry.2 e)
    (hv : v.HasDistinctKeys) (hentry : entry ∈ v.entries)
    (hchild : role.child (.key entry.1) = some inner) : Blames role place v e := by
  have hobject := eq_object_of_mem_entries hentry
  rw [hobject] at hv
  refine h.below _ hchild ?_
  rw [hobject]
  exact Place.node?_key_of_mem hv hentry

theorem hasDistinctKeys_of_mem_entries {entry : String × Value} (hv : v.HasDistinctKeys)
    (hentry : entry ∈ v.entries) : entry.2.HasDistinctKeys := by
  rw [eq_object_of_mem_entries hentry] at hv
  exact hv.of_mem_fields hentry

section

variable {σ α : Type} {get : Reading (Table Value)}

/-- A map whose fields are read one after the other is refused because of itself or of a part. -/
theorem blames_foldlM {step : σ → String × Value → Reading σ} {s : σ}
    (hget : ∀ entries, get.Gives entries → v.entries = entries)
    (hmap : get.Refuses e → Blames role place v e)
    (hstep : ∀ s entry, entry.2.HasDistinctKeys → (step s entry).Refuses e →
      ∃ inner, role.child (.key entry.1) = some inner ∧
        Blames inner (place.key entry.1) entry.2 e)
    (hv : v.HasDistinctKeys) (h : Refuses (get >>= fun entries => entries.foldlM step s) e) :
    Blames role place v e := by
  rcases h.bind with hrefused | ⟨entries, hentries, h⟩
  · exact hmap hrefused
  · obtain ⟨entry, hentry, s, hrefused⟩ := h.foldlM
    rw [← hget entries hentries] at hentry
    have hinner := hasDistinctKeys_of_mem_entries hv hentry
    obtain ⟨inner, hchild, hblames⟩ := hstep s entry hinner hrefused
    exact hblames.entry hv hentry hchild

theorem refuses_mapM_entries {step : String × Value → Reading α}
    (hget : ∀ entries, get.Gives entries → v.entries = entries)
    (h : Refuses (get >>= List.mapM step) e) :
    get.Refuses e ∨ ∃ entry ∈ v.entries, (step entry).Refuses e := by
  rcases h.bind with h | ⟨entries, hentries, h⟩
  · exact .inl h
  · rw [hget entries hentries]
    exact .inr h.mapM

theorem blames_mapM {step : String × Value → Reading α}
    (hget : ∀ entries, get.Gives entries → v.entries = entries)
    (hmap : get.Refuses e → Blames role place v e)
    (hstep : ∀ entry, (step entry).Refuses e → ∃ inner,
      role.child (.key entry.1) = some inner ∧ Blames inner (place.key entry.1) entry.2 e)
    (hv : v.HasDistinctKeys) (h : Refuses (get >>= List.mapM step) e) :
    Blames role place v e := by
  rcases refuses_mapM_entries hget h with hrefused | ⟨entry, hentry, hrefused⟩
  · exact hmap hrefused
  · obtain ⟨inner, hchild, hblames⟩ := hstep entry hrefused
    exact hblames.entry hv hentry hchild

end

/-! ## Headers and parameters -/

theorem blames_requiredField {encoded : Bool} {entry : Table Value} {name : String}
    (hname : name ∈ ["name", "value"]) (h : (requiredField place entry name).Refuses e) :
    Blames (.pair encoded) place (.object entry) e := by
  unfold requiredField at h
  split at h
  · exact (not_refuses_pure h).elim
  · rename_i hmissing
    obtain rfl := refuses_refuse.mp h
    exact blames_here (.missingField hname hmissing)

theorem blames_readPair {encoded : Bool} (h : (readPair place v).Refuses e) :
    Blames (.pair encoded) place v e := by
  rcases h.bind with hmap | ⟨entry, hentry, hfield⟩
  · exact blames_fields _ rfl hmap
  obtain rfl := gives_fields hentry
  rcases hfield.bind with hmissing | ⟨name, hname, htext⟩
  · exact blames_requiredField (by simp) hmissing
  rcases htext.bind with hstring | ⟨_, _, hvalue⟩
  · refine (blames_string .text rfl hstring).below _ (by cases encoded <;> rfl) ?_
    simp only [Place.node?, Value.field?, gives_requiredField hname]
    rfl
  · exact blames_requiredField (by simp) hvalue.of_map

theorem blames_readHeaderItem (h : (readHeaderItem place v).Refuses e) :
    Blames (.pair false) place v e :=
  blames_readPair h.of_map

theorem blames_readParamItem (h : (readParamItem place v).Refuses e) :
    Blames (.pair true) place v e := by
  rcases h.bind with hpair | ⟨⟨name, value, entry⟩, hpair, hencode⟩
  · exact blames_readPair hpair
  obtain ⟨fields, hfields, hpair⟩ := hpair.bind
  obtain ⟨_, -, hpair⟩ := hpair.bind
  obtain ⟨_, -, hpair⟩ := hpair.bind
  obtain ⟨_, -, hpair⟩ := hpair.bind
  cases gives_pure.mp hpair
  obtain rfl := gives_fields hfields
  dsimp only at hencode
  split at hencode
  · rename_i flag hflag
    refine (blames_bool hencode.of_map).below _ rfl ?_
    simp only [Place.node?, Value.field?, hflag]
    rfl
  · exact (not_refuses_pure hencode.of_map).elim

/-- Items of a list are at their positions. -/
theorem blames_eachItem {α : Type} {step : Place → Value → Reading α} {encoded : Bool}
    {items : List Value}
    (hstep : ∀ place v, (step place v).Refuses e → Blames (.pair encoded) place v e)
    (h : (eachItem place step 0 items).Refuses e) :
    Blames (.pairs encoded) place (.array items) e := by
  obtain ⟨i, item, hitem, hrefused⟩ := h.eachItem
  rw [Nat.zero_add] at hrefused
  refine (hstep _ item hrefused).below (.index i) rfl ?_
  simp only [Place.node?, hitem]
  rfl

theorem blames_readHeaders (h : (readHeaders place v).Refuses e) :
    Blames (.pairs false) place v e := by
  cases v with
  | null => exact (not_refuses_pure h).elim
  | object entries => exact (not_refuses_pure h).elim
  | array items => exact blames_eachItem (fun _ _ => blames_readHeaderItem) h
  | _ =>
    obtain rfl := refuses_refuse.mp h
    exact blames_here (.wrongKind .listOrMap rfl rfl)

theorem blames_readParams (h : (readParams place v).Refuses e) :
    Blames (.pairs true) place v e := by
  cases v with
  | null => exact (not_refuses_pure h).elim
  | object entries => exact (not_refuses_pure h).elim
  | array items => exact blames_eachItem (fun _ _ => blames_readParamItem) h
  | _ =>
    obtain rfl := refuses_refuse.mp h
    exact blames_here (.wrongKind .listOrMap rfl rfl)

/-! ## Options, tests and captures -/

theorem blames_readOption {o : Options (Option Bool)} {entry : String × Value}
    (h : (readOption place o entry).Refuses e) :
    Blames .truth (place.key entry.1) entry.2 e := by
  rcases h.bind with hflag | ⟨flag, -, hset⟩
  · exact blames_bool hflag
  · split at hset
    · exact (not_refuses_pure hset).elim
    · exact (not_refuses_note hset.of_map).elim

theorem blames_readOptions (hv : v.HasDistinctKeys) (h : (readOptions place v).Refuses e) :
    Blames .options place v e :=
  blames_foldlM (fun _ => gives_sectionFields) (blames_sectionFields _ rfl)
    (fun _ _ _ hoption => ⟨.truth, rfl, blames_readOption hoption⟩) hv h

/-- A test is refused because of what stands under its key. -/
theorem blames_readTest {t : TestSection} {entry : String × Value}
    (h : (readTest place t entry).Refuses e) :
    ∃ inner, Role.tests.child (.key entry.1) = some inner ∧
      Blames inner (place.key entry.1) entry.2 e := by
  obtain ⟨key, v⟩ := entry
  unfold readTest at h
  simp only at h
  split at h
  · exact (not_refuses_pure h).elim
  · exact (not_refuses_pure h).elim
  · exact ⟨_, rfl, blames_readHeaders h.of_map⟩
  · exact ⟨_, rfl, blames_fields .anyMap rfl h.of_map⟩
  · refine ⟨.test key, by simp only [child, ofTestKey], ?_⟩
    split at h
    · rename_i name hname
      split at h
      · rename_i hempty
        obtain rfl := refuses_refuse.mp h
        rw [List.isEmpty_iff.mp hempty] at hname
        obtain rfl : key = "$h." := String.toList_inj.mp hname
        exact blames_here .emptyHeaderName
      · exact (not_refuses_pure h).elim
    · rename_i hheader
      split at h
      · exact (not_refuses_pure h).elim
      · rename_i hpath
        obtain rfl := refuses_refuse.mp h
        exact blames_here (.unknownTest hheader (by simpa using hpath))

theorem blames_readTests (hv : v.HasDistinctKeys) (h : (readTests place v).Refuses e) :
    Blames .tests place v e :=
  blames_foldlM (fun _ => gives_sectionFields) (blames_sectionFields _ rfl)
    (fun _ _ _ => blames_readTest) hv h

theorem blames_targets (hv : v.HasDistinctKeys)
    (h : Refuses (fields place v >>= List.mapM (readTarget place)) e) :
    Blames .targets place v e :=
  blames_mapM (fun _ => entries_of_gives_fields) (blames_fields _ rfl)
    (fun _ htarget => ⟨.text, rfl, blames_string _ rfl htarget.of_map⟩) hv h

/-- A capture is refused because of what stands under its key. -/
theorem blames_readCapture {c : CaptureSection} {entry : String × Value}
    (hv : entry.2.HasDistinctKeys) (h : (readCapture place c entry).Refuses e) :
    ∃ inner, Role.captures.child (.key entry.1) = some inner ∧
      Blames inner (place.key entry.1) entry.2 e := by
  obtain ⟨key, v⟩ := entry
  unfold readCapture at h
  simp only at h
  split at h
  · exact ⟨_, rfl, blames_string .text rfl h.of_map⟩
  · exact ⟨_, rfl, blames_string .text rfl h.of_map⟩
  · rw [← bind_assoc] at h
    exact ⟨_, rfl, blames_targets hv h.of_map⟩
  · rw [← bind_assoc] at h
    exact ⟨_, rfl, blames_targets hv h.of_map⟩
  · obtain rfl := refuses_refuse.mp h
    exact ⟨.unknownCapture key, by simp only [child, ofCaptureKey], blames_here .unknownCapture⟩

theorem blames_readCaptures {c : CaptureSection} (hv : v.HasDistinctKeys)
    (h : (readCaptures place c v).Refuses e) : Blames .captures place v e :=
  blames_foldlM (fun _ => gives_sectionFields) (blames_sectionFields _ rfl)
    (fun _ _ => blames_readCapture) hv h

theorem blames_readSetvar {entry : String × Value} (h : (readSetvar place entry).Refuses e) :
    Blames .descriptor (place.key entry.1) entry.2 e := by
  rcases h.bind with hstring | ⟨s, hs, hsource⟩
  · exact blames_string _ rfl hstring
  · rw [gives_string hs]
    split at hsource
    · exact (not_refuses_pure hsource).elim
    · rename_i error herror
      obtain rfl := refuses_refuse.mp hsource
      exact blames_here (.badDescriptor herror)

theorem blames_readSetvars (hv : v.HasDistinctKeys) (h : (readSetvars place v).Refuses e) :
    Blames .setvars place v e :=
  blames_mapM (fun _ => gives_sectionFields) (blames_sectionFields _ rfl)
    (fun _ hsetvar => ⟨.descriptor, rfl, blames_readSetvar hsetvar⟩) hv h

/-! ## Layers -/

/-- A field that requests and the common layer share is refused because of what stands there. -/
theorem blames_readLayerField {layer : Layer} {key : String} {reading : Reading Layer}
    (hv : v.HasDistinctKeys) (hkey : readLayerField? place layer key v = some reading)
    (h : reading.Refuses e) :
    ∃ inner, ofLayerKey key = some inner ∧ Blames inner (place.key key) v e := by
  unfold readLayerField? at hkey
  simp only at hkey
  split at hkey <;> cases hkey
  case h_1 => exact ⟨_, rfl, blames_string .text rfl h.of_map⟩
  case h_2 => exact ⟨_, rfl, blames_readHeaders h.of_map⟩
  case h_3 => exact ⟨_, rfl, blames_readParams h.of_map⟩
  case h_4 => exact (not_refuses_pure h).elim
  case h_5 => exact ⟨_, rfl, blames_readOptions hv h.of_map⟩
  case h_6 => exact ⟨_, rfl, blames_readTests hv h.of_map⟩
  case h_7 => exact ⟨_, rfl, blames_readCaptures hv h.of_map⟩
  case h_8 => exact ⟨_, rfl, blames_readSetvars hv h.of_map⟩

/-- A field of a layer is refused because of what stands there, be it the field of its own or one
of the shared ones; a key without meaning is never refused. -/
theorem blames_layerField {σ : Type} {set : String → σ} {setLayer : Layer → σ} {s : σ}
    {ownKey : String} {entry : String × Value} {layer : Layer} {notice : Notice}
    (hv : entry.2.HasDistinctKeys)
    (h : Refuses (if entry.1 = ownKey then do return set (← string (place.key entry.1) entry.2)
      else match readLayerField? place layer entry.1 entry.2 with
      | some reading => do return setLayer (← reading)
      | none => do
        note notice
        return s) e) :
    ∃ inner, (Role.layer ownKey).child (.key entry.1) = some inner ∧
      Blames inner (place.key entry.1) entry.2 e := by
  split at h
  · rename_i hkey
    exact ⟨.text, by rw [child, if_pos hkey], blames_string _ rfl h.of_map⟩
  · rename_i hkey
    rw [child, if_neg hkey]
    split at h
    · rename_i reading hreading
      exact blames_readLayerField hv hreading h.of_map
    · exact (not_refuses_note h.of_map).elim

theorem blames_readCommon (hv : v.HasDistinctKeys) (h : (readCommon place v).Refuses e) :
    Blames (.layer "baseUrl") place v e :=
  blames_foldlM (fun _ => entries_of_gives_fields) (blames_fields _ rfl)
    (fun _ _ => blames_layerField) hv h

/-- A request is refused because of its name, or because of what stands under the name. -/
theorem blames_readRequest {entry : String × Value} (hv : entry.2.HasDistinctKeys)
    (h : (readRequest place entry).Refuses e) :
    (Text.isBlankText entry.1 = true ∧ e = ⟨place, .blankRequestName⟩) ∨
      Blames (.layer "url") (place.key entry.1) entry.2 e := by
  unfold readRequest at h
  split at h
  · rename_i hblank
    rcases h.bind with hrefused | ⟨_, hgiven, _⟩
    · exact .inl ⟨hblank, refuses_refuse.mp hrefused⟩
    · exact (not_gives_refuse hgiven).elim
  · exact .inr (blames_foldlM (fun _ => entries_of_gives_fields) (blames_fields _ rfl)
      (fun _ _ => blames_layerField) hv h)

theorem blames_readRequests (hv : v.HasDistinctKeys) (h : (readRequests place v).Refuses e) :
    Blames .requests place v e := by
  rcases refuses_mapM_entries (fun _ => entries_of_gives_fields) h with
    hmap | ⟨entry, hentry, hrequest⟩
  · exact blames_fields _ rfl hmap
  rcases blames_readRequest (hasDistinctKeys_of_mem_entries hv hentry) hrequest with
    ⟨hblank, rfl⟩ | hblames
  · rw [eq_object_of_mem_entries hentry]
    exact blames_here (.blankRequestName (List.mem_map_of_mem hentry) hblank)
  · exact hblames.entry hv hentry rfl

theorem blames_readEnvironments (hv : v.HasDistinctKeys)
    (h : (readEnvironments place v).Refuses e) : Blames .environments place v e := by
  unfold readEnvironments at h
  rw [← bind_assoc] at h
  exact blames_mapM (fun _ => gives_sectionFields) (blames_sectionFields _ rfl)
    (fun _ henvironment => ⟨.anyMap, rfl, blames_fields _ rfl henvironment.of_map⟩) hv h.of_map

/-! ## Documents -/

theorem blames_readTopField {b : Bundle} {entry : String × Value} (hv : entry.2.HasDistinctKeys)
    (h : (readTopField b entry).Refuses e) :
    ∃ inner, Role.document.child (.key entry.1) = some inner ∧
      Blames inner (Place.key [] entry.1) entry.2 e := by
  obtain ⟨key, v⟩ := entry
  unfold readTopField at h
  simp only at h
  split at h
  · exact ⟨_, rfl, blames_readCommon hv h.of_map⟩
  · exact ⟨_, rfl, blames_readRequests hv h.of_map⟩
  · exact ⟨_, rfl, blames_readEnvironments hv h.of_map⟩
  · exact (not_refuses_note h.of_map).elim

theorem blames_ofValue (hv : v.HasDistinctKeys) (h : (ofValue v).Refuses e) :
    Blames .document [] v e :=
  blames_foldlM (fun _ => entries_of_gives_fields) (blames_fields _ rfl)
    (fun _ _ => blames_readTopField) hv h

/-! ## Refused documents -/

theorem isAbout_of_blames (h : Blames .document [] v e) :
    e.IsAbout v := by
  obtain ⟨place, node, role, hplace, hnode, hrole, hviolates⟩ := h
  rw [List.nil_append] at hplace
  refine ⟨⟨node, role, by rwa [hplace], by rwa [hplace], hviolates⟩, ?_⟩
  rw [hplace]
  cases place with
  | nil => exact .inl ⟨rfl, rfl⟩
  | cons step rest =>
    obtain ⟨inner, hchild, -⟩ := Option.bind_eq_some_iff.mp hrole
    obtain ⟨part, hpart, rfl⟩ := document_child hchild
    refine .inr ⟨part, hpart, rest, rfl, ?_⟩
    rw [Place.text, Place.textAfter_eq_join]

/-- A text that holds no document is not refused for what the schema says. -/
theorem ofText_of_no_document {content : String} (h : document? content = none) :
    (ofText content).1 ≠ .error (.schema e) := by
  unfold document? at h
  unfold ofText
  split at h
  · rename_i hblank
    simp [hblank]
  · rename_i hblank
    rcases hread : Yaml.readValue content with fault | v
    · simp [hblank]
    · rw [hread] at h
      cases h

theorem ofText_eq_schema_iff {content : String} : (ofText content).1 = .error (.schema e) ↔
    ∃ v, document? content = some v ∧ (ofValue v).outcome.1 = .error e := by
  constructor
  · intro h
    rcases hdocument : document? content with _ | v
    · exact (ofText_of_no_document hdocument h).elim
    rw [ofText_of_document hdocument] at h
    refine ⟨v, rfl, ?_⟩
    rcases houtcome : (ofValue v).outcome.1 with error | b
    · rw [houtcome] at h
      cases h
      rfl
    · simp only [houtcome] at h
      split at h <;> cases h
  · rintro ⟨v, hdocument, hrefused⟩
    rw [ofText_of_document hdocument, hrefused]

/-- **A refused document is refused for what is at the place of the error.**  If a document is
refused, then the place of the error is a place in the document, at the top or in a part that is
read, its text is made of the steps to it, and what is there violates by itself what the schema
says about its role.  The same holds of the document that a text is read as. -/
theorem ofValue_located :
    (∀ v e, v.HasDistinctKeys → (ofValue v).outcome.1 = .error e → e.IsAbout v) ∧
    ∀ content e, (ofText content).1 = .error (.schema e) →
      ∃ v, document? content = some v ∧ e.IsAbout v := by
  have hvalue : ∀ v e, v.HasDistinctKeys → (ofValue v).outcome.1 = .error e → e.IsAbout v :=
    fun v e hv h => isAbout_of_blames (blames_ofValue hv (refuses_of_outcome h))
  refine ⟨hvalue, fun content e h => ?_⟩
  obtain ⟨v, hdocument, hrefused⟩ := ofText_eq_schema_iff.mp h
  have hread := (document?_eq_some_iff.mp hdocument).2
  exact ⟨v, hdocument, hvalue v e (Yaml.hasDistinctKeys_of_readValue hread) hrefused⟩

/-- A document in which the name of a parameter is no text. -/
def misnamedText : String :=
  "requests:\n login:\n  url: /\n  params:\n  - name: a\n    value: 1\n  - name: 2\n    value: 3\n"

/-- The document that the text is read as. -/
def misnamed : Value :=
  .object [("requests", .object [("login", .object [("url", .string "/"), ("params", .array
    [.object [("name", .string "a"), ("value", .number (.int 1))],
     .object [("name", .number (.int 2)), ("value", .number (.int 3))]])])])]

/-- The error is about the name, in the second item of the list. -/
theorem ofValue_located_misnamed :
    misnamed.HasDistinctKeys ∧ ∃ e, (ofValue misnamed).outcome.1 = .error e ∧ e.IsAbout misnamed ∧
      (ofText misnamedText).1 = .error (.schema e) ∧
      (∃ v, document? misnamedText = some v ∧ e.IsAbout v) ∧
      e.message = "requests.login.params[1].name: expected a string, found number" := by
  obtain ⟨hvalue, htext⟩ := ofValue_located
  have hdocument : document? misnamedText = some misnamed := by decide +kernel
  have hdistinct := Yaml.hasDistinctKeys_of_readValue (document?_eq_some_iff.mp hdocument).2
  have hrefused : (ofValue misnamed).outcome.1 = .error ⟨[.key "requests", .key "login",
      .key "params", .index 1, .key "name"], .notAString "number"⟩ := by decide +kernel
  have hschema := ofText_eq_schema_iff.mpr ⟨misnamed, hdocument, hrefused⟩
  exact ⟨hdistinct, _, hrefused, hvalue _ _ hdistinct hrefused, hschema, htext _ _ hschema,
    by decide +kernel⟩

end Bundle

end RequestSuite
