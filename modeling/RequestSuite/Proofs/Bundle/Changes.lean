import RequestSuite.Proofs.Bundle.Collecting

/-!
# What the keys of a bundle change

Reading a map goes through its keys.  What is read under a key is a change, which tells the key, and
changes under different keys can be made in any order: each of them is to a part of the result that
no other key changes.  The two sections of captures change parts of the same value, but not the same
parts (`LayerChange.apply_comm`).
-/

namespace RequestSuite

/-! ## Changes -/

namespace Options

variable {α : Type} {name name' : String}

/-- The options with the option of a name set, if there is one. -/
def set (o : Options α) (name : String) (value : α) : Options α :=
  (o.set? name value).getD o

theorem set_comm (h : name ≠ name') (value value' : α) (o : Options α) :
    (o.set name value).set name' value' = (o.set name' value').set name value := by
  unfold set set?
  split <;> split <;> first | rfl | contradiction

/-- Whether there is an option of a name does not depend on the options. -/
theorem isSome_set? (name : String) (value value' : α) (o o' : Options α) :
    (o.set? name value).isSome = (o'.set? name value').isSome := by
  unfold set?
  split <;> rfl

end Options

/-- What a key of a section of captures changes. -/
inductive CaptureChange where
  | status (target : String)
  | body (target : String)
  | headers (targets : List (String × String))
  | json (targets : List (String × String))

namespace CaptureChange

/-- The key that makes a change. -/
def key : CaptureChange → String
  | status _ => "status"
  | body _ => "body"
  | headers _ => "headers"
  | json _ => "json"

/-- A section of captures after a change. -/
def apply (c : CaptureSection) : CaptureChange → CaptureSection
  | status target => { c with status := some target }
  | body target => { c with body := some target }
  | headers targets => { c with headers := targets }
  | json targets => { c with json := targets }

theorem apply_comm (c : CaptureSection) {change change' : CaptureChange}
    (h : change.key ≠ change'.key) :
    apply (apply c change) change' = apply (apply c change') change := by
  cases change <;> cases change' <;> first | rfl | exact absurd rfl h

/-- Captures in the short notation are left alone. -/
theorem foldl_apply_setvars (changes : List CaptureChange) (c : CaptureSection)
    (setvars : List Capture) :
    changes.foldl apply { c with setvars := setvars } =
      { changes.foldl apply c with setvars := setvars } := by
  induction changes generalizing c with
  | nil => rfl
  | cons change rest ih =>
    rw [List.foldl_cons, List.foldl_cons, ← ih]
    cases change <;> rfl

end CaptureChange

/-- What a key of a layer changes. -/
inductive LayerChange where
  | method (method : String)
  | headers (headers : List (String × Value))
  | params (params : List Param)
  | body (body : Value)
  | options (options : Options (Option Bool))
  | tests (tests : TestSection)
  | captures (changes : List CaptureChange)
  | setvars (setvars : List Capture)

namespace LayerChange

/-- The key that makes a change. -/
def key : LayerChange → String
  | method _ => "method"
  | headers _ => "headers"
  | params _ => "params"
  | body _ => "body"
  | options _ => "options"
  | tests _ => "tests"
  | captures _ => "capture"
  | setvars _ => "setvars"

/-- A layer after a change. -/
def apply (l : Layer) : LayerChange → Layer
  | method s => { l with method := some s }
  | headers hs => { l with headers := hs }
  | params ps => { l with params := ps }
  | body v => { l with body := some v }
  | options o => { l with options := o }
  | tests t => { l with tests := t }
  | captures changes => { l with captures := changes.foldl CaptureChange.apply l.captures }
  | setvars cs => { l with captures := { l.captures with setvars := cs } }

theorem apply_comm (l : Layer) {change change' : LayerChange} (h : change.key ≠ change'.key) :
    apply (apply l change) change' = apply (apply l change') change := by
  cases change <;> cases change'
  -- The two sections that change captures.
  case captures.setvars => simp only [apply, CaptureChange.foldl_apply_setvars]
  case setvars.captures => simp only [apply, CaptureChange.foldl_apply_setvars]
  all_goals first | rfl | exact absurd rfl h

end LayerChange

/-- What a key changes that stands in common or in a request. -/
inductive FieldChange where
  /-- Of the key that only the one or the other has. -/
  | own (s : String)
  | shared (change : LayerChange)
  | unknown (key : String)

namespace FieldChange

/-- The key that makes a change. -/
def key (ownKey : String) : FieldChange → String
  | own _ => ownKey
  | shared change => change.key
  | unknown key => key

/-- What is said in common after a change. -/
def applyCommon (c : CommonLayer) : FieldChange → CommonLayer
  | own s => { c with baseUrl := some s }
  | shared change => { c with toLayer := change.apply c.toLayer }
  | unknown _ => c

/-- What is said about a request after a change. -/
def applyRequest (r : RequestLayer) : FieldChange → RequestLayer
  | own s => { r with url := some s }
  | shared change => { r with toLayer := change.apply r.toLayer }
  | unknown _ => r

/-- What a change does to the layer in what contains it. -/
def applyLayer (l : Layer) : FieldChange → Layer
  | shared change => change.apply l
  | own _ | unknown _ => l

theorem toLayer_applyCommon (c : CommonLayer) (change : FieldChange) :
    (change.applyCommon c).toLayer = change.applyLayer c.toLayer := by
  cases change <;> rfl

theorem toLayer_applyRequest (r : RequestLayer) (change : FieldChange) :
    (change.applyRequest r).toLayer = change.applyLayer r.toLayer := by
  cases change <;> rfl

variable {change change' : FieldChange} {ownKey : String}

theorem applyCommon_comm (c : CommonLayer) (h : change.key ownKey ≠ change'.key ownKey) :
    applyCommon (applyCommon c change) change' = applyCommon (applyCommon c change') change := by
  cases change <;> cases change'
  case own.own => exact absurd rfl h
  case shared.shared => simp only [applyCommon, LayerChange.apply_comm _ h]
  all_goals rfl

theorem applyRequest_comm (r : RequestLayer) (h : change.key ownKey ≠ change'.key ownKey) :
    applyRequest (applyRequest r change) change' =
      applyRequest (applyRequest r change') change := by
  cases change <;> cases change'
  case own.own => exact absurd rfl h
  case shared.shared => simp only [applyRequest, LayerChange.apply_comm _ h]
  all_goals rfl

end FieldChange

/-- What a key at the top of a document changes. -/
inductive TopChange where
  | common (common : CommonLayer)
  | requests (requests : List RequestLayer)
  | environments (environments : EnvironmentSet)
  | unknown (key : String)

namespace TopChange

/-- The key that makes a change. -/
def key : TopChange → String
  | common _ => "common"
  | requests _ => "requests"
  | environments _ => "variables"
  | unknown key => key

/-- A bundle after a change. -/
def apply (b : Bundle) : TopChange → Bundle
  | common c => { b with common := some c }
  | requests rs => { b with requests := rs }
  | environments es => { b with environments := es }
  | unknown _ => b

theorem apply_comm (b : Bundle) {change change' : TopChange} (h : change.key ≠ change'.key) :
    apply (apply b change) change' = apply (apply b change') change := by
  cases change <;> cases change' <;> first | rfl | exact absurd rfl h

end TopChange

namespace Bundle

open Reading

/-! ## Changes that are read -/

/-- The option that a key sets. -/
def readOptionChange (place : Place) (entry : String × Value) : Reading (String × Bool) := do
  let flag ← Reading.bool (place.key entry.1) entry.2
  match Options.unset.set? entry.1 (some flag) with
  | some _ => return (entry.1, flag)
  | none =>
    note (.unknownOption entry.1 place.text)
    return (entry.1, flag)

theorem readOption_eq (place : Place) (o : Options (Option Bool)) (entry : String × Value) :
    readOption place o entry =
      readOptionChange place entry >>= fun change => pure (o.set change.1 (some change.2)) := by
  unfold readOption readOptionChange
  rw [bind_assoc]
  refine bind_congr fun flag => ?_
  have hsome := Options.isSome_set? entry.1 (some flag) (some flag) o .unset
  rcases h : o.set? entry.1 (some flag) with _ | o' <;>
    rcases hunset : Options.unset.set? entry.1 (some flag) with _ | _ <;>
    rw [h, hunset] at hsome
  · simp only [Options.set, h, bind_assoc, pure_bind, Option.getD_none]
  · cases hsome
  · cases hsome
  · simp only [Options.set, h, pure_bind, Option.getD_some]

/-- What a key of a section of captures changes. -/
def readCaptureChange (place : Place) (entry : String × Value) : Reading CaptureChange := do
  let (key, v) := entry
  let place' := place.key key
  match key with
  | "status" => return .status (← string place' v)
  | "body" => return .body (← string place' v)
  | "headers" => return .headers (← (← fields place' v).mapM (readTarget place'))
  | "json" => return .json (← (← fields place' v).mapM (readTarget place'))
  | _ => refuse place' (.unknownCapture key)

theorem readCapture_eq (place : Place) (c : CaptureSection) (entry : String × Value) :
    readCapture place c entry =
      readCaptureChange place entry >>= fun change => pure (change.apply c) := by
  obtain ⟨key, v⟩ := entry
  unfold readCapture readCaptureChange
  dsimp only
  split <;> simp only [bind_assoc, pure_bind, CaptureChange.apply]
  rfl

/-- What all keys of a section of captures change. -/
def readCaptureChanges (place : Place) (v : Value) : Reading (List CaptureChange) := do
  (← sectionFields place v).mapM (readCaptureChange place)

theorem readCaptures_eq (place : Place) (c : CaptureSection) (v : Value) :
    readCaptures place c v =
      readCaptureChanges place v >>= fun changes => pure (changes.foldl CaptureChange.apply c) := by
  unfold readCaptures readCaptureChanges
  simp only [foldlM_eq_mapM (readCapture_eq place), bind_assoc]

/-- What a key of a layer changes, if it is one that requests and the common layer share. -/
def readLayerChange? (place : Place) (key : String) (v : Value) : Option (Reading LayerChange) :=
  let place := place.key key
  match key with
  | "method" => some do return .method (← string place v)
  | "headers" => some do return .headers (← readHeaders place v)
  | "params" => some do return .params (← readParams place v)
  | "body" => some (pure (.body v))
  | "options" => some do return .options (← readOptions place v)
  | "tests" => some do return .tests (← readTests place v)
  | "capture" => some do return .captures (← readCaptureChanges place v)
  | "setvars" => some do return .setvars (← readSetvars place v)
  | _ => none

theorem readLayerField?_eq (place : Place) (layer : Layer) (key : String) (v : Value) :
    readLayerField? place layer key v =
      (readLayerChange? place key v).map fun reading =>
        reading >>= fun change => pure (change.apply layer) := by
  unfold readLayerField? readLayerChange?
  dsimp only
  split <;> simp only [readCaptures_eq, Option.map_some, Option.map_none, bind_assoc, pure_bind,
    LayerChange.apply]

/-- What a key of a map changes that says something in common or about a request. -/
def readFieldChange (ownKey : String) (place : Place) (entry : String × Value) :
    Reading FieldChange := do
  let (key, v) := entry
  if key = ownKey then return .own (← string (place.key key) v)
  else
    match readLayerChange? place key v with
    | some change => return .shared (← change)
    | none =>
      note (.unknownKey key place.text)
      return .unknown key

theorem readCommonField_eq (place : Place) (common : CommonLayer) (entry : String × Value) :
    readCommonField place common entry =
      readFieldChange "baseUrl" place entry >>= fun change => pure (change.applyCommon common) := by
  obtain ⟨key, v⟩ := entry
  unfold readCommonField readFieldChange
  dsimp only
  rw [readLayerField?_eq]
  split
  · simp [FieldChange.applyCommon]
  · rcases readLayerChange? place key v with _ | reading <;> simp [FieldChange.applyCommon]

theorem readRequestField_eq (place : Place) (request : RequestLayer) (entry : String × Value) :
    readRequestField place request entry =
      readFieldChange "url" place entry >>= fun change => pure (change.applyRequest request) := by
  obtain ⟨key, v⟩ := entry
  unfold readRequestField readFieldChange
  dsimp only
  rw [readLayerField?_eq]
  split
  · simp [FieldChange.applyRequest]
  · rcases readLayerChange? place key v with _ | reading <;> simp [FieldChange.applyRequest]

/-- What a key at the top changes. -/
def readTopChange (entry : String × Value) : Reading TopChange := do
  let (key, v) := entry
  let place : Place := [.key key]
  match key with
  | "common" => return .common (← readCommon place v)
  | "requests" => return .requests (← readRequests place v)
  | "variables" => return .environments (← readEnvironments place v)
  | _ =>
    note (.unknownSection key)
    return .unknown key

theorem readTopField_eq (b : Bundle) (entry : String × Value) :
    readTopField b entry = readTopChange entry >>= fun change => pure (change.apply b) := by
  obtain ⟨key, v⟩ := entry
  unfold readTopField readTopChange
  dsimp only
  split <;> simp only [bind_assoc, pure_bind, TopChange.apply]

/-! ## Keys of changes -/

theorem key_readOptionChange {place : Place} {entry : String × Value} {change : String × Bool}
    (h : (readOptionChange place entry).Gives change) : change.1 = entry.1 := by
  obtain ⟨flag, -, h⟩ := h.bind
  split at h
  · rw [← gives_pure.mp h]
  · obtain ⟨_, -, rfl⟩ := h.of_map
    rfl

theorem key_readCaptureChange {place : Place} {entry : String × Value} {change : CaptureChange}
    (h : (readCaptureChange place entry).Gives change) : change.key = entry.1 := by
  obtain ⟨key, v⟩ := entry
  unfold readCaptureChange at h
  dsimp only at h
  split at h
  · obtain ⟨_, -, rfl⟩ := h.of_map
    rfl
  · obtain ⟨_, -, rfl⟩ := h.of_map
    rfl
  · obtain ⟨_, -, h⟩ := h.bind
    obtain ⟨_, -, rfl⟩ := h.of_map
    rfl
  · obtain ⟨_, -, h⟩ := h.bind
    obtain ⟨_, -, rfl⟩ := h.of_map
    rfl
  · exact (not_gives_refuse h).elim

theorem key_readLayerChange {place : Place} {key : String} {v : Value}
    {reading : Reading LayerChange} {change : LayerChange}
    (hkey : readLayerChange? place key v = some reading) (h : reading.Gives change) :
    change.key = key := by
  unfold readLayerChange? at hkey
  dsimp only at hkey
  split at hkey <;> cases hkey
  case h_4 =>
    obtain rfl := gives_pure.mp h
    rfl
  all_goals
    obtain ⟨_, -, rfl⟩ := h.of_map
    rfl

theorem key_readFieldChange {ownKey : String} {place : Place} {entry : String × Value}
    {change : FieldChange} (h : (readFieldChange ownKey place entry).Gives change) :
    change.key ownKey = entry.1 := by
  obtain ⟨key, v⟩ := entry
  unfold readFieldChange at h
  dsimp only at h
  split at h
  · rename_i hown
    obtain ⟨_, -, rfl⟩ := h.of_map
    exact hown.symm
  · split at h
    · rename_i reading hreading
      obtain ⟨_, hchange, rfl⟩ := h.of_map
      exact key_readLayerChange hreading hchange
    · obtain ⟨_, -, rfl⟩ := h.of_map
      rfl

theorem key_readTopChange {entry : String × Value} {change : TopChange}
    (h : (readTopChange entry).Gives change) : change.key = entry.1 := by
  obtain ⟨key, v⟩ := entry
  unfold readTopChange at h
  dsimp only at h
  split at h <;>
    obtain ⟨_, -, rfl⟩ := h.of_map <;>
    rfl

end Bundle

end RequestSuite
