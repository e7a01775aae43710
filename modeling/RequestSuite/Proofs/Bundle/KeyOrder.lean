import RequestSuite.Proofs.Bundle.Changes
import RequestSuite.Proofs.Bundle.ListOrMap
import RequestSuite.Proofs.Yaml.DistinctKeys

/-!
# The order of keys

The fields of a map are read as changes that can be made in any order (`ReadsChanges`), so a map is
read alike if its keys are put in another order.  That holds at the top of a document, in common, in
requests, and in their options and captures, and documents that differ in nothing but such orders
are the same bundle, with the same notices in some order, or are both refused
(`Bundle.ofValue_keyOrder`).
-/

namespace RequestSuite

namespace Bundle

open Reading

/-! ## Maps with their keys in another order -/

/-- Whether two values are the same, or maps with the same keys, in whatever order, and with related
values under them. -/
def Reordered (R : String → Value → Value → Prop) (v v' : Value) : Prop :=
  v = v' ∨ ∃ fields mid fields', v = .object fields ∧ v' = .object fields' ∧
    List.Forall₂ (fun f f' => f.1 = f'.1 ∧ R f.1 f.2 f'.2) fields mid ∧ mid.Perm fields'

theorem map_eq_map_iff_forall₂ {α β γ : Type} {f : α → γ} {g : β → γ} {l : List α} {l' : List β} :
    l.map f = l'.map g ↔ List.Forall₂ (fun a b => f a = g b) l l' := by
  rw [← List.forall₂_eq_eq_eq, List.forall₂_map_left_iff, List.forall₂_map_right_iff]

section

variable {σ κ : Type} {R : String → Value → Value → Prop} {get : Value → Reading (Table Value)}
  {step : σ → String × Value → Reading σ} {read : String × Value → Reading κ}
  {change : σ → κ → σ} {key : κ → String}

/-- The fields of a map are read as changes. -/
structure ReadsChanges (step : σ → String × Value → Reading σ)
    (read : String × Value → Reading κ) (change : σ → κ → σ) (key : κ → String) : Prop where
  step_eq : ∀ s e, step s e = read e >>= fun c => pure (change s c)
  /-- Reading does not look at the notices. -/
  collects : ∀ e, Collects (read e)
  key_eq : ∀ e c, (read e).Gives c → key c = e.1
  comm : ∀ s c c', key c ≠ key c' → change (change s c) c' = change (change s c') c

variable {fields fields' : Table Value}

theorem ReadsChanges.collects_step (h : ReadsChanges step read change key) (s : σ)
    (e : String × Value) : Collects (step s e) := by
  have := h.collects
  rw [h.step_eq]
  infer_instance

theorem ReadsChanges.keys_eq (h : ReadsChanges step read change key) {changes : List κ}
    (hgives : Gives (fields.mapM read) changes) : Table.names fields = changes.map key :=
  map_eq_map_iff_forall₂.mpr (hgives.mapM.imp fun e c hc => (h.key_eq e c hc).symm)

/-- The changes under distinct keys can be made in any order. -/
theorem ReadsChanges.agree_perm (h : ReadsChanges step read change key)
    (hnames : (Table.names fields).Nodup) (hperm : fields.Perm fields') (s : σ) :
    Agree Eq (fields.foldlM step s) (fields'.foldlM step s) := by
  have := h.collects
  rw [foldlM_eq_mapM h.step_eq, foldlM_eq_mapM h.step_eq]
  refine (agree_mapM_perm hperm).bind fun changes changes' hgives hchanges => agree_pure ?_
  refine hchanges.foldl_eq' (fun c hc c' hc' s => ?_) s
  by_cases hkey : key c = key c'
  · obtain rfl : c = c' := List.inj_on_of_nodup_map (h.keys_eq hgives ▸ hnames) hc hc' hkey
    rfl
  · exact h.comm s c c' hkey

/-- Nor does it matter if the values are replaced by others that make the same changes. -/
theorem ReadsChanges.agree_reordered {v v' : Value} (h : ReadsChanges step read change key)
    (hget : ∀ fields, get (.object fields) = pure fields) (hv : v.HasDistinctKeys)
    (hreordered : Reordered R v v') (hR : ∀ s name w w', w.HasDistinctKeys → R name w w' →
      Agree Eq (step s (name, w)) (step s (name, w'))) (s : σ) :
    Agree Eq (get v >>= fun fields => fields.foldlM step s)
      (get v' >>= fun fields => fields.foldlM step s) := by
  have := h.collects_step
  obtain rfl | ⟨fields, mid, fields', rfl, rfl, hvalues, hperm⟩ := hreordered
  · exact agree_of_eq rfl
  rw [hget, hget, pure_bind, pure_bind]
  have hnames : Table.names fields = Table.names mid :=
    map_eq_map_iff_forall₂.mpr (hvalues.imp fun _ _ h => h.1)
  have hmid : Agree Eq (fields.foldlM step s) (mid.foldlM step s) := by
    have hdistinct : List.Forall₂ (fun f f' => f.2.HasDistinctKeys ∧ f.1 = f'.1 ∧ R f.1 f.2 f'.2)
        fields mid := (List.forall₂_and_left _ _).mpr ⟨fun f hf => hv.of_mem_fields hf, hvalues⟩
    refine agree_foldlM_forall₂ (hdistinct.imp ?_) s
    rintro ⟨name, w⟩ ⟨_, w'⟩ ⟨hw, rfl, hR'⟩ s
    exact hR s name w w' hw hR'
  refine hmid.trans (h.agree_perm (hnames ▸ hv.nodup_names) hperm s) fun _ _ _ => Eq.trans

end

/-! ## The readers of maps -/

section

variable (place : Place)

instance (entry : String × Value) : Collects (readOptionChange place entry) := by
  unfold readOptionChange
  refine @Collects.bind _ _ _ _ _ fun flag => ?_
  split <;> infer_instance

instance (entry : String × Value) : Collects (readCaptureChange place entry) := by
  unfold readCaptureChange
  dsimp only
  split <;> infer_instance

instance (v : Value) : Collects (readCaptureChanges place v) := by
  unfold readCaptureChanges
  infer_instance

theorem readsChanges_options :
    ReadsChanges (readOption place) (readOptionChange place)
      (fun o change => o.set change.1 (some change.2)) Prod.fst where
  step_eq := readOption_eq place
  collects _ := inferInstance
  key_eq _ _ := key_readOptionChange
  comm o _ _ h := Options.set_comm h _ _ o

theorem readsChanges_captures :
    ReadsChanges (readCapture place) (readCaptureChange place) CaptureChange.apply
      CaptureChange.key where
  step_eq := readCapture_eq place
  collects _ := inferInstance
  key_eq _ _ := key_readCaptureChange
  comm c _ _ := CaptureChange.apply_comm c

instance (v : Value) : Collects (readOptions place v) := by
  have := (readsChanges_options place).collects_step
  unfold readOptions
  infer_instance

theorem collects_readLayerChange {place : Place} {key : String} {v : Value}
    {reading : Reading LayerChange} (h : readLayerChange? place key v = some reading) :
    Collects reading := by
  unfold readLayerChange? at h
  dsimp only at h
  split at h <;> cases h <;> infer_instance

instance (ownKey : String) (entry : String × Value) :
    Collects (readFieldChange ownKey place entry) := by
  unfold readFieldChange
  dsimp only
  split
  · infer_instance
  · split
    · rename_i reading hreading
      have := collects_readLayerChange hreading
      infer_instance
    · infer_instance

theorem readsChanges_common :
    ReadsChanges (readCommonField place) (readFieldChange "baseUrl" place) FieldChange.applyCommon
      (FieldChange.key "baseUrl") where
  step_eq := readCommonField_eq place
  collects _ := inferInstance
  key_eq _ _ := key_readFieldChange
  comm c _ _ := FieldChange.applyCommon_comm c

theorem readsChanges_request :
    ReadsChanges (readRequestField place) (readFieldChange "url" place) FieldChange.applyRequest
      (FieldChange.key "url") where
  step_eq := readRequestField_eq place
  collects _ := inferInstance
  key_eq _ _ := key_readFieldChange
  comm r _ _ := FieldChange.applyRequest_comm r

instance (v : Value) : Collects (readCommon place v) := by
  have := (readsChanges_common place).collects_step
  unfold readCommon
  infer_instance

instance (entry : String × Value) : Collects (readRequest place entry) := by
  have := (readsChanges_request (place.key entry.1)).collects_step
  unfold readRequest
  dsimp only
  split <;> infer_instance

instance (v : Value) : Collects (readRequests place v) := by
  unfold readRequests
  infer_instance

instance (entry : String × Value) : Collects (readTopChange entry) := by
  unfold readTopChange
  dsimp only
  split <;> infer_instance

theorem readsChanges_top :
    ReadsChanges readTopField readTopChange TopChange.apply TopChange.key where
  step_eq := readTopField_eq
  collects _ := inferInstance
  key_eq _ _ := key_readTopChange
  comm b _ _ := TopChange.apply_comm b

end

/-! ## Documents with their keys in another order -/

/-- Whether values under a key of a request, or of what is said in common, are the same but for the
order of keys. -/
def FieldReordered : String → Value → Value → Prop
  | "options" | "capture" => Reordered fun _ => Eq
  | _ => Eq

/-- Whether values under a key at the top of a document are the same but for the order of keys. -/
def TopReordered : String → Value → Value → Prop
  | "common" => Reordered FieldReordered
  | "requests" => SameKeys fun _ => Reordered FieldReordered
  | _ => Eq

section

variable {v v' : Value} {place : Place}

theorem agree_readOptions (hv : v.HasDistinctKeys) (h : Reordered (fun _ => Eq) v v') :
    Agree Eq (readOptions place v) (readOptions place v') := by
  refine (readsChanges_options place).agree_reordered (fun _ => rfl) hv h ?_ _
  rintro o name w _ - rfl
  exact agree_of_eq rfl

theorem agree_readCaptures (hv : v.HasDistinctKeys) (h : Reordered (fun _ => Eq) v v')
    (c : CaptureSection) : Agree Eq (readCaptures place c v) (readCaptures place c v') := by
  refine (readsChanges_captures place).agree_reordered (fun _ => rfl) hv h ?_ _
  rintro c name w _ - rfl
  exact agree_of_eq rfl

/-- What a key of a layer says is read alike, if anything is read. -/
theorem agree_readLayerField {key : String} (hv : v.HasDistinctKeys) (h : FieldReordered key v v')
    (layer : Layer) : Option.Rel (Agree Eq) (readLayerField? place layer key v)
      (readLayerField? place layer key v') := by
  unfold FieldReordered at h
  split at h
  · refine .some ((agree_readOptions hv h).bind ?_)
    rintro o _ - rfl
    exact agree_pure rfl
  · refine .some ((agree_readCaptures hv h _).bind ?_)
    rintro c _ - rfl
    exact agree_pure rfl
  · subst h
    rcases readLayerField? place layer key v with _ | reading
    · exact .none
    · exact .some (agree_of_eq rfl)

/-- The same for what contains a layer, where a key without meaning changes nothing. -/
theorem agree_layerField {σ : Type} {field field' : Option (Reading Layer)} {setLayer : Layer → σ}
    {s : σ} {notice : Notice} : Option.Rel (Agree Eq) field field' →
    Agree Eq (match field with
      | some layer => do return setLayer (← layer)
      | none => do
        note notice
        return s) (match field' with
      | some layer => do return setLayer (← layer)
      | none => do
        note notice
        return s) := by
  intro h
  cases h with
  | none => exact agree_of_eq rfl
  | some h =>
    refine h.bind ?_
    rintro layer _ - rfl
    exact agree_pure rfl

theorem agree_readCommonField {key : String} (hv : v.HasDistinctKeys)
    (h : FieldReordered key v v') (common : CommonLayer) :
    Agree Eq (readCommonField place common (key, v)) (readCommonField place common (key, v')) := by
  by_cases hkey : key = "baseUrl"
  · subst hkey
    obtain rfl : v = v' := h
    exact agree_of_eq rfl
  · simp only [readCommonField, if_neg hkey]
    exact agree_layerField (agree_readLayerField hv h common.toLayer)

theorem agree_readRequestField {key : String} (hv : v.HasDistinctKeys)
    (h : FieldReordered key v v') (request : RequestLayer) :
    Agree Eq (readRequestField place request (key, v))
      (readRequestField place request (key, v')) := by
  by_cases hkey : key = "url"
  · subst hkey
    obtain rfl : v = v' := h
    exact agree_of_eq rfl
  · simp only [readRequestField, if_neg hkey]
    exact agree_layerField (agree_readLayerField hv h request.toLayer)

theorem agree_readCommon (hv : v.HasDistinctKeys) (h : Reordered FieldReordered v v') :
    Agree Eq (readCommon place v) (readCommon place v') :=
  (readsChanges_common place).agree_reordered (fun _ => rfl) hv h
    (fun common _ _ _ hw hR => agree_readCommonField hw hR common) _

theorem agree_readRequest {name : String} (hv : v.HasDistinctKeys)
    (h : Reordered FieldReordered v v') :
    Agree Eq (readRequest place (name, v)) (readRequest place (name, v')) := by
  unfold readRequest
  dsimp only
  split
  · exact .refused rfl rfl
  · exact (readsChanges_request _).agree_reordered (fun _ => rfl) hv h
      (fun request _ _ _ hw hR => agree_readRequestField hw hR request) _

theorem agree_readRequests (hv : v.HasDistinctKeys)
    (h : SameKeys (fun _ => Reordered FieldReordered) v v') :
    Agree Eq (readRequests place v) (readRequests place v') := by
  obtain rfl | ⟨requests, requests', rfl, rfl, hrequests⟩ := h
  · exact agree_of_eq rfl
  have hdistinct := (List.forall₂_and_left _ _).mpr ⟨fun _ => hv.of_mem_fields, hrequests⟩
  have hread : Agree (List.Forall₂ Eq) (requests.mapM (readRequest place))
      (requests'.mapM (readRequest place)) := by
    refine agree_mapM_forall₂ (hdistinct.imp ?_)
    rintro ⟨name, w⟩ ⟨_, w'⟩ ⟨hw, rfl, hR⟩
    exact agree_readRequest hw hR
  rwa [List.forall₂_eq_eq_eq] at hread

theorem agree_readTopField {key : String} (hv : v.HasDistinctKeys) (h : TopReordered key v v')
    (b : Bundle) : Agree Eq (readTopField b (key, v)) (readTopField b (key, v')) := by
  unfold TopReordered at h
  split at h
  · refine (agree_readCommon hv h).bind ?_
    rintro common _ - rfl
    exact agree_pure rfl
  · refine (agree_readRequests hv h).bind ?_
    rintro requests _ - rfl
    exact agree_pure rfl
  · subst h
    exact agree_of_eq rfl

theorem agree_ofValue (hv : v.HasDistinctKeys) (h : Reordered TopReordered v v') :
    Agree Eq (ofValue v) (ofValue v') :=
  readsChanges_top.agree_reordered (fun _ => rfl) hv h
    (fun b _ _ _ hw hR => agree_readTopField hw hR b) _

end

/-! ## The two sections of captures -/

/-- What a section of captures holds is what the two sections of a map tell, each read by itself. -/
structure ToldApart (place : Place) (v : Value) (c : CaptureSection) : Prop where
  captures : (readCaptures (place.key "capture") {} ((v.field? "capture").getD .null)).Gives
    { c with setvars := [] }
  setvars : (readSetvars (place.key "setvars") ((v.field? "setvars").getD .null)).Gives c.setvars

/-- What a field does to the captures: they stay as they are, unless it is one of the sections. -/
def CapturesAfter (place : Place) (field : String × Value) (c c' : CaptureSection) : Prop :=
  if field.1 = "capture" then (readCaptures (place.key "capture") c field.2).Gives c'
  else if field.1 = "setvars" then
    ∃ setvars, (readSetvars (place.key "setvars") field.2).Gives setvars ∧
      c' = { c with setvars := setvars }
  else c' = c

theorem capturesAfter_of_ne {place : Place} {field : String × Value} (h : field.1 ≠ "capture")
    (h' : field.1 ≠ "setvars") (c : CaptureSection) : CapturesAfter place field c c := by
  rw [CapturesAfter, if_neg h, if_neg h']

theorem capturesAfter_readLayerChange {place : Place} {key : String} {v : Value}
    {reading : Reading LayerChange} {change : LayerChange}
    (hkey : readLayerChange? place key v = some reading) (h : reading.Gives change) (l : Layer) :
    CapturesAfter place (key, v) l.captures (change.apply l).captures := by
  unfold readLayerChange? at hkey
  dsimp only at hkey
  split at hkey <;> cases hkey
  case h_4 =>
    -- A body is taken as it is, without being read.
    obtain rfl := gives_pure.mp h
    rfl
  case h_7 =>
    obtain ⟨changes, hchanges, rfl⟩ := h.of_map
    rw [CapturesAfter, if_pos rfl, readCaptures_eq]
    exact hchanges.map fun changes => changes.foldl CaptureChange.apply l.captures
  case h_8 =>
    obtain ⟨setvars, hsetvars, rfl⟩ := h.of_map
    exact ⟨setvars, hsetvars, rfl⟩
  all_goals
    obtain ⟨_, -, rfl⟩ := h.of_map
    rfl

/-- The key of its own says nothing about captures, and neither does a key without meaning. -/
theorem capturesAfter_readFieldChange {place : Place} {ownKey : String} {field : String × Value}
    {change : FieldChange} (hcapture : ownKey ≠ "capture") (hsetvars : ownKey ≠ "setvars")
    (h : (readFieldChange ownKey place field).Gives change) (l : Layer) :
    CapturesAfter place field l.captures (change.applyLayer l).captures := by
  obtain ⟨key, v⟩ := field
  unfold readFieldChange at h
  dsimp only at h
  split at h
  · rename_i hown
    obtain ⟨_, -, rfl⟩ := h.of_map
    exact capturesAfter_of_ne (hown ▸ hcapture) (hown ▸ hsetvars) l.captures
  · split at h
    · rename_i reading hreading
      obtain ⟨_, hchange, rfl⟩ := h.of_map
      exact capturesAfter_readLayerChange hreading hchange l
    · rename_i hnone
      obtain ⟨_, -, rfl⟩ := h.of_map
      refine capturesAfter_of_ne ?_ ?_ l.captures <;>
        rintro rfl <;>
        cases hnone

section

variable {σ : Type} (captures : σ → CaptureSection) {place : Place}

theorem toldApart_nil : ToldApart place (.object []) {} where
  captures := gives_pure.mpr rfl
  setvars := gives_pure.mpr rfl

/-- The captures of a section do not depend on those in the short notation, and leave them alone. -/
theorem gives_readCaptures_of_setvars {v : Value} {c : CaptureSection} {setvars : List Capture}
    (h : (readCaptures place { ({} : CaptureSection) with setvars := setvars } v).Gives c) :
    (readCaptures place {} v).Gives { c with setvars := [] } ∧ c.setvars = setvars := by
  rw [readCaptures_eq] at h
  obtain ⟨changes, hchanges, rfl⟩ := h.of_map
  rw [CaptureChange.foldl_apply_setvars]
  refine ⟨?_, rfl⟩
  rw [readCaptures_eq, ← CaptureChange.foldl_apply_setvars]
  exact hchanges.map fun changes => changes.foldl CaptureChange.apply {}

/-- Each of the sections keeps what the other one tells. -/
theorem ToldApart.concat {fields : Table Value} {field : String × Value} {c c' : CaptureSection}
    (h : ToldApart place (.object fields) c) (hnew : field.1 ∉ Table.names fields)
    (hafter : CapturesAfter place field c c') :
    ToldApart place (.object (fields ++ [field])) c' := by
  obtain ⟨key, w⟩ := field
  have hnone : (Value.object fields).field? key = none := Table.get?_eq_none_iff.mpr hnew
  have hget (name : String) : (Value.object (fields ++ [(key, w)])).field? name =
      if key = name then some w else (Value.object fields).field? name := by
    rw [← Table.insert_of_get?_eq_none hnone]
    exact Table.get?_insert fields key name w
  unfold CapturesAfter at hafter
  dsimp only at hafter
  split at hafter
  · rename_i hkey
    subst hkey
    -- The captures were blank before, except for those in the short notation.
    have hblank := h.captures
    rw [hnone] at hblank
    have hc : c = { ({} : CaptureSection) with setvars := c.setvars } :=
      congrArg (fun d => { d with setvars := c.setvars }) (gives_pure.mp hblank).symm
    rw [hc] at hafter
    obtain ⟨hcaptures, hsetvars⟩ := gives_readCaptures_of_setvars hafter
    constructor
    · rw [hget, if_pos rfl]
      exact hcaptures
    · rw [hget, if_neg (by decide), hsetvars]
      exact h.setvars
  · split at hafter
    · rename_i hkey
      subst hkey
      obtain ⟨setvars, hsetvars, rfl⟩ := hafter
      constructor
      · rw [hget, if_neg (by decide)]
        exact h.captures
      · rw [hget, if_pos rfl]
        exact hsetvars
    · rename_i hcapture hsetvars
      subst hafter
      constructor
      · rw [hget, if_neg hcapture]
        exact h.captures
      · rw [hget, if_neg hsetvars]
        exact h.setvars

theorem toldApart_foldlM {step : σ → String × Value → Reading σ}
    (hstep : ∀ s e s', (step s e).Gives s' → CapturesAfter place e (captures s) (captures s'))
    {fields : Table Value} {s s' : σ} (hinit : captures s = {})
    (hnames : (Table.names fields).Nodup) (h : Gives (fields.foldlM step s) s') :
    ToldApart place (.object fields) (captures s') := by
  have hfold : (Table.names fields).Nodup → ToldApart place (.object fields) (captures s') :=
    Gives.foldlM
      (motive := fun before s => (Table.names before).Nodup →
        ToldApart place (.object before) (captures s))
      (fun before s e s' hbefore hs hnames => by
        rw [Table.names, List.map_append, List.map_singleton, List.nodup_append] at hnames
        have hnew : e.1 ∉ Table.names before := fun hmem =>
          hnames.2.2 e.1 hmem e.1 (List.mem_singleton_self _) rfl
        exact (hbefore hnames.1).concat hnew (hstep s e s' hs))
      (fun _ => hinit ▸ toldApart_nil) h
  exact hfold hnames

end

theorem toldApart_readCommon {place : Place} {v : Value} {common : CommonLayer}
    (hv : v.HasDistinctKeys) (h : (readCommon place v).Gives common) :
    ToldApart place v common.captures := by
  obtain ⟨fields, hfields, h⟩ := h.bind
  obtain rfl := gives_fields hfields
  refine toldApart_foldlM (fun c : CommonLayer => c.captures) ?_ rfl hv.nodup_names h
  intro common field common' h
  rw [readCommonField_eq] at h
  obtain ⟨change, hchange, rfl⟩ := h.of_map
  rw [FieldChange.toLayer_applyCommon]
  exact capturesAfter_readFieldChange (by decide) (by decide) hchange common.toLayer

theorem toldApart_readRequest {place : Place} {name : String} {v : Value} {request : RequestLayer}
    (hv : v.HasDistinctKeys) (h : (readRequest place (name, v)).Gives request) :
    ToldApart (place.key name) v request.captures := by
  unfold readRequest at h
  split at h
  · obtain ⟨_, hrefused, _⟩ := h.bind
    exact (not_gives_refuse hrefused).elim
  obtain ⟨fields, hfields, h⟩ := h.bind
  obtain rfl := gives_fields hfields
  refine toldApart_foldlM (fun r : RequestLayer => r.captures) ?_ rfl hv.nodup_names h
  intro request field request' h
  rw [readRequestField_eq] at h
  obtain ⟨change, hchange, rfl⟩ := h.of_map
  rw [FieldChange.toLayer_applyRequest]
  exact capturesAfter_readFieldChange (by decide) (by decide) hchange request.toLayer

/-! ## Documents -/

/-- Whether two outcomes accept the same, with the same notices in some order, or nothing. -/
structure AcceptAlike {ε α : Type} (o o' : Except ε α × List Notice) : Prop where
  accepted : ∀ a, o.1 = .ok a ↔ o'.1 = .ok a
  notices : ∀ a, o.1 = .ok a → o.2.Perm o'.2

section

variable {ε α : Type} {notices notices' : List Notice}

theorem acceptAlike_of_perm (result : Except ε α) (h : notices.Perm notices') :
    AcceptAlike (result, notices) (result, notices') :=
  ⟨fun _ => Iff.rfl, fun _ _ => h⟩

theorem acceptAlike_of_error (e e' : ε) :
    AcceptAlike (α := α) (.error e, notices) (.error e', notices') :=
  ⟨fun _ => ⟨nofun, nofun⟩, nofun⟩

end

theorem acceptAlike_outcome {α : Type} {r r' : Reading α} (h : Agree Eq r r') :
    AcceptAlike r.outcome r'.outcome := by
  cases h with
  | accepted h h' hresult hnotices =>
    subst hresult
    rw [h, h']
    exact acceptAlike_of_perm _ hnotices
  | refused h h' =>
    rw [h, h']
    exact acceptAlike_of_error _ _

/-- The same for texts, where a bundle without requests is refused, too. -/
theorem acceptAlike_ofText {content content' : String} {v v' : Value}
    (hv : document? content = some v) (hv' : document? content' = some v')
    (h : Agree Eq (ofValue v) (ofValue v')) :
    AcceptAlike (ofText content) (ofText content') ∧
      ((ofText content).1 = .error .noRequests ↔ (ofText content').1 = .error .noRequests) := by
  rw [ofText_of_document hv, ofText_of_document hv']
  cases h with
  | accepted h h' hresult hnotices =>
    subst hresult
    rw [h, h']
    exact ⟨acceptAlike_of_perm _ hnotices, Iff.rfl⟩
  | refused h h' =>
    rw [h, h']
    exact ⟨acceptAlike_of_error _ _, nofun, nofun⟩

/-- **The order of keys does not matter.**  Documents that differ in nothing but the order of the
keys at the top, in common, in requests, and in their options and captures are the same bundle with
the same notices in some order, or are both refused, be it as values or as texts.  What is captured
is what the section of captures tells and what is told in the short notation, each as if the other
one were not there. -/
theorem ofValue_keyOrder :
    (∀ v v', v.HasDistinctKeys → Reordered TopReordered v v' →
      AcceptAlike (ofValue v).outcome (ofValue v').outcome) ∧
    (∀ content content' v v', document? content = some v → document? content' = some v' →
      Reordered TopReordered v v' → AcceptAlike (ofText content) (ofText content') ∧
        ((ofText content).1 = .error .noRequests ↔ (ofText content').1 = .error .noRequests)) ∧
    (∀ place v common, v.HasDistinctKeys → (readCommon place v).Gives common →
      ToldApart place v common.captures) ∧
    ∀ place name v request, v.HasDistinctKeys → (readRequest place (name, v)).Gives request →
      ToldApart (place.key name) v request.captures := by
  refine ⟨fun v v' hv h => acceptAlike_outcome (agree_ofValue hv h), ?_,
    fun _ _ _ => toldApart_readCommon, fun _ _ _ _ => toldApart_readRequest⟩
  intro content content' v v' hv hv' h
  have hdistinct := Yaml.hasDistinctKeys_of_readValue (document?_eq_some_iff.mp hv).2
  exact acceptAlike_ofText hv hv' (agree_ofValue hdistinct h)

/-- A document with two sections of captures and two keys without meaning. -/
def forwardText : String :=
  "requests:\n r:\n  capture:\n   status: s\n   body: b\n  setvars:\n   t: body\n  sent: 1\n" ++
    "kept: 1\n"

/-- The same document with its keys in the opposite order. -/
def backwardText : String :=
  "kept: 1\n" ++
    "requests:\n r:\n  sent: 1\n  setvars:\n   t: body\n  capture:\n   body: b\n   status: s\n"

/-- The request of the document, with the keys in some order. -/
def keyedRequest (order : List (String × Value) → List (String × Value)) : Value :=
  .object (order [
    ("capture", .object (order [("status", .string "s"), ("body", .string "b")])),
    ("setvars", .object [("t", .string "body")]), ("sent", .number (.int 1))])

/-- The document, with the keys in some order. -/
def keyed (order : List (String × Value) → List (String × Value)) : Value :=
  .object (order [("requests", .object [("r", keyedRequest order)]), ("kept", .number (.int 1))])

theorem reordered_reverse {R : String → Value → Value → Prop} {fields mid : Table Value}
    (h : List.Forall₂ (fun f f' => f.1 = f'.1 ∧ R f.1 f.2 f'.2) fields mid) :
    Reordered R (.object fields) (.object mid.reverse) :=
  .inr ⟨fields, mid, mid.reverse, rfl, rfl, h, (List.reverse_perm mid).symm⟩

theorem reordered_keyed : Reordered TopReordered (keyed id) (keyed List.reverse) := by
  have hcapture (fields : Table Value) :
      Reordered (fun _ => Eq) (.object fields) (.object fields.reverse) :=
    reordered_reverse (List.forall₂_same.mpr fun _ _ => ⟨rfl, rfl⟩)
  have hrequest : Reordered FieldReordered (keyedRequest id) (keyedRequest List.reverse) :=
    reordered_reverse (.cons ⟨rfl, hcapture _⟩ (.cons ⟨rfl, rfl⟩ (.cons ⟨rfl, rfl⟩ .nil)))
  have hrequests : SameKeys (fun _ => Reordered FieldReordered)
      (.object [("r", keyedRequest id)]) (.object [("r", keyedRequest List.reverse)]) :=
    .of_forall₂ (.cons ⟨rfl, hrequest⟩ .nil)
  exact reordered_reverse (.cons ⟨rfl, hrequests⟩ (.cons ⟨rfl, rfl⟩ .nil))

/-- The two texts are the same bundle, and both sections of captures are told, be it in common or
for a request. -/
theorem ofValue_keyOrder_keyed :
    (keyed id).HasDistinctKeys ∧
      AcceptAlike (ofValue (keyed id)).outcome (ofValue (keyed List.reverse)).outcome ∧
      AcceptAlike (ofText forwardText) (ofText backwardText) ∧
      (∃ b, (ofText forwardText).1 = .ok b ∧ (ofText backwardText).1 = .ok b) ∧
      (∃ common, (readCommon [] (keyedRequest id)).Gives common ∧
        ToldApart [] (keyedRequest id) common.captures) ∧
      ∃ request, (readRequest [] ("r", keyedRequest id)).Gives request ∧
        ToldApart [.key "r"] (keyedRequest id) request.captures := by
  obtain ⟨hvalue, htext, hcommon, hrequest⟩ := ofValue_keyOrder
  have hforward : document? forwardText = some (keyed id) := by decide +kernel
  have hbackward : document? backwardText = some (keyed List.reverse) := by decide +kernel
  have hdistinct := Yaml.hasDistinctKeys_of_readValue (document?_eq_some_iff.mp hforward).2
  have hkeys : (keyedRequest id).HasDistinctKeys :=
    (hdistinct.of_mem_fields List.mem_cons_self).of_mem_fields List.mem_cons_self
  have htexts := (htext _ _ _ _ hforward hbackward reordered_keyed).1
  refine ⟨hdistinct, hvalue _ _ hdistinct reordered_keyed, htexts, ?_, ?_, ?_⟩
  · have hok : (ofText forwardText).1.isOk = true := by
      rw [ofText_of_document hforward]
      decide +kernel
    rcases hb : (ofText forwardText).1 with e | b
    · rw [hb] at hok
      cases hok
    · exact ⟨b, rfl, (htexts.accepted b).mp hb⟩
  · obtain ⟨common, hread⟩ := exists_gives_of_isOk (r := readCommon [] (keyedRequest id))
      (by decide +kernel)
    exact ⟨common, hread, hcommon _ _ _ hkeys hread⟩
  · obtain ⟨request, hread⟩ := exists_gives_of_isOk (r := readRequest [] ("r", keyedRequest id))
      (by decide +kernel)
    exact ⟨request, hread, hrequest _ _ _ _ hkeys hread⟩

end Bundle

end RequestSuite
