import RequestSuite.Proofs.Request.Overlay
import RequestSuite.Yaml.Value

/-!
# Documents have distinct keys

A key that is repeated in a map keeps its first place and gets its last value, so no map in the
value of a document has two fields with the same key, at whatever depth.
-/

namespace RequestSuite

/-! ## Values with distinct keys -/

/-- No map in a value has two fields with the same key. -/
inductive Value.HasDistinctKeys : Value → Prop
  | single {v : Value} (h : v.isStructured = false) : HasDistinctKeys v
  | array {items : List Value} (h : ∀ v ∈ items, HasDistinctKeys v) : HasDistinctKeys (.array items)
  | object {fields : List (String × Value)} (hnames : (Table.names fields).Nodup)
      (h : ∀ f ∈ fields, HasDistinctKeys f.2) : HasDistinctKeys (.object fields)

namespace Value.HasDistinctKeys

variable {fields : List (String × Value)}

theorem nodup_names (h : HasDistinctKeys (.object fields)) : (Table.names fields).Nodup := by
  cases h with
  | single h => cases h
  | object hnames _ => exact hnames

theorem of_mem_fields (h : HasDistinctKeys (.object fields)) {f : String × Value}
    (hf : f ∈ fields) : f.2.HasDistinctKeys := by
  cases h with
  | single h => cases h
  | object _ h => exact h f hf

end Value.HasDistinctKeys

namespace Yaml

/-! ## What building can give -/

namespace Build

variable {α β : Type}

/-- Whether building gives a result, whatever number of aliases was followed before. -/
def Gives (b : Build α) (a : α) : Prop :=
  ∃ n n', b.run n = .ok (a, n')

theorem Gives.bind {b : Build α} {f : α → Build β} {x : β} (h : Gives (b >>= f) x) :
    ∃ a, b.Gives a ∧ (f a).Gives x := by
  obtain ⟨n, n', h⟩ := h
  rw [StateT.run_bind] at h
  cases hb : b.run n with
  | error e =>
    rw [hb] at h
    cases h
  | ok r =>
    rw [hb] at h
    exact ⟨r.1, ⟨n, r.2, hb⟩, ⟨r.2, n', h⟩⟩

theorem gives_pure {a b : α} (h : Gives (pure a) b) : a = b := by
  obtain ⟨n, n', h⟩ := h
  cases h
  rfl

theorem not_gives_throw {fault : Fault} {a : α} : ¬ Gives (throw fault) a := by
  rintro ⟨n, n', h⟩
  cases h

/-- What holds of every item that can be built holds of all of them. -/
theorem Gives.forall_mapM {f : α → Build β} {P : β → Prop} (hf : ∀ a b, (f a).Gives b → P b)
    {items : List α} {bs : List β} (h : Gives (items.mapM f) bs) : ∀ b ∈ bs, P b := by
  induction items generalizing bs with
  | nil =>
    obtain rfl := gives_pure h
    exact nofun
  | cons a rest ih =>
    rw [List.mapM_cons] at h
    obtain ⟨b, hb, h⟩ := h.bind
    obtain ⟨others, hothers, h⟩ := h.bind
    obtain rfl := gives_pure h
    exact List.forall_mem_cons.mpr ⟨hf a b hb, ih hothers⟩

end Build

/-! ## Scalars -/

theorem isStructured_float {s : List Char} {v : Value} (h : float? s = some v) :
    v.isStructured = false := by
  unfold float? at h
  extract_lets unsigned at h
  split at h
  · obtain rfl := Option.some.inj h
    rfl
  · split at h
    · obtain rfl := Option.some.inj h
      rfl
    · obtain ⟨d, -, h⟩ := Option.bind_eq_some_iff.mp h
      obtain ⟨x, -, rfl⟩ := Option.map_eq_some_iff.mp h
      rfl

theorem isStructured_intValue {text : String} {i : Int} {v : Value} (h : intValue text i = .ok v) :
    v.isStructured = false := by
  unfold intValue at h
  split at h <;> cases h
  rfl

theorem isStructured_plainValue {text : String} {v : Value} (h : plainValue text = .ok v) :
    v.isStructured = false := by
  unfold plainValue at h
  extract_lets s at h
  split at h
  · cases h
    rfl
  · split at h
    · cases h
      rfl
    · exact isStructured_intValue h
    · split at h
      · cases h
        rfl
      · obtain rfl := Except.ok.inj h
        rcases hfloat : float? s with _ | v
        · rfl
        · exact isStructured_float hfloat

theorem isStructured_taggedValue {tag text : String} {v : Value}
    (h : taggedValue tag text = .ok v) : v.isStructured = false := by
  unfold taggedValue at h
  extract_lets fits at h
  have hfits {o : Option Value} (ho : ∀ w, o = some w → w.isStructured = false)
      (h : fits o = .ok v) : v.isStructured = false := by
    cases o with
    | none => cases h
    | some w =>
      obtain rfl := Except.ok.inj h
      exact ho w rfl
  split at h
  · cases h
  split at h
  · refine hfits (fun w hw => ?_) h
    obtain ⟨b, -, rfl⟩ := Option.map_eq_some_iff.mp hw
    rfl
  split at h
  · split at h
    · exact isStructured_intValue h
    · cases h
  split at h
  · exact hfits (fun w hw => isStructured_float hw) h
  split at h
  · refine hfits (fun w hw => ?_) h
    split at hw <;> cases hw
    rfl
  · cases h
    rfl

/-! ## Nodes -/

namespace Build

variable {limit : Nat} {anchors : Anchors}

theorem gives_ofExcept {e : Except Fault Value} {v : Value} (h : Gives (liftM e) v) :
    e = .ok v := by
  obtain ⟨n, n', h⟩ := h
  cases e with
  | error fault => cases h
  | ok w =>
    cases h
    rfl

theorem hasDistinctKeys_of_gives {depth : Nat} {node : Node} {v : Value}
    (h : (value limit anchors depth node).Gives v) : v.HasDistinctKeys := by
  induction depth using Nat.strongRecOn generalizing node v with
  | ind depth ih =>
    unfold value at h
    obtain ⟨target, -, h⟩ := h.bind
    dsimp only at h
    split at h
    · split at h
      · exact .single (isStructured_plainValue (gives_ofExcept h))
      · obtain rfl := gives_pure h
        exact .single rfl
    · exact .single (isStructured_taggedValue (gives_ofExcept h))
    · obtain ⟨_, -, h⟩ := h.bind
      cases depth with
      | zero => exact (not_gives_throw h).elim
      | succ depth =>
        obtain ⟨items, hitems, h⟩ := h.bind
        obtain rfl := gives_pure h
        exact .array (hitems.forall_mapM fun _ _ => ih depth (Nat.lt_succ_self depth))
    · obtain ⟨_, -, h⟩ := h.bind
      cases depth with
      | zero => exact (not_gives_throw h).elim
      | succ depth =>
        obtain ⟨pairs, hpairs, h⟩ := h.bind
        obtain rfl := gives_pure h
        have hvalues : ∀ p ∈ pairs, p.2.HasDistinctKeys := hpairs.forall_mapM fun field p hp => by
          obtain ⟨key, -, hp⟩ := hp.bind
          obtain ⟨w, hw, hp⟩ := hp.bind
          obtain rfl := gives_pure hp
          exact ih depth (Nat.lt_succ_self depth) hw
        exact .object Table.nodup_names_ofPairs fun f hf => hvalues f (Table.mem_of_mem_ofPairs hf)
    · exact (not_gives_throw h).elim

end Build

/-- **The value of a document has distinct keys**, at whatever depth. -/
theorem hasDistinctKeys_of_readValue {text : String} {v : Value} (h : readValue text = .ok v) :
    v.HasDistinctKeys := by
  unfold readValue at h
  rcases hdocument : Document.ofText text with fault | document
  · rw [hdocument] at h
    cases h
  rw [hdocument] at h
  cases document with
  | none =>
    obtain rfl := Except.ok.inj h
    exact .single rfl
  | some d =>
    -- The number of aliases that were followed is thrown away.
    change Except.map Prod.fst (StateT.run (Build.value _ d.anchors _ d.root) 0) = .ok v at h
    rcases hrun : StateT.run (Build.value _ d.anchors _ d.root) 0 with fault | ⟨w, n⟩
    · rw [hrun] at h
      cases h
    · rw [hrun] at h
      obtain rfl := Except.ok.inj h
      exact Build.hasDistinctKeys_of_gives ⟨0, n, hrun⟩

end Yaml

end RequestSuite
