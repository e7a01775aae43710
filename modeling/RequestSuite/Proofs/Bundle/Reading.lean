import Mathlib.Data.List.Forall2
import RequestSuite.Bundle.Place

/-!
# What reading can give

A reader of a part of a bundle stops at the first thing that is refused, and its notices have no
influence on its result.  `Gives` says that a reader can give a result, and `Refuses` that it can be
refused with an error; the lemmas take a reader apart into the readers of which it consists.
-/

namespace RequestSuite.Reading

variable {α β : Type}

/-! ## Results -/

/-- Whether reading gives a result, with some notices collected before. -/
def Gives (r : Reading α) (a : α) : Prop :=
  ∃ notices, (r.run.run notices).1 = .ok a

theorem gives_of_outcome {r : Reading α} {a : α} (h : r.outcome.1 = .ok a) : r.Gives a :=
  ⟨[], h⟩

theorem exists_gives_of_isOk {r : Reading α} (h : r.outcome.1.isOk = true) : ∃ a, r.Gives a := by
  rcases hr : r.outcome.1 with e | a
  · rw [hr] at h
    cases h
  · exact ⟨a, gives_of_outcome hr⟩

@[simp] theorem gives_pure {a b : α} : Gives (pure a) b ↔ a = b :=
  ⟨fun ⟨_, h⟩ => Except.ok.inj h, fun h => ⟨[], congrArg Except.ok h⟩⟩

@[simp] theorem not_gives_refuse {place : Place} {problem : Problem} {a : α} :
    ¬ Gives (refuse place problem) a := by
  rintro ⟨notices, h⟩
  cases h

theorem gives_fields {place : Place} {v : Value} {entries : Table Value}
    (h : (fields place v).Gives entries) : v = .object entries := by
  cases v with
  | object fields => rw [gives_pure.mp h]
  | _ => exact (not_gives_refuse h).elim

theorem gives_string {place : Place} {v : Value} {s : String}
    (h : (string place v).Gives s) : v = .string s := by
  cases v with
  | string s => rw [gives_pure.mp h]
  | _ => exact (not_gives_refuse h).elim

theorem Gives.bind {r : Reading α} {f : α → Reading β} {b : β} (h : Gives (r >>= f) b) :
    ∃ a, r.Gives a ∧ (f a).Gives b := by
  obtain ⟨notices, h⟩ := h
  rw [ExceptT.run_bind, StateT.run_bind] at h
  cases hr : StateT.run r.run notices with
  | mk result notices' =>
    rw [hr] at h
    cases result with
    -- The second reader starts with the notices of the first one.
    | ok a => exact ⟨a, ⟨notices, congrArg Prod.fst hr⟩, ⟨notices', h⟩⟩
    | error e => cases h

/-- What is made of a result is given only if there is a result. -/
theorem Gives.of_map {r : Reading α} {f : α → β} {b : β}
    (h : Gives (r >>= fun a => pure (f a)) b) : ∃ a, r.Gives a ∧ f a = b := by
  obtain ⟨a, ha, h⟩ := h.bind
  exact ⟨a, ha, gives_pure.mp h⟩

theorem Gives.mapM {step : α → Reading β} {items : List α} {bs : List β}
    (h : Gives (items.mapM step) bs) :
    List.Forall₂ (fun a b => (step a).Gives b) items bs := by
  induction items generalizing bs with
  | nil =>
    obtain rfl := gives_pure.mp h
    exact .nil
  | cons a rest ih =>
    rw [List.mapM_cons] at h
    obtain ⟨b, hb, h⟩ := h.bind
    obtain ⟨others, hothers, h⟩ := h.bind
    obtain rfl := gives_pure.mp h
    exact .cons hb (ih hothers)

/-- What holds of an accumulated result and the items before is kept by every item. -/
theorem Gives.foldlM {step : β → α → Reading β} {motive : List α → β → Prop}
    (hstep : ∀ before b a b', motive before b → (step b a).Gives b' → motive (before ++ [a]) b')
    {items : List α} {b b' : β} (hinit : motive [] b) (h : Gives (items.foldlM step b) b') :
    motive items b' := by
  suffices hrest : ∀ before b, motive before b → Gives (items.foldlM step b) b' →
      motive (before ++ items) b' from hrest [] b hinit h
  clear hinit h
  intro before b
  induction items generalizing before b with
  | nil =>
    intro hbefore h
    obtain rfl := gives_pure.mp h
    rwa [List.append_nil]
  | cons a rest ih =>
    intro hbefore h
    rw [List.foldlM_cons] at h
    obtain ⟨b₁, hfirst, hrest⟩ := h.bind
    rw [List.append_cons]
    exact ih _ _ (hstep before b a b₁ hbefore hfirst) hrest

/-- Items that are read one by one are all read. -/
theorem Gives.eachItem {step : Place → Value → Reading α} {read : Value → Option α}
    (hstep : ∀ place v a, (step place v).Gives a → read v = some a) {place : Place} {i : Nat}
    {items : List Value} {as : List α} (h : Gives (eachItem place step i items) as) :
    items.filterMap read = as := by
  induction items generalizing i as with
  | nil => exact gives_pure.mp h
  | cons v rest ih =>
    obtain ⟨a, hfirst, h⟩ := h.bind
    obtain ⟨others, hrest, h⟩ := h.bind
    rw [List.filterMap_cons_some (hstep _ v a hfirst), ih hrest]
    exact gives_pure.mp h

/-! ## Refusals -/

/-- Whether reading is refused with an error, with some notices collected before. -/
def Refuses (r : Reading α) (e : SchemaError) : Prop :=
  ∃ notices, (r.run.run notices).1 = .error e

theorem refuses_of_outcome {r : Reading α} {e : SchemaError} (h : r.outcome.1 = .error e) :
    r.Refuses e :=
  ⟨[], h⟩

variable {e : SchemaError}

@[simp] theorem not_refuses_pure {a : α} : ¬ Refuses (pure a) e := by
  rintro ⟨notices, h⟩
  cases h

@[simp] theorem not_refuses_note {n : Notice} : ¬ Refuses (note n) e := by
  rintro ⟨notices, h⟩
  cases h

@[simp] theorem refuses_refuse {place : Place} {problem : Problem} :
    Refuses (refuse (α := α) place problem) e ↔ e = ⟨place, problem⟩ :=
  ⟨fun ⟨_, h⟩ => (Except.error.inj h).symm, fun h => ⟨[], congrArg Except.error h.symm⟩⟩

theorem Refuses.bind {r : Reading α} {f : α → Reading β} (h : Refuses (r >>= f) e) :
    r.Refuses e ∨ ∃ a, r.Gives a ∧ (f a).Refuses e := by
  obtain ⟨notices, h⟩ := h
  rw [ExceptT.run_bind, StateT.run_bind] at h
  cases hr : StateT.run r.run notices with
  | mk result notices' =>
    rw [hr] at h
    cases result with
    | ok a => exact .inr ⟨a, ⟨notices, congrArg Prod.fst hr⟩, ⟨notices', h⟩⟩
    | error e' =>
      obtain rfl : e' = e := Except.error.inj h
      exact .inl ⟨notices, congrArg Prod.fst hr⟩

/-- Reading on with a result is refused if reading it is. -/
theorem Refuses.of_map {r : Reading α} {f : α → β} (h : Refuses (r >>= fun a => pure (f a)) e) :
    r.Refuses e := by
  rcases h.bind with h | ⟨a, -, h⟩
  · exact h
  · exact (not_refuses_pure h).elim

/-- Items that are read one after the other are refused because of one of them. -/
theorem Refuses.foldlM {step : β → α → Reading β} {items : List α} {b : β}
    (h : Refuses (items.foldlM step b) e) : ∃ a ∈ items, ∃ b, (step b a).Refuses e := by
  induction items generalizing b with
  | nil => exact (not_refuses_pure h).elim
  | cons a rest ih =>
    rw [List.foldlM_cons] at h
    rcases h.bind with hfirst | ⟨b', -, hrest⟩
    · exact ⟨a, List.mem_cons_self, b, hfirst⟩
    · obtain ⟨a', ha', h⟩ := ih hrest
      exact ⟨a', List.mem_cons_of_mem a ha', h⟩

theorem Refuses.mapM {step : α → Reading β} {items : List α} (h : Refuses (items.mapM step) e) :
    ∃ a ∈ items, (step a).Refuses e := by
  induction items with
  | nil => exact (not_refuses_pure h).elim
  | cons a rest ih =>
    rw [List.mapM_cons] at h
    rcases h.bind with hfirst | ⟨b, -, h⟩
    · exact ⟨a, List.mem_cons_self, hfirst⟩
    · obtain ⟨a', ha', h⟩ := ih h.of_map
      exact ⟨a', List.mem_cons_of_mem a ha', h⟩

/-- The item because of which a list is refused is read at its place. -/
theorem Refuses.eachItem {step : Place → Value → Reading α} {place : Place} {i : Nat}
    {items : List Value} (h : Refuses (eachItem place step i items) e) :
    ∃ j v, items[j]? = some v ∧ (step (place.index (i + j)) v).Refuses e := by
  induction items generalizing i with
  | nil => exact (not_refuses_pure h).elim
  | cons v rest ih =>
    rcases h.bind with hfirst | ⟨a, -, h⟩
    · exact ⟨0, v, rfl, hfirst⟩
    · obtain ⟨j, w, hw, h⟩ := ih h.of_map
      exact ⟨j + 1, w, hw, by rwa [Nat.add_right_comm] at h⟩

end RequestSuite.Reading
