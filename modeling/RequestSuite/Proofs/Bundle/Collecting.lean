import Mathlib.Data.List.Forall2
import RequestSuite.Bundle.Reader
import RequestSuite.Proofs.Bundle.Reading

/-!
# Readings that agree

A reader adds to the notices and does not look at them (`Collects`), so the outcome of reading is
put together from the outcomes of its parts.  Two readings agree (`Agree`) if both are refused, or
if both give related results and the same notices in whatever order.  Reading the items of a list
in another order agrees with reading them in theirs (`agree_mapM_perm`).
-/

namespace RequestSuite

namespace Reading

variable {α β γ δ : Type}

/-! ## Notices are collected -/

/-- Whether a reader adds to the notices without looking at them. -/
class Collects (r : Reading α) : Prop where
  run_eq : ∀ notices, r.run.run notices = (r.outcome.1, notices ++ r.outcome.2)

instance (a : α) : Collects (pure a) where
  run_eq notices := by
    rw [show (pure a : Reading α).outcome = (.ok a, []) from rfl, List.append_nil]
    rfl

instance (place : Place) (problem : Problem) : Collects (refuse (α := α) place problem) where
  run_eq notices := by
    rw [show (refuse (α := α) place problem).outcome = (.error ⟨place, problem⟩, []) from rfl,
      List.append_nil]
    rfl

instance (n : Notice) : Collects (note n) where
  run_eq _ := rfl

section

variable {r : Reading α} {f : α → Reading β} {notices : List Notice}

theorem run_bind_ok {a : α} {before : List Notice} (h : r.run.run before = (.ok a, notices)) :
    (r >>= f).run.run before = (f a).run.run notices := by
  rw [ExceptT.run_bind, StateT.run_bind]
  rw [show StateT.run r.run before = (.ok a, notices) from h]
  rfl

theorem Gives.map {a : α} (h : r.Gives a) (f : α → β) :
    Gives (r >>= fun a => pure (f a)) (f a) := by
  obtain ⟨before, h⟩ := h
  have hrun : r.run.run before = (.ok a, (r.run.run before).2) := Prod.ext h rfl
  exact ⟨before, congrArg Prod.fst (run_bind_ok hrun)⟩

theorem run_bind_error {e : SchemaError} {before : List Notice}
    (h : r.run.run before = (.error e, notices)) :
    (r >>= f).run.run before = (.error e, notices) := by
  rw [ExceptT.run_bind, StateT.run_bind]
  rw [show StateT.run r.run before = (.error e, notices) from h]
  rfl

theorem outcome_bind_ok [∀ a, Collects (f a)] {a : α} {result : Except SchemaError β}
    {notices' : List Notice} (h : r.outcome = (.ok a, notices))
    (h' : (f a).outcome = (result, notices')) :
    (r >>= f).outcome = (result, notices ++ notices') := by
  rw [outcome, run_bind_ok h, Collects.run_eq, h']

theorem outcome_bind_error {e : SchemaError} (h : r.outcome = (.error e, notices)) :
    (r >>= f).outcome = (.error e, notices) :=
  run_bind_error h

instance Collects.bind [Collects r] [∀ a, Collects (f a)] : Collects (r >>= f) where
  run_eq before := by
    have hrun := Collects.run_eq (r := r) before
    rcases h : r.outcome with ⟨e | a, notices⟩
    · rw [h] at hrun
      rw [run_bind_error hrun, outcome_bind_error h]
    · rw [h] at hrun
      have hbind : (r >>= f).outcome = ((f a).outcome.1, notices ++ (f a).outcome.2) :=
        outcome_bind_ok h rfl
      rw [run_bind_ok hrun, hbind, Collects.run_eq, List.append_assoc]

end

instance {step : β → α → Reading β} [∀ b a, Collects (step b a)] (items : List α) (b : β) :
    Collects (items.foldlM step b) := by
  induction items generalizing b with
  | nil => exact inferInstanceAs (Collects (pure b))
  | cons a rest ih =>
    rw [List.foldlM_cons]
    infer_instance

instance {step : α → Reading β} [∀ a, Collects (step a)] (items : List α) :
    Collects (items.mapM step) := by
  induction items with
  | nil => exact inferInstanceAs (Collects (pure []))
  | cons a rest ih =>
    rw [List.mapM_cons]
    infer_instance

instance {step : Place → Value → Reading α} [∀ place v, Collects (step place v)] (place : Place)
    (i : Nat) (items : List Value) : Collects (eachItem place step i items) := by
  induction items generalizing i with
  | nil => exact inferInstanceAs (Collects (pure []))
  | cons v rest ih =>
    unfold eachItem
    infer_instance

/-- Notices have no influence on whether there is a result. -/
theorem outcome_eq_ok_iff {r : Reading α} [Collects r] {a : α} :
    r.outcome.1 = .ok a ↔ r.Gives a := by
  refine ⟨gives_of_outcome, fun ⟨notices, h⟩ => ?_⟩
  rwa [Collects.run_eq] at h

theorem isOk_outcome_iff {r : Reading α} [Collects r] :
    r.outcome.1.isOk = true ↔ ∃ a, r.Gives a := by
  refine ⟨exists_gives_of_isOk, ?_⟩
  rintro ⟨a, ha⟩
  rw [outcome_eq_ok_iff.mpr ha]
  rfl

theorem gives_bind_iff {r : Reading α} {f : α → Reading β} [∀ a, Collects (f a)] {b : β} :
    Gives (r >>= f) b ↔ ∃ a, r.Gives a ∧ (f a).Gives b := by
  refine ⟨Gives.bind, ?_⟩
  rintro ⟨a, ⟨before, h⟩, hb⟩
  have hrun : r.run.run before = (.ok a, (r.run.run before).2) := Prod.ext h rfl
  refine ⟨before, ?_⟩
  rw [run_bind_ok hrun, Collects.run_eq]
  exact outcome_eq_ok_iff.mpr hb

/-! ## Agreement -/

/-- Whether two readings agree: both give related results and the same notices in some order, or
both are refused. -/
inductive Agree (R : α → β → Prop) (r : Reading α) (r' : Reading β) : Prop
  | accepted {a : α} {b : β} {notices notices' : List Notice} (h : r.outcome = (.ok a, notices))
      (h' : r'.outcome = (.ok b, notices')) (hresult : R a b) (hnotices : notices.Perm notices')
  | refused {e e' : SchemaError} {notices notices' : List Notice}
      (h : r.outcome = (.error e, notices)) (h' : r'.outcome = (.error e', notices'))

theorem Agree.refl {R : α → α → Prop} (hR : ∀ a, R a a) (r : Reading α) : Agree R r r := by
  rcases h : r.outcome with ⟨e | a, notices⟩
  · exact .refused h h
  · exact .accepted h h (hR a) (.refl _)

theorem agree_of_eq {r r' : Reading α} (h : r = r') : Agree Eq r r' :=
  h ▸ .refl (fun _ => rfl) r

theorem agree_pure {R : α → β → Prop} {a : α} {b : β} (h : R a b) :
    Agree R (pure a) (pure b) :=
  .accepted rfl rfl h (.refl _)

theorem Agree.trans {R : α → β → Prop} {S : β → γ → Prop} {T : α → γ → Prop} {r : Reading α}
    {r' : Reading β} {r'' : Reading γ} (h : Agree R r r') (h' : Agree S r' r'')
    (hRS : ∀ a b c, R a b → S b c → T a c) : Agree T r r'' := by
  cases h with
  | accepted h₁ h₂ hR hnotices =>
    cases h' with
    | accepted h₃ h₄ hS hnotices' =>
      rw [h₂] at h₃
      cases h₃
      exact .accepted h₁ h₄ (hRS _ _ _ hR hS) (hnotices.trans hnotices')
    | refused h₃ h₄ =>
      rw [h₂] at h₃
      cases h₃
  | refused h₁ h₂ =>
    cases h' with
    | accepted h₃ h₄ hS hnotices' =>
      rw [h₂] at h₃
      cases h₃
    | refused h₃ h₄ => exact .refused h₁ h₄

theorem Agree.bind {R : α → β → Prop} {S : γ → δ → Prop} {r : Reading α} {r' : Reading β}
    {f : α → Reading γ} {f' : β → Reading δ} [∀ a, Collects (f a)] [∀ b, Collects (f' b)]
    (h : Agree R r r') (hf : ∀ a b, r.Gives a → R a b → Agree S (f a) (f' b)) :
    Agree S (r >>= f) (r' >>= f') := by
  cases h with
  | @accepted a b _ _ h₁ h₂ hR hnotices =>
    cases hf a b (gives_of_outcome (congrArg Prod.fst h₁)) hR with
    | accepted h₃ h₄ hS hnotices' =>
      exact .accepted (outcome_bind_ok h₁ h₃) (outcome_bind_ok h₂ h₄) hS (hnotices.append hnotices')
    | refused h₃ h₄ => exact .refused (outcome_bind_ok h₁ h₃) (outcome_bind_ok h₂ h₄)
  | refused h₁ h₂ => exact .refused (outcome_bind_error h₁) (outcome_bind_error h₂)

/-- It does not matter which of two parts is read first. -/
theorem agree_swap {R : γ → δ → Prop} {r : Reading α} {r' : Reading β} {f : α → β → Reading γ}
    {f' : α → β → Reading δ} [Collects r] [Collects r'] [∀ a b, Collects (f a b)]
    [∀ a b, Collects (f' a b)] (hf : ∀ a b, Agree R (f a b) (f' a b)) :
    Agree R (r >>= fun a => r' >>= fun b => f a b) (r' >>= fun b => r >>= fun a => f' a b) := by
  rcases h : r.outcome with ⟨e | a, notices⟩ <;> rcases h' : r'.outcome with ⟨e' | b, notices'⟩
  · exact .refused (outcome_bind_error h) (outcome_bind_error h')
  · exact .refused (outcome_bind_error h) (outcome_bind_ok h' (outcome_bind_error h))
  · exact .refused (outcome_bind_ok h (outcome_bind_error h')) (outcome_bind_error h')
  · cases hf a b with
    | accepted h₁ h₂ hR hnotices =>
      refine .accepted (outcome_bind_ok h (outcome_bind_ok h' h₁))
        (outcome_bind_ok h' (outcome_bind_ok h h₂)) hR ?_
      rw [← List.append_assoc, ← List.append_assoc]
      exact List.perm_append_comm.append hnotices
    | refused h₁ h₂ =>
      exact .refused (outcome_bind_ok h (outcome_bind_ok h' h₁))
        (outcome_bind_ok h' (outcome_bind_ok h h₂))

/-! ## Items in another order -/

section

variable {read : α → Reading β} {read' : γ → Reading δ}

theorem agree_mapM_perm [∀ a, Collects (read a)] {items items' : List α} (h : items.Perm items') :
    Agree List.Perm (items.mapM read) (items'.mapM read) := by
  induction h with
  | nil => exact .refl .refl _
  | cons a _ ih =>
    rw [List.mapM_cons, List.mapM_cons]
    refine (Agree.refl (fun _ => rfl) (read a)).bind ?_
    rintro b _ - rfl
    exact ih.bind fun _ _ _ hrest => agree_pure (hrest.cons b)
  | swap a b rest =>
    simp only [List.mapM_cons, bind_assoc, pure_bind]
    refine agree_swap fun b a => ?_
    refine (Agree.refl (fun _ => rfl) (rest.mapM read)).bind ?_
    rintro others _ - rfl
    exact agree_pure (.swap _ _ others)
  | trans _ _ ih ih' => exact ih.trans ih' fun _ _ _ => List.Perm.trans

/-- Lists are read in agreement if their items are, one by one. -/
theorem agree_mapM_forall₂ {R : β → δ → Prop} [∀ a, Collects (read a)] [∀ a, Collects (read' a)]
    {items : List α} {items' : List γ}
    (h : List.Forall₂ (fun a a' => Agree R (read a) (read' a')) items items') :
    Agree (List.Forall₂ R) (items.mapM read) (items'.mapM read') := by
  induction h with
  | nil => exact agree_pure .nil
  | cons hfirst _ ih =>
    rw [List.mapM_cons, List.mapM_cons]
    exact hfirst.bind fun _ _ _ hb => ih.bind fun _ _ _ hrest => agree_pure (.cons hb hrest)

theorem agree_foldlM_forall₂ {step : β → α → Reading β} [∀ b a, Collects (step b a)]
    {items items' : List α}
    (h : List.Forall₂ (fun a a' => ∀ b, Agree Eq (step b a) (step b a')) items items') (b : β) :
    Agree Eq (items.foldlM step b) (items'.foldlM step b) := by
  induction h generalizing b with
  | nil => exact agree_pure rfl
  | cons hfirst _ ih =>
    rw [List.foldlM_cons, List.foldlM_cons]
    refine (hfirst b).bind ?_
    rintro b' _ - rfl
    exact ih b'

/-- Where each item is read as a change, they are all read first, and then the changes are made. -/
theorem foldlM_eq_mapM {step : γ → α → Reading γ} {change : γ → β → γ}
    (hstep : ∀ c a, step c a = read a >>= fun b => pure (change c b)) (items : List α) (c : γ) :
    items.foldlM step c = items.mapM read >>= fun bs => pure (bs.foldl change c) := by
  induction items generalizing c with
  | nil => rfl
  | cons a rest ih =>
    simp only [List.foldlM_cons, List.mapM_cons, hstep, ih, bind_assoc, pure_bind,
      List.foldl_cons]

end

end Reading

/-! ## The readers of bundles -/

namespace Bundle

open Reading

variable (place : Place)

instance (v : Value) : Collects (fields place v) := by
  unfold fields
  split <;> infer_instance

instance (v : Value) : Collects (string place v) := by
  unfold string
  split <;> infer_instance

instance (v : Value) : Collects (Reading.bool place v) := by
  unfold Reading.bool
  split <;> infer_instance

instance (entry : Table Value) (name : String) : Collects (requiredField place entry name) := by
  unfold requiredField
  split <;> infer_instance

instance (v : Value) : Collects (readPair place v) := by
  unfold readPair
  infer_instance

instance (v : Value) : Collects (readHeaderItem place v) := by
  unfold readHeaderItem
  infer_instance

instance (v : Value) : Collects (readHeaders place v) := by
  unfold readHeaders
  split <;> infer_instance

instance (v : Value) : Collects (readParamItem place v) := by
  unfold readParamItem
  refine @Collects.bind _ _ _ _ _ fun ⟨name, value, entry⟩ => ?_
  dsimp only
  split <;> infer_instance

instance (v : Value) : Collects (readParams place v) := by
  unfold readParams
  split <;> infer_instance

instance (v : Value) : Collects (sectionFields place v) := by
  unfold sectionFields
  split <;> infer_instance

instance (t : TestSection) (entry : String × Value) : Collects (readTest place t entry) := by
  unfold readTest
  dsimp only
  split <;> try infer_instance
  split <;> split <;> infer_instance

instance (v : Value) : Collects (readTests place v) := by
  unfold readTests
  infer_instance

instance (entry : String × Value) : Collects (readTarget place entry) := by
  unfold readTarget
  infer_instance

instance (entry : String × Value) : Collects (readSetvar place entry) := by
  unfold readSetvar
  refine @Collects.bind _ _ _ _ _ fun descriptor => ?_
  split <;> infer_instance

instance (v : Value) : Collects (readSetvars place v) := by
  unfold readSetvars
  infer_instance

instance (entry : String × Value) : Collects (readEnvironment place entry) := by
  unfold readEnvironment
  infer_instance

instance (v : Value) : Collects (readEnvironments place v) := by
  unfold readEnvironments
  infer_instance

end Bundle

end RequestSuite
