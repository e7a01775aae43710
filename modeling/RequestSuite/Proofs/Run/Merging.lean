import Mathlib.Data.List.Forall2
import RequestSuite.Proofs.Run.Course

/-!
# Merging before a run

All requests of a bundle are merged and numbered before a run begins.  Either every one of them can
be merged (`Session.merged`), and the run is the course of the merged requests (`Session.course`),
or some cannot and nothing happens.
-/

namespace RequestSuite

/-! ## Numbering -/

section

variable {α : Type}

/-- The items of a list with numbers, counted from one. -/
def enumerated (items : List α) : List (Nat × α) :=
  (items.zipIdx 1).map Prod.swap

theorem map_fst_enumerated (items : List α) :
    (enumerated items).map (·.1) = List.range' 1 items.length := by
  rw [enumerated, List.map_map]
  exact List.zipIdx_map_snd 1 items

theorem map_snd_enumerated (items : List α) : (enumerated items).map (·.2) = items := by
  rw [enumerated, List.map_map]
  exact List.zipIdx_map_fst 1 items

theorem getElem?_enumerated (items : List α) (k : Nat) :
    (enumerated items)[k]? = items[k]?.map fun item => (k + 1, item) := by
  rw [enumerated, List.getElem?_map, List.getElem?_zipIdx, Option.map_map, Nat.add_comm]
  rfl

end

/-! ## Lists of merged requests -/

section

variable {α β ε : Type} {f : α → Except ε β}

theorem forall₂_of_mapM {items : List α} {results : List β} (h : items.mapM f = .ok results) :
    List.Forall₂ (fun item result => f item = .ok result) items results := by
  induction items generalizing results with
  | nil =>
    cases h
    exact .nil
  | cons item rest ih =>
    rw [List.mapM_cons] at h
    rcases hitem : f item with e | result
    · rw [hitem] at h
      cases h
    · rcases hrest : rest.mapM f with e | others
      · rw [hitem, hrest] at h
        cases h
      · rw [hitem, hrest] at h
        cases h
        exact .cons hitem (ih hrest)

theorem exists_of_mapM_error {items : List α} {e : ε} (h : items.mapM f = .error e) :
    ∃ item ∈ items, f item = .error e := by
  induction items with
  | nil => cases h
  | cons item rest ih =>
    rw [List.mapM_cons] at h
    rcases hitem : f item with e' | result
    · rw [hitem] at h
      cases h
      exact ⟨item, List.mem_cons_self, hitem⟩
    · rcases hrest : rest.mapM f with e' | others
      · rw [hitem, hrest] at h
        cases h
        obtain ⟨a, ha, hfa⟩ := ih hrest
        exact ⟨a, List.mem_cons_of_mem _ ha, hfa⟩
      · rw [hitem, hrest] at h
        cases h

/-- Numbering the items before or after is the same if the numbers are carried along. -/
theorem mapM_swap_zipIdx (items : List α) (n : Nat) :
    ((items.zipIdx n).map Prod.swap).mapM
        (fun item => (f item.2).map fun result => (item.1, result)) =
      (items.mapM f).map fun results => (results.zipIdx n).map Prod.swap := by
  induction items generalizing n with
  | nil => rfl
  | cons item rest ih =>
    rw [List.zipIdx_cons, List.map_cons, List.mapM_cons, List.mapM_cons, ih]
    rcases hitem : f item with e | result
    · simp only [Prod.swap_prod_mk, hitem]
      rfl
    · simp only [Prod.swap_prod_mk, hitem]
      rcases rest.mapM f with e | others
      · rfl
      · rfl

end

theorem RequestLayer.name_merge {common : Option CommonLayer} {layer : RequestLayer}
    {r : Request} (h : layer.merge common = .ok r) : r.name = layer.name := by
  obtain ⟨method, url, -, -, rfl⟩ := merge_eq_ok_iff.mp h
  rfl

/-- What came of the requests of a run. -/
def Run.outcomes (r : Run) : List Outcome :=
  r.results.map (·.outcome)

namespace Session

variable (s : Session)

/-- The merged requests, or the first that lacks something. -/
def merged : Except MissingField (List Request) :=
  s.bundle.requests.mapM fun layer => layer.merge s.bundle.common

theorem names_numbered :
    s.numbered.map (·.2.name) = s.bundle.requests.map (·.name) := by
  have hmap : s.numbered.map (·.2.name) = (s.numbered.map (·.2)).map (·.name) := by
    rw [List.map_map]
    rfl
  exact hmap.trans (congrArg _ (map_snd_enumerated s.bundle.requests))

theorem mergeAll_eq : s.mergeAll = s.merged.map enumerated :=
  mapM_swap_zipIdx s.bundle.requests 1

variable {s} {requests : List Request}

theorem forall₂_merged (h : s.merged = .ok requests) :
    List.Forall₂ (fun layer r => RequestLayer.merge s.bundle.common layer = .ok r)
      s.bundle.requests requests :=
  forall₂_of_mapM h

theorem length_merged (h : s.merged = .ok requests) :
    requests.length = s.bundle.requests.length :=
  (forall₂_merged h).length_eq.symm

theorem names_merged (h : s.merged = .ok requests) :
    requests.map (·.name) = s.bundle.requests.map (·.name) := by
  have hall := forall₂_merged h
  clear h
  generalize s.bundle.requests = layers at hall ⊢
  induction hall with
  | nil => rfl
  | cons hone _ ih => rw [List.map_cons, List.map_cons, ih, RequestLayer.name_merge hone]

theorem exists_layer_of_merged (h : s.merged = .ok requests) {k : Nat} {r : Request}
    (hr : requests[k]? = some r) :
    ∃ layer, s.bundle.requests[k]? = some layer ∧ layer.merge s.bundle.common = .ok r := by
  obtain ⟨hk, rfl⟩ := List.getElem?_eq_some_iff.mp hr
  have hlayer : k < s.bundle.requests.length := length_merged h ▸ hk
  exact ⟨_, List.getElem?_eq_getElem hlayer, (forall₂_merged h).get hlayer hk⟩

/-- Not all requests can be merged exactly if one of them cannot. -/
theorem exists_merged_error_iff : (∃ e, s.merged = .error e) ↔
    ∃ layer ∈ s.bundle.requests, ∃ e, layer.merge s.bundle.common = .error e := by
  refine ⟨fun ⟨e, h⟩ => ?_, fun ⟨layer, hlayer, e, he⟩ => ?_⟩
  · obtain ⟨layer, hlayer, he⟩ := exists_of_mapM_error h
    exact ⟨layer, hlayer, e, he⟩
  · rcases h : s.merged with e' | requests
    · exact ⟨e', rfl⟩
    · obtain ⟨k, hk, rfl⟩ := List.mem_iff_getElem.mp hlayer
      have hok := (forall₂_merged h).get hk ((forall₂_merged h).length_eq ▸ hk)
      exact absurd (he.symm.trans hok) nofun

/-! ## Runs of merged requests -/

variable {σ : Type} (net : Network σ) (state : σ)

/-- The course of a run of merged requests, from freshly loaded variables on. -/
def course (s : Session) (net : Network σ) (state : σ) (requests : List Request) :
    List Result × Progress σ :=
  Progress.performAll s.client net (enumerated requests) { store := s.freshStore, state := state }

theorem runAll_of_error {e : MissingField} (h : s.merged = .error e) :
    s.runAll net state =
      (⟨s.numbered.map s.unsentResult, s.freshStore⟩, s.unsentNotices, state) := by
  rw [runAll, mergeAll_eq, h]
  rfl

theorem runAll_of_merged (h : s.merged = .ok requests) :
    s.runAll net state =
      (⟨(s.course net state requests).1, (s.course net state requests).2.store⟩,
        (s.course net state requests).2.notices, (s.course net state requests).2.state) := by
  rw [runAll, mergeAll_eq, h]
  rfl

/-- What a run hands to the network, as it is recorded. -/
def handovers (s : Session) (net : Network σ) (state : σ) : List (Handover σ) :=
  (s.runAll net.recorded (state, [])).2.2.2

/-- The record of a run of merged requests is what its course hands over. -/
theorem runAll_recorded (h : s.merged = .ok requests) :
    s.runAll net.recorded (state, []) =
      (⟨(s.course net state requests).1, (s.course net state requests).2.store⟩,
        (s.course net state requests).2.notices, (s.course net state requests).2.state,
        (Progress.handedAll s.client net (enumerated requests)
          { store := s.freshStore, state := state }).map (·.2)) := by
  have hcourse := Progress.performAll_recorded s.client net
    { store := s.freshStore, state := state } (enumerated requests) []
  rw [runAll_of_merged _ _ h]
  exact congrArg (fun out : List Result × Progress (σ × List (Handover σ)) =>
    ((⟨out.1, out.2.store⟩ : Run), out.2.notices, out.2.state)) hcourse

/-! ## Before each request -/

/-- How far a run of merged requests has got after some of them. -/
def stage (s : Session) (net : Network σ) (state : σ) (requests : List Request) (k : Nat) :
    Progress σ :=
  (Progress.performAll s.client net ((enumerated requests).take k)
    { store := s.freshStore, state := state }).2

/-- The requests of a run with what came of them. -/
def ended (s : Session) (net : Network σ) (state : σ) (requests : List Request) :
    List (Request × Outcome) :=
  requests.zip ((s.course net state requests).1.map (·.outcome))

variable (s requests)

theorem getElem?_course (k : Nat) :
    (s.course net state requests).1[k]? = requests[k]?.map fun r =>
      (Progress.proceed s.client net (k + 1, r) (s.stage net state requests k)).1 := by
  rw [course, Progress.performAll_getElem?, getElem?_enumerated, Option.map_map]
  rfl

theorem ended_enumerated :
    Progress.ended s.client net { store := s.freshStore, state := state } (enumerated requests) =
      s.ended net state requests := by
  rw [Progress.ended, map_snd_enumerated]
  rfl

theorem store_stage (k : Nat) :
    (s.stage net state requests k).store =
      s.freshStore.replay ((s.ended net state requests).take k) := by
  rw [stage, Progress.store_performAll_take, ended_enumerated]

theorem store_course :
    (s.course net state requests).2.store =
      s.freshStore.replay (s.ended net state requests) := by
  rw [course, Progress.store_performAll, ended_enumerated]

theorem length_course : (s.course net state requests).1.length = requests.length := by
  rw [course, Progress.length_performAll, ← List.length_map (·.2), map_snd_enumerated]

theorem length_ended : (s.ended net state requests).length = requests.length := by
  rw [ended, List.length_zip, List.length_map, length_course, Nat.min_self]

variable {s net state requests}

/-- What is handed over in a run is a request of it, filled in from the variables before it. -/
theorem exists_ready_of_mem_handed {sent : Nat × Handover σ}
    (hsent : sent ∈ Progress.handedAll s.client net (enumerated requests)
      { store := s.freshStore, state := state }) :
    ∃ (k : Nat) (r : Request), sent.1 = k + 1 ∧ requests[k]? = some r ∧
      net.isAborted sent.2.state = false ∧
      Outgoing.ofRequest s.client.readUrl s.client.autoContentType
        (r.resolve (s.freshStore.replay ((s.ended net state requests).take k)).get?) =
          .ok sent.2.request := by
  obtain ⟨k, r, hr, hready, hrunning⟩ := Progress.ready_of_mem_handedAll _ _ _ _ hsent
  rw [getElem?_enumerated] at hr
  obtain ⟨r', hr', heq⟩ := Option.map_eq_some_iff.mp hr
  obtain ⟨hnumber, rfl⟩ := Prod.mk.inj heq
  rw [ended_enumerated] at hready
  exact ⟨k, r', hnumber.symm, hr', hrunning, Client.ofRequest_of_prepare hready⟩

end Session

end RequestSuite
