import RequestSuite.Proofs.Run.Merging

/-!
# Outcomes of a run

A run has one result for each request.  If a request lacks something, nothing is sent.  Otherwise
requests come to an end of their own until the run is aborted, which cancels one of them at most,
and those after it are not begun (`Outcome.InOrder`).  `Session.runAll_results` says so for every
network and every moment at which the run is aborted, and also what the network is given.
-/

namespace RequestSuite

variable {σ : Type}

namespace Outcome

/-- Whether a request came to an end of its own. -/
def isEnded : Outcome → Bool
  | .completed .. | .failed _ => true
  | _ => false

/-- The outcome of a request of a run in which nothing is sent. -/
def unsent : Except MissingField Request → Outcome
  | .ok _ => .notRun
  | .error e => .invalid e

/-- First come outcomes of requests that ended of their own, then one cancelled request at most, and
then only requests that were not begun. -/
def InOrder (outcomes : List Outcome) : Prop :=
  ∃ ended stopped rest, outcomes = ended ++ stopped ++ rest ∧
    (∀ o ∈ ended, o.isEnded = true) ∧
    stopped.length ≤ 1 ∧ (∀ o ∈ stopped, o = .cancelled) ∧
    ∀ o ∈ rest, o = .notRun

theorem inOrder_of_notRun {outcomes : List Outcome} (h : ∀ o ∈ outcomes, o = .notRun) :
    InOrder outcomes :=
  ⟨[], [], outcomes, rfl, nofun, Nat.zero_le 1, nofun, h⟩

theorem inOrder_cancelled_cons {outcomes : List Outcome} (h : ∀ o ∈ outcomes, o = .notRun) :
    InOrder (.cancelled :: outcomes) :=
  ⟨[], [.cancelled], outcomes, rfl, nofun, Nat.le_refl 1,
    fun _ ho => List.mem_singleton.mp ho, h⟩

theorem InOrder.cons {o : Outcome} {outcomes : List Outcome} (h : InOrder outcomes)
    (ho : o.isEnded = true) : InOrder (o :: outcomes) := by
  obtain ⟨ended, stopped, rest, rfl, hended, hone, hstopped, hrest⟩ := h
  exact ⟨o :: ended, stopped, rest, rfl, List.forall_mem_cons.mpr ⟨ho, hended⟩, hone, hstopped,
    hrest⟩

end Outcome

namespace Progress

/-! ## Aborted runs -/

/-- A request that did not come to an end of its own leaves an aborted run. -/
theorem Ends.ended_or_aborted {client : Client} {net : Network σ} {r : Request}
    {store store' : Store} {outcome : Outcome} {handed : List (Handover σ)} {state : σ}
    (h : Ends client net r store outcome handed store' state) :
    outcome.isEnded = true ∨
      (outcome = .cancelled ∨ outcome = .notRun) ∧ net.isAborted state = true := by
  cases h with
  | notBegun aborted => exact .inr ⟨.inr rfl, aborted⟩
  | withdrawn aborted => exact .inr ⟨.inl rfl, aborted⟩
  | interrupted _ _ aborted => exact .inr ⟨.inl rfl, net.isAborted_of_send _ _ _ aborted⟩
  | unfit | unanswered | answered => exact .inl rfl

variable (client : Client) (net : Network σ) (requests : List (Nat × Request)) (p : Progress σ)

/-- Once a run is aborted it stays so, and no request is begun. -/
theorem performAll_of_aborted {p : Progress σ} (h : net.isAborted p.state = true) :
    (∀ o ∈ (performAll client net requests p).1.map (·.outcome), o = .notRun) ∧
      net.isAborted (performAll client net requests p).2.state = true := by
  induction requests generalizing p with
  | nil => exact ⟨nofun, h⟩
  | cons request rest ih =>
    have hpause := net.isAborted_pause p.state h
    rw [performAll_cons, proceed_of_aborted hpause]
    obtain ⟨hrest, hfinal⟩ := ih (p := p.pause net) hpause
    exact ⟨List.forall_mem_cons.mpr ⟨rfl, hrest⟩, hfinal⟩

theorem inOrder_performAll :
    Outcome.InOrder ((performAll client net requests p).1.map (·.outcome)) := by
  induction requests generalizing p with
  | nil => exact Outcome.inOrder_of_notRun nofun
  | cons request rest ih =>
    rw [performAll_cons, List.map_cons]
    rcases (proceed_ends client net request p).ended_or_aborted with hended | ⟨ho, haborted⟩
    · exact (ih _).cons hended
    · -- The run is aborted by now, so whatever follows is not begun.
      have hrest := (performAll_of_aborted client net rest haborted).1
      rcases ho with ho | ho
      · rw [ho]
        exact Outcome.inOrder_cancelled_cons hrest
      · rw [ho]
        exact Outcome.inOrder_of_notRun (List.forall_mem_cons.mpr ⟨rfl, hrest⟩)

/-- In a run that is not aborted, every request comes to an end of its own. -/
theorem ended_of_running (h : net.isAborted (performAll client net requests p).2.state = false) :
    ∀ o ∈ (performAll client net requests p).1.map (·.outcome), o.isEnded = true := by
  induction requests generalizing p with
  | nil => exact nofun
  | cons request rest ih =>
    rw [performAll_cons] at h ⊢
    rcases (proceed_ends client net request p).ended_or_aborted with hended | ⟨-, haborted⟩
    · exact List.forall_mem_cons.mpr ⟨hended, ih _ h⟩
    · have hfinal := (performAll_of_aborted client net rest haborted).2
      exact absurd (h.symm.trans hfinal) nofun

end Progress

namespace Session

variable (s : Session) (net : Network σ) (state : σ)

theorem outcome_unsentResult (request : Nat × RequestLayer) :
    (s.unsentResult request).outcome = .unsent (request.2.merge s.bundle.common) := by
  rw [unsentResult, mergeOne]
  rcases request.2.merge s.bundle.common with e | r
  · rfl
  · rfl

/-- Nothing happens in a run of a bundle with a request that lacks something. -/
theorem runAll_of_missing
    (h : ∃ layer ∈ s.bundle.requests, ∃ e, layer.merge s.bundle.common = .error e) :
    ∃ results notices, s.runAll net state = (⟨results, s.freshStore⟩, notices, state) ∧
      s.runAll net.recorded (state, []) =
        (⟨results, s.freshStore⟩, notices, (state, [])) ∧
      results.map (·.number) = List.range' 1 s.bundle.requests.length ∧
      results.map (·.name) = s.bundle.requests.map (·.name) ∧
      results.map (·.outcome) =
        s.bundle.requests.map fun layer => .unsent (layer.merge s.bundle.common) := by
  obtain ⟨e, he⟩ := exists_merged_error_iff.mpr h
  refine ⟨_, _, runAll_of_error net state he, runAll_of_error net.recorded (state, []) he,
    ?_, ?_, ?_⟩
  · rw [List.map_map]
    exact map_fst_enumerated s.bundle.requests
  · rw [List.map_map]
    exact s.names_numbered
  · have houtcomes : s.numbered.map (fun request => (s.unsentResult request).outcome) =
        (s.numbered.map (·.2)).map fun layer => .unsent (layer.merge s.bundle.common) := by
      rw [List.map_map]
      exact List.map_congr_left fun request _ => s.outcome_unsentResult request
    rw [List.map_map]
    exact houtcomes.trans (congrArg _ (map_snd_enumerated s.bundle.requests))

/-- **What comes of the requests of a run.**  There is one result for each request, with its number
and name.  If a request lacks something, nothing is handed over, just the requests that lack
something are invalid, and the variables are fresh.  Otherwise the outcomes are in order, all
requests come to an end of their own if the run is not aborted, and the requests that are handed
over are those of the bundle, each once at most, in order and before the run is aborted. -/
theorem runAll_results :
    s.runAll net.recorded (state, []) = ((s.runAll net state).1, (s.runAll net state).2.1,
      (s.runAll net state).2.2, s.handovers net state) ∧
    (s.runAll net state).1.results.map (·.number) = List.range' 1 s.bundle.requests.length ∧
    (s.runAll net state).1.results.map (·.name) = s.bundle.requests.map (·.name) ∧
    ((∃ layer ∈ s.bundle.requests, ∃ e, layer.merge s.bundle.common = .error e) →
      s.handovers net state = [] ∧ (s.runAll net state).2.2 = state ∧
      (s.runAll net state).1.store = s.freshStore ∧
      (s.runAll net state).1.outcomes =
        s.bundle.requests.map fun layer => .unsent (layer.merge s.bundle.common)) ∧
    ((∀ layer ∈ s.bundle.requests, ∃ r, layer.merge s.bundle.common = .ok r) →
      Outcome.InOrder (s.runAll net state).1.outcomes ∧
      (net.isAborted (s.runAll net state).2.2 = false →
        ∀ o ∈ (s.runAll net state).1.outcomes, o.isEnded = true) ∧
      ∃ numbered : List (Nat × Handover σ), s.handovers net state = numbered.map (·.2) ∧
        (numbered.map (·.1)).Sublist (List.range' 1 s.bundle.requests.length) ∧
        ∀ sent ∈ numbered, net.isAborted sent.2.state = false ∧
          ∃ (k : Nat) (layer : RequestLayer) (r : Request) (store : Store), sent.1 = k + 1 ∧
            s.bundle.requests[k]? = some layer ∧ layer.merge s.bundle.common = .ok r ∧
            Outgoing.ofRequest s.client.readUrl s.client.autoContentType (r.resolve store.get?) =
              .ok sent.2.request) := by
  rw [handovers]
  rcases hmerged : s.merged with e | requests
  · have hmissing := exists_merged_error_iff.mp ⟨e, hmerged⟩
    obtain ⟨results, notices, hout, hrecorded, hnumbers, hnames, houtcomes⟩ :=
      s.runAll_of_missing net state hmissing
    rw [hout, hrecorded]
    refine ⟨rfl, hnumbers, hnames, fun _ => ⟨rfl, rfl, rfl, houtcomes⟩, fun hall => ?_⟩
    obtain ⟨layer, hlayer, e, he⟩ := hmissing
    obtain ⟨r, hr⟩ := hall layer hlayer
    exact absurd (he.symm.trans hr) nofun
  · rw [runAll_recorded net state hmerged, runAll_of_merged net state hmerged]
    refine ⟨rfl, ?_, ?_, fun hmissing => ?_, fun _ => ⟨?_, ?_, _, rfl, ?_, ?_⟩⟩
    · exact (Progress.numbers_performAll _ _ _ _).trans
        ((map_fst_enumerated requests).trans (by rw [length_merged hmerged]))
    · refine (Progress.names_performAll _ _ _ _).trans (Eq.trans ?_ (names_merged hmerged))
      rw [← map_snd_enumerated requests, List.map_map, map_snd_enumerated]
      rfl
    · obtain ⟨e, he⟩ := exists_merged_error_iff.mpr hmissing
      exact absurd (he.symm.trans hmerged) nofun
    · exact Progress.inOrder_performAll _ _ _ _
    · exact Progress.ended_of_running _ _ _ _
    · rw [← length_merged hmerged, ← map_fst_enumerated requests]
      exact Progress.numbers_handedAll _ _ _ _
    · intro sent hsent
      obtain ⟨k, r, hnumber, hr, hrunning, hready⟩ := exists_ready_of_mem_handed hsent
      obtain ⟨layer, hlayer, hmerge⟩ := exists_layer_of_merged hmerged hr
      exact ⟨hrunning, k, layer, r, _, hnumber, hlayer, hmerge, hready⟩

end Session

end RequestSuite
