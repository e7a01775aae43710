import RequestSuite.Proofs.Capture.Bindings
import RequestSuite.Proofs.Request.Overlay
import RequestSuite.Proofs.Run.Merging
import RequestSuite.Proofs.Variable.History

/-!
# Variables in the course of a run

A run starts with the variables of the selected environment and with assignments.  Requests that are
answered hand variables on to the requests after them, and nothing else does.
`Session.runAll_variables` says which variables each request of a run is filled in from, and which
are there at the end: the fresh ones with the captures of the answered requests before, each applied
to its own response.
-/

namespace RequestSuite

/-! ## Replays -/

namespace Store

theorem base_after (store : Store) (ended : Request × Outcome) :
    (store.after ended).base = store.base := by
  rw [after]
  split
  · exact Capture.base_applyAll _ _ store
  · rfl

theorem base_replay (store : Store) (ended : List (Request × Outcome)) :
    (store.replay ended).base = store.base := by
  induction ended generalizing store with
  | nil => rfl
  | cons first rest ih => exact (ih _).trans (base_after store first)

theorem replay_append (store : Store) (first rest : List (Request × Outcome)) :
    store.replay (first ++ rest) = (store.replay first).replay rest :=
  List.foldl_append

theorem replay_take_succ (store : Store) {ended : List (Request × Outcome)} {k : Nat}
    {e : Request × Outcome} (h : ended[k]? = some e) :
    store.replay (ended.take (k + 1)) = (store.replay (ended.take k)).after e := by
  rw [List.take_add_one, h, replay_append]
  rfl

/-- A request without captures leaves all variables as they are. -/
theorem after_of_rules_eq_nil (store : Store) {r : Request} (h : r.captures.rules = [])
    (outcome : Outcome) : store.after (r, outcome) = store := by
  rw [after]
  split
  · rw [CaptureSection.run, h]
    rfl
  · rfl

/-- Requests that were not answered leave all variables as they are. -/
theorem replay_of_unanswered (store : Store) {ended : List (Request × Outcome)}
    (h : ∀ e ∈ ended, ∀ response report errors, e.2 ≠ .completed response report errors) :
    store.replay ended = store := by
  induction ended generalizing store with
  | nil => rfl
  | cons first rest ih =>
    obtain ⟨hfirst, hrest⟩ := List.forall_mem_cons.mp h
    have hsame : store.after first = store := by
      rw [after]
      split
      · exact absurd ‹_› (hfirst _ _ _)
      · rfl
    exact (ih _ hrest).trans hsame

end Store

namespace Session

/-! ## Fresh variables -/

/-- The last value that is written by assignments is the text of the last one. -/
theorem getLast?_written_override (key : String) (assignments : List (String × String)) :
    (Store.Operation.written key (.override assignments)).getLast? =
      (lastValue key assignments).map .string := by
  rw [lastValue, ← List.getLast?_map, List.map_filterMap, Store.Operation.written]
  congr 2
  funext p
  split
  · rfl
  · rfl

theorem captured_freshStore (s : Session) : s.freshStore.captured = [] := by
  rw [freshStore, Store.captured_override]
  cases s.sources.environment with
  | none => rfl
  | some name => rfl

/-- The last assignment to a variable hides all environments, the environment of the bundle hides
those from outside, and each of these the ones before it. -/
theorem get?_freshStore (s : Session) (key : String) : s.freshStore.get? key =
    ((lastValue key s.sources.assignments).map .string).or
      (s.sources.environment.bind fun name => (s.bundle.environments.value? name key).or
        (s.sources.external.filterMap fun set => set.value? name key).getLast?) := by
  have hloaded : (Store.load s.sources.environment s.bundle.environments
      s.sources.external).base.get? key =
        s.sources.environment.bind fun name => (s.bundle.environments.value? name key).or
          (s.sources.external.filterMap fun set => set.value? name key).getLast? := by
    cases s.sources.environment with
    | none => rfl
    | some name => exact Store.get?_layered name _ _ key
  rw [Store.get?, captured_freshStore, freshStore, Store.get?_base_override,
    getLast?_written_override, hloaded]
  rfl

variable {σ : Type} (s : Session) (net : Network σ) (state : σ)

section

variable {s net state} {requests : List Request} {k : Nat} {r : Request} {result : Result}

theorem eq_of_getElem?_course (hr : requests[k]? = some r)
    (hresult : (s.course net state requests).1[k]? = some result) :
    result =
      (Progress.proceed s.client net (k + 1, r) (s.stage net state requests k)).1 := by
  rw [getElem?_course, hr] at hresult
  exact (Option.some.inj hresult).symm

theorem getElem?_ended (hr : requests[k]? = some r)
    (hresult : (s.course net state requests).1[k]? = some result) :
    (s.ended net state requests)[k]? = some (r, result.outcome) := by
  refine List.getElem?_zip_eq_some.mpr ⟨hr, ?_⟩
  rw [List.getElem?_map, hresult]
  rfl

/-- Each request that is begun is filled in from the variables before it. -/
theorem tellsOf_of_begun (hr : requests[k]? = some r)
    (hresult : (s.course net state requests).1[k]? = some result)
    (hbegun : result.outcome ≠ .notRun) :
    result.TellsOf r (s.freshStore.replay ((s.ended net state requests).take k)) := by
  rw [← store_stage]
  obtain rfl := eq_of_getElem?_course hr hresult
  exact Progress.tellsOf_proceed _ _ _ _ hbegun

/-- The response of a request that was answered is what came of handing it over. -/
theorem exists_replied {response : Response} {report : Report} {errors : List CaptureError}
    (hresult : (s.course net state requests).1[k]? = some result)
    (houtcome : result.outcome = .completed response report errors) :
    ∃ sent reply, (k + 1, sent) ∈ Progress.handedAll s.client net (enumerated requests)
        { store := s.freshStore, state := state } ∧
      (net.send s.client sent.request sent.state).exchange = .reply reply ∧
      response = .answered reply (net.send s.client sent.request sent.state).elapsed := by
  have hk := (List.getElem?_eq_some_iff.mp hresult).1
  rw [length_course] at hk
  have hr := List.getElem?_eq_getElem hk
  obtain rfl := eq_of_getElem?_course hr hresult
  have hends := Progress.proceed_ends s.client net (k + 1, requests[k])
    (s.stage net state requests k)
  rw [houtcome] at hends
  obtain ⟨sent, hsent, reply, hreply⟩ := hends.replied
  have hnumbered : (enumerated requests)[k]? = some (k + 1, requests[k]) := by
    rw [getElem?_enumerated, hr]
    rfl
  exact ⟨sent, reply, Progress.mem_handedAll _ _ _ _ hnumbered hsent, hreply⟩

/-- The variables at the end are those after any request from which on none was answered. -/
theorem store_of_unanswered
    (h : ∀ result ∈ (s.course net state requests).1.drop k, ∀ response report errors,
      result.outcome ≠ .completed response report errors) :
    (s.course net state requests).2.store =
      s.freshStore.replay ((s.ended net state requests).take k) := by
  rw [store_course]
  conv_lhs => rw [← List.take_append_drop k (s.ended net state requests), Store.replay_append]
  refine Store.replay_of_unanswered _ fun e he => ?_
  -- What was left out of the replay belongs to results from the `k`th on.
  rw [ended, List.zip_eq_zipWith, List.drop_zipWith, ← List.zip_eq_zipWith, ← List.map_drop] at he
  obtain ⟨result, hresult, heq⟩ := List.mem_map.mp (List.of_mem_zip he).2
  rw [← heq]
  exact h result hresult

end

/-- **The variables of a run.**  Each request that is begun is filled in from the fresh variables
with the captures of the requests before it that were answered, each applied to its own response.
Of the fresh variables none is captured; each has the text of its last assignment, or else the
value of the selected environment in the bundle, or else its last value from outside.
Requests that were not answered change nothing, no request changes the base variables, and the
variables at the end are those after the last request that was answered. -/
theorem runAll_variables {requests : List Request} (h : s.merged = .ok requests) :
    let out := s.runAll net state
    let before (k : Nat) := s.freshStore.replay ((requests.zip out.1.outcomes).take k)
    (s.freshStore.captured = [] ∧ ∀ key, s.freshStore.get? key =
      ((lastValue key s.sources.assignments).map .string).or
        (s.sources.environment.bind fun name => (s.bundle.environments.value? name key).or
          (s.sources.external.filterMap fun set => set.value? name key).getLast?)) ∧
    (∀ (k : Nat) r result, requests[k]? = some r → out.1.results[k]? = some result →
      before (k + 1) = (before k).after (r, result.outcome) ∧
      (result.outcome ≠ .notRun → result.TellsOf r (before k))) ∧
    (∃ numbered : List (Nat × Handover σ), s.handovers net state = numbered.map (·.2) ∧
      (∀ sent ∈ numbered, ∃ (k : Nat) (r : Request), sent.1 = k + 1 ∧ requests[k]? = some r ∧
        Outgoing.ofRequest s.client.readUrl s.client.autoContentType (r.resolve (before k).get?) =
          .ok sent.2.request) ∧
      ∀ (k : Nat) result response report errors, out.1.results[k]? = some result →
        result.outcome = .completed response report errors →
        ∃ sent reply, (k + 1, sent) ∈ numbered ∧
          (net.send s.client sent.request sent.state).exchange = .reply reply ∧
          response = .answered reply (net.send s.client sent.request sent.state).elapsed) ∧
    (∀ k, (before k).base = s.freshStore.base) ∧
    out.1.store = before requests.length ∧
    ∀ k, (∀ result ∈ out.1.results.drop k, ∀ response report errors,
      result.outcome ≠ .completed response report errors) → out.1.store = before k := by
  rw [handovers, runAll_recorded net state h, runAll_of_merged net state h]
  refine ⟨⟨s.captured_freshStore, s.get?_freshStore⟩,
    fun k r result hr hresult => ⟨?_, tellsOf_of_begun hr hresult⟩,
    ⟨_, rfl, fun sent hsent => ?_, fun k result response report errors => exists_replied⟩,
    fun k => Store.base_replay _ _, ?_, fun k => store_of_unanswered⟩
  · exact Store.replay_take_succ _ (getElem?_ended hr hresult)
  · obtain ⟨k, r, hnumber, hr, -, hready⟩ := exists_ready_of_mem_handed hsent
    exact ⟨k, r, hnumber, hr, hready⟩
  · have hall : (s.ended net state requests).take requests.length = s.ended net state requests :=
      List.take_of_length_le (Nat.le_of_eq (length_ended s requests net state))
    rw [store_course, ← hall]
    rfl

/-- A reader that knows two addresses. -/
def loginReader : UrlReader := fun text =>
  let localhost : Authority := ⟨"", "", "localhost", none⟩
  if text = "http://localhost/login" then .ok ⟨"http", some localhost, "/login", none, none⟩
  else if text = "http://localhost/list?by=ada&token=c0ffee" then
    .ok ⟨"http", some localhost, "/list", some "by=ada&token=c0ffee", none⟩
  else .error .noScheme

/-- A bundle whose first request captures a token that its second request sends, with a host that
the bundle and a file tell and a user whom the file and an assignment tell. -/
def login : Session where
  bundle.requests := [
    { name := "login", method := some "POST", url := some "http://localhost/login"
      captures := { body := some "token" } },
    { name := "list", method := some "GET", url := some "http://$host/list"
      params := [⟨"by", .string "$user", true⟩, ⟨"token", .string "$token", true⟩] }]
  bundle.environments := .ofList [("test", [("host", .string "localhost")])]
  client.readUrl := loginReader
  sources.environment := some "test"
  sources.external :=
    [.ofList [("test", [("host", .string "example.org"), ("user", .string "root")])]]
  sources.assignments := [("user", "ada")]

/-- The first request of the bundle, merged. -/
def loginRequest : Request :=
  { name := "login", method := "POST", baseUrl := none, url := "http://localhost/login"
    headers := [], params := [], body := none, options := .standard, tests := {}
    captures := { body := some "token" } }

/-- The second request of the bundle, merged. -/
def listRequest : Request :=
  { name := "list", method := "GET", baseUrl := none, url := "http://$host/list"
    headers := [], params := [⟨"by", .string "$user", true⟩, ⟨"token", .string "$token", true⟩]
    body := none, options := .standard, tests := {}, captures := {} }

/-- The second request is filled in with the host of the bundle, the user of the assignment and the
token that the first one captured, and after it the variables are what they were before. -/
theorem runAll_variables_login :
    let net := Network.constant (.ofBody "c0ffee")
    let run := (login.runAll net ()).1
    let before := login.freshStore.replay (([loginRequest, listRequest].zip run.outcomes).take 1)
    login.merged = .ok [loginRequest, listRequest] ∧
      login.freshStore.get? "host" = some (.string "localhost") ∧
      login.freshStore.get? "user" = some (.string "ada") ∧
      login.freshStore.get? "token" = none ∧ before.get? "token" = some (.string "c0ffee") ∧
      (∃ result, run.results[1]? = some result ∧ result.TellsOf listRequest before ∧
        result.url = "http://localhost/list?by=ada&token=c0ffee") ∧
      before.base = login.freshStore.base ∧ run.store = before := by
  intro net run before
  have hmerged : login.merged = .ok [loginRequest, listRequest] := rfl
  obtain ⟨⟨-, hfresh⟩, hrequests, -, hbase, hstore, -⟩ := login.runAll_variables net () hmerged
  have hsuccess : (run.results.map Result.isSuccess)[1]? = some true := by decide +kernel
  rw [List.getElem?_map] at hsuccess
  obtain ⟨result, hresult, hsuccess⟩ := Option.map_eq_some_iff.mp hsuccess
  obtain ⟨hnext, htells⟩ := hrequests 1 listRequest result rfl hresult
  have hbegun : result.outcome ≠ .notRun := by
    intro hnotRun
    rw [Result.isSuccess, Result.report?, hnotRun] at hsuccess
    cases hsuccess
  refine ⟨hmerged, (hfresh _).trans ?_, (hfresh _).trans ?_, (hfresh _).trans ?_, ?_,
    ⟨result, hresult, htells hbegun, (htells hbegun).url.trans ?_⟩, hbase 1, ?_⟩
  · decide +kernel
  · decide +kernel
  · decide +kernel
  · decide +kernel
  · decide +kernel
  · -- The second request captures nothing.
    exact hstore.trans (hnext.trans (Store.after_of_rules_eq_nil _ rfl _))

end Session

end RequestSuite
