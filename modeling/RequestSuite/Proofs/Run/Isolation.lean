import RequestSuite.Proofs.Run.Outcomes
import RequestSuite.Proofs.Run.Variables
import RequestSuite.Proofs.Template.Mention

/-!
# Requests that do not depend on others

On a network that answers each request in a fixed way, what comes of a request depends on nothing
but the request with its templates filled in, times aside (`Request.outlook`).  So a request that
mentions no variable that requests before it capture gives the same result in a run of all requests
as when it is run alone (`Session.runAll_isolated`).
-/

namespace RequestSuite

variable {σ : Type}

/-! ## Without times -/

/-- A response without its time. -/
def Response.untimed (r : Response) : Response :=
  { r with duration := 0 }

/-- An outcome without times. -/
def Outcome.untimed : Outcome → Outcome
  | .completed response report errors => .completed response.untimed report errors
  | .failed response => .failed response.untimed
  | outcome => outcome

/-- A result without times. -/
def Result.untimed (r : Result) : Result :=
  { r with duration := 0, outcome := r.outcome.untimed }

theorem Source.extract_untimed (source : Source) (r : Response) :
    source.extract r.untimed = source.extract r := by
  cases source <;> rfl

theorem Report.check_untimed (r : Response) : check r.untimed = check r := by
  funext report leaf
  rw [check, check, Source.extract_untimed]

/-- Tests do not look at the time of a response. -/
theorem TestSection.run_untimed (t : TestSection) (stopOnFailure : Bool) (r : Response) :
    t.run stopOnFailure r.untimed = t.run stopOnFailure r := by
  rw [run, run, Report.check_untimed]

namespace Capture

theorem extract_untimed (c : Capture) (r : Response) : c.extract r.untimed = c.extract r := by
  obtain ⟨target, source⟩ := c
  cases source <;> rfl

theorem errors_untimed (r : Response) (rules : List Capture) :
    errors r.untimed rules = errors r rules := by
  rw [errors, errors]
  simp only [extract_untimed]

end Capture

/-! ## Fixed answers -/

/-- What an exchange makes of a request with its templates filled in, times aside. -/
def Exchange.outlook (resolved : Request) : Exchange → Outcome
  | .reply r =>
    .completed (.answered r 0)
      (resolved.tests.run resolved.options.stopOnFailure (.answered r 0))
      (Capture.errors (.answered r 0) resolved.captures.rules)
  | .fault kind detail => .failed (.failed ⟨kind.kind detail, detail⟩ 0)
  | .aborted => .cancelled

/-- What comes of a request with its templates filled in, times aside, when what is sent for it has
a fixed answer. -/
def Request.outlook (resolved : Request) (answer : Outgoing → Exchange) :
    Except Failure Outgoing → Outcome
  | .error f => .failed (.failed f 0)
  | .ok o => (answer o).outlook resolved

/-- The result of a request that is filled in from a look-up, times aside. -/
def Result.outlook (client : Client) (answer : Outgoing → Exchange) (number : Nat) (r : Request)
    (lookup : Lookup) : Result :=
  { number := number
    name := r.name
    method := Unicode.upper (r.resolve lookup).method
    url := (r.resolve lookup).fullUrl
    undefined := r.undefinedNames lookup
    options := r.options
    outcome := (r.resolve lookup).outlook answer (client.prepare (r.resolve lookup)) }

/-- Look-ups that agree on the names in a request make the same of it. -/
theorem Result.outlook_congr {client : Client} {answer : Outgoing → Exchange} {number : Nat}
    {r : Request} {lookup₁ lookup₂ : Lookup} (h : AgreeOn r.names lookup₁ lookup₂) :
    outlook client answer number r lookup₁ = outlook client answer number r lookup₂ := by
  rw [outlook, outlook, Request.resolve_congr h, Request.undefinedNames_congr h]

namespace Progress

variable {client : Client} {net : Network σ} {answer : Outgoing → Exchange}

/-- A request that came to an end of its own has the outcome that its answer tells. -/
theorem Ends.untimed_eq {r : Request} {store store' : Store} {outcome : Outcome}
    {handed : List (Handover σ)} {state : σ}
    (h : Ends client net r store outcome handed store' state) (hended : outcome.isEnded = true)
    (hanswer : ∀ o s, (net.send client o s).exchange = answer o) :
    outcome.untimed =
      (r.resolve store.get?).outlook answer (client.prepare (r.resolve store.get?)) := by
  cases h with
  | notBegun | withdrawn | interrupted => cases hended
  | unfit fault =>
    rw [fault]
    rfl
  | unanswered ready running fault =>
    rw [ready, Request.outlook, ← hanswer, fault]
    rfl
  | answered ready running replied eq =>
    rename_i o s reply response
    have huntimed : Response.answered reply 0 = response.untimed := by rw [eq]; rfl
    rw [ready, Request.outlook, ← hanswer, replied, Exchange.outlook, Outcome.untimed,
      CaptureSection.run, Capture.errors_applyAll, huntimed, TestSection.run_untimed,
      Capture.errors_untimed]
    rfl

theorem untimed_perform {number : Nat} {r : Request} {p : Progress σ}
    (hended : (perform client net number r p).1.outcome.isEnded = true)
    (hanswer : ∀ o s, (net.send client o s).exchange = answer o) :
    (perform client net number r p).1.untimed =
      .outlook client answer number r p.store.get? := by
  have houtcome := (perform_ends client net number r p).untimed_eq hended hanswer
  rw [perform_eq] at houtcome ⊢
  rw [Result.untimed, Result.outlook, ← houtcome]

theorem untimed_proceed {request : Nat × Request} {p : Progress σ}
    (hended : (proceed client net request p).1.outcome.isEnded = true)
    (hanswer : ∀ o s, (net.send client o s).exchange = answer o) :
    (proceed client net request p).1.untimed =
      .outlook client answer request.1 request.2 p.store.get? := by
  cases h : net.isAborted (net.pause p.state) with
  | true =>
    rw [proceed_of_aborted h] at hended
    cases hended
  | false =>
    rw [proceed_of_running h] at hended ⊢
    exact untimed_perform hended hanswer

end Progress

/-! ## Variables that are not captured -/

/-- Captures leave the variables alone that they do not name. -/
theorem Capture.get?_applyAll {response : Response} {rules : List Capture} {name : String}
    (h : ∀ rule ∈ rules, rule.target ≠ name) (store : Store) :
    (applyAll response rules store).1.get? name = store.get? name := by
  have hnone : lastValue name (taken response rules) = none :=
    lastValue_taken_eq_none fun rule hrule htarget => absurd htarget (h rule hrule)
  rw [Store.get?, Store.get?, base_applyAll, get?_captured_applyAll, hnone]
  rfl

theorem Store.get?_after {store : Store} {ended : Request × Outcome} {name : String}
    (h : ∀ rule ∈ ended.1.captures.rules, rule.target ≠ name) :
    (store.after ended).get? name = store.get? name := by
  rw [after]
  split
  · exact Capture.get?_applyAll h store
  · rfl

/-- Requests leave the variables alone that none of their captures names. -/
theorem Store.get?_replay {store : Store} {ended : List (Request × Outcome)} {name : String}
    (h : ∀ e ∈ ended, ∀ rule ∈ e.1.captures.rules, rule.target ≠ name) :
    (store.replay ended).get? name = store.get? name := by
  induction ended generalizing store with
  | nil => rfl
  | cons first rest ih =>
    obtain ⟨hfirst, hrest⟩ := List.forall_mem_cons.mp h
    exact (ih hrest).trans (get?_after hfirst)

/-! ## Runs of one request -/

theorem find?_eq_of_nodup {α : Type} {items : List α} {name : α → String}
    (h : (items.map name).Nodup) {k : Nat} {item : α} (hitem : items[k]? = some item) :
    items.find? (fun other => name other == name item) = some item := by
  induction items generalizing k with
  | nil => cases hitem
  | cons first rest ih =>
    rw [List.map_cons, List.nodup_cons] at h
    cases k with
    | zero =>
      cases hitem
      exact List.find?_cons_of_pos (beq_self_eq_true _)
    | succ k =>
      have hmem : name item ∈ rest.map name :=
        List.mem_map_of_mem (List.mem_of_getElem? hitem)
      have hne : name first ≠ name item := fun heq => h.1 (heq ▸ hmem)
      rw [List.find?_cons_of_neg (by simpa using hne)]
      exact ih h.2 hitem

namespace Session

variable {s : Session} {net : Network σ} {requests : List Request} {k : Nat} {r : Request}

/-- Where names are distinct, running the request of a name performs that request with fresh
variables. -/
theorem runOne?_of_merged (hmerged : s.merged = .ok requests)
    (hnames : (s.bundle.requests.map (·.name)).Nodup) (hr : requests[k]? = some r) (state : σ) :
    s.runOne? net r.name state =
      let out := Progress.perform s.client net (k + 1) r { store := s.freshStore, state := state }
      some (⟨[out.1], out.2.store⟩, out.2.notices, out.2.state) := by
  obtain ⟨layer, hlayer, hmerge⟩ := exists_layer_of_merged hmerged hr
  have hnumbered : s.numbered[k]? = some (k + 1, layer) := by
    refine (getElem?_enumerated s.bundle.requests k).trans ?_
    rw [hlayer]
    rfl
  have hdistinct : (s.numbered.map (·.2.name)).Nodup := by
    rw [names_numbered]
    exact hnames
  have hfind : s.find? r.name = some (k + 1, layer) := by
    rw [find?, RequestLayer.name_merge hmerge]
    exact find?_eq_of_nodup hdistinct hnumbered
  have hone : s.mergeOne (k + 1, layer) = .ok (k + 1, r) := by
    rw [mergeOne, hmerge]
    rfl
  rw [runOne?, hfind, Option.map_some, hone]

/-- The requests before one that mentions none of their captures leave its variables alone. -/
theorem agreeOn_stage
    (hindependent : ∀ earlier ∈ requests.take k, ∀ rule ∈ earlier.captures.rules,
      rule.target ∉ r.names) (state : σ) :
    AgreeOn r.names (s.stage net state requests k).store.get? s.freshStore.get? := by
  intro name hname
  rw [store_stage]
  refine Store.get?_replay fun e he rule hrule htarget => ?_
  rw [ended, List.zip_eq_zipWith, List.take_zipWith, ← List.zip_eq_zipWith] at he
  exact hindependent e.1 (List.of_mem_zip he).1 rule hrule (htarget ▸ hname)

/-- **Isolation of a request.**  Take a bundle with distinct names whose requests can all be merged,
a network that answers each request in a fixed way, and a request that mentions no variable that the
requests before it capture.  If neither run is aborted, a run of all requests and a run of this one
alone give the same result for it, times aside. -/
theorem runAll_isolated (state state' : σ) (answer : Outgoing → Exchange)
    (hmerged : s.merged = .ok requests) (hnames : (s.bundle.requests.map (·.name)).Nodup)
    (hanswer : ∀ o s', (net.send s.client o s').exchange = answer o)
    (hr : requests[k]? = some r)
    (hindependent : ∀ earlier ∈ requests.take k, ∀ rule ∈ earlier.captures.rules,
      rule.target ∉ r.names)
    (hall : net.isAborted (s.runAll net state).2.2 = false)
    (hone : ∀ one ∈ s.runOne? net r.name state', net.isAborted one.2.2 = false) :
    ∃ result single one, (s.runAll net state).1.results[k]? = some result ∧
      s.runOne? net r.name state' = some one ∧ one.1.results = [single] ∧
      result.untimed = single.untimed := by
  rw [runAll_of_merged net state hmerged] at hall ⊢
  rw [runOne?_of_merged hmerged hnames hr] at hone ⊢
  have hresult : (s.course net state requests).1[k]? =
      some (Progress.proceed s.client net (k + 1, r) (s.stage net state requests k)).1 := by
    rw [getElem?_course, hr]
    rfl
  refine ⟨_, _, _, hresult, rfl, rfl, ?_⟩
  -- Neither run is aborted, so the request comes to an end of its own in both.
  have hended := Progress.ended_of_running _ _ _ _ hall _
    (List.mem_map_of_mem (List.mem_of_getElem? hresult))
  have hsingle : (Progress.perform s.client net (k + 1) r
      { store := s.freshStore, state := state' }).1.outcome.isEnded = true := by
    rcases (Progress.perform_ends s.client net (k + 1) r _).ended_or_aborted with h | ⟨-, h⟩
    · exact h
    · exact absurd ((hone _ rfl).symm.trans h) nofun
  rw [Progress.untimed_proceed hended hanswer, Progress.untimed_perform hsingle hanswer]
  exact Result.outlook_congr (agreeOn_stage hindependent state)

/-- A bundle with a request that captures a token and one that mentions another variable. -/
def paged : Session where
  bundle.requests := [
    { name := "login", method := some "POST", url := some "http://localhost/login"
      captures := { body := some "token" } },
    { name := "page", method := some "GET", url := some "http://localhost/$page" }]
  sources.assignments := [("page", "7")]

/-- The second request of the bundle, merged. -/
def pageRequest : Request :=
  { name := "page", method := "GET", baseUrl := none, url := "http://localhost/$page"
    headers := [], params := [], body := none, options := .standard, tests := {}, captures := {} }

theorem names_pageRequest : pageRequest.names = ["page"] := by
  decide +kernel

/-- The token is captured in a run of both requests only, and the second request does not notice. -/
theorem runAll_isolated_page :
    let net := Network.constant (.ofBody "c0ffee")
    ∃ result single one, (paged.runAll net ()).1.results[1]? = some result ∧
      paged.runOne? net "page" () = some one ∧ one.1.results = [single] ∧
      result.untimed = single.untimed := by
  intro net
  have hmerged : paged.merged = .ok [loginRequest, pageRequest] := rfl
  have hnames : (paged.bundle.requests.map (·.name)).Nodup := by decide
  have hindependent : ∀ earlier ∈ [loginRequest, pageRequest].take 1,
      ∀ rule ∈ earlier.captures.rules, rule.target ∉ pageRequest.names := by
    rw [names_pageRequest]
    decide
  exact runAll_isolated () () (fun _ => .reply (.ofBody "c0ffee")) hmerged hnames (fun _ _ => rfl)
    rfl hindependent rfl fun _ _ => rfl

end Session

end RequestSuite
