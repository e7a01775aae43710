import RequestSuite.Proofs.Http.Handover
import RequestSuite.Run.Session

/-!
# The course of a run

What the requests of a run do, one after the other.  `Progress.Ends` lists all that can come of one
request: its outcome, what was handed to the network, the variables and the state after it.
Everything about whole runs is derived from that list by induction on the requests: the numbers and
names of the results, that an aborted run stays aborted, which variables there are before each
request (`Store.replay`), and that a recorded network gets what `Progress.handedAll` says.
-/

namespace RequestSuite

variable {σ : Type}

/-! ## Variables after requests -/

namespace Store

/-- The variables after a request with its outcome: the captures of a request that was answered are
applied to its response, whether or not its tests passed, and no other outcome changes anything. -/
def after (store : Store) (ended : Request × Outcome) : Store :=
  match ended.2 with
  | .completed response _ _ => (ended.1.captures.run response store).1
  | _ => store

/-- The variables after several requests with their outcomes. -/
def replay (store : Store) (ended : List (Request × Outcome)) : Store :=
  ended.foldl after store

end Store

/-! ## One request -/

/-- A result that tells of a request as it is with its templates filled in from a store, and of the
tests and captures of that request. -/
structure Result.TellsOf (result : Result) (r : Request) (store : Store) : Prop where
  method : result.method = Unicode.upper (r.resolve store.get?).method
  url : result.url = (r.resolve store.get?).fullUrl
  undefined : result.undefined = r.undefinedNames store.get?
  options : result.options = r.options
  completed : ∀ response report errors, result.outcome = .completed response report errors →
    report = (r.resolve store.get?).tests.run r.options.stopOnFailure response ∧
      errors = (r.captures.run response store).2

namespace Progress

/-- What can come of a request: the outcome, what was handed over, the variables and the state. -/
inductive Ends (client : Client) (net : Network σ) (r : Request) (store : Store) :
    Outcome → List (Handover σ) → Store → σ → Prop where
  /-- the run had been aborted before -/
  | notBegun {s : σ} (aborted : net.isAborted s = true) :
    Ends client net r store .notRun [] store s
  /-- the run was aborted before the request was handed over -/
  | withdrawn {s : σ} (aborted : net.isAborted s = true) :
    Ends client net r store .cancelled [] store s
  /-- the request cannot be sent -/
  | unfit {f : Failure} {s : σ} (fault : client.prepare (r.resolve store.get?) = .error f) :
    Ends client net r store (.failed (.failed f 0)) [] store s
  /-- the run was aborted while the request was on its way -/
  | interrupted {o : Outgoing} {s : σ} (ready : client.prepare (r.resolve store.get?) = .ok o)
    (running : net.isAborted s = false) (aborted : (net.send client o s).exchange = .aborted) :
    Ends client net r store .cancelled [⟨o, s⟩] store (net.send client o s).state
  /-- no reply came -/
  | unanswered {o : Outgoing} {s : σ} {kind : NetworkFault} {detail : String}
    (ready : client.prepare (r.resolve store.get?) = .ok o) (running : net.isAborted s = false)
    (fault : (net.send client o s).exchange = .fault kind detail) :
    Ends client net r store
      (.failed (.failed ⟨kind.kind detail, detail⟩ (net.send client o s).elapsed))
      [⟨o, s⟩] store (net.send client o s).state
  /-- a reply came -/
  | answered {o : Outgoing} {s : σ} {reply : Reply} {response : Response}
    (ready : client.prepare (r.resolve store.get?) = .ok o) (running : net.isAborted s = false)
    (replied : (net.send client o s).exchange = .reply reply)
    (eq : response = .answered reply (net.send client o s).elapsed) :
    Ends client net r store
      (.completed response
        ((r.resolve store.get?).tests.run r.options.stopOnFailure response)
        (r.captures.run response store).2)
      [⟨o, s⟩] (r.captures.run response store).1 (net.send client o s).state

namespace Ends

variable {client : Client} {net : Network σ} {r : Request} {store store' : Store}
  {outcome : Outcome} {handed : List (Handover σ)} {state : σ}

theorem store_eq (h : Ends client net r store outcome handed store' state) :
    store' = store.after (r, outcome) := by
  cases h <;> rfl

theorem completed {response : Response} {report : Report} {errors : List CaptureError}
    (h : Ends client net r store (.completed response report errors) handed store' state) :
    report = (r.resolve store.get?).tests.run r.options.stopOnFailure response ∧
      errors = (r.captures.run response store).2 := by
  cases h with
  | answered ready running replied eq => exact ⟨rfl, rfl⟩

/-- The response of a request that was answered is what came of handing it over. -/
theorem replied {response : Response} {report : Report} {errors : List CaptureError}
    (h : Ends client net r store (.completed response report errors) handed store' state) :
    ∃ sent ∈ handed, ∃ reply,
      (net.send client sent.request sent.state).exchange = .reply reply ∧
        response = .answered reply (net.send client sent.request sent.state).elapsed := by
  cases h with
  | answered ready running replied eq =>
    exact ⟨_, List.mem_singleton_self _, _, replied, eq⟩

/-- What is handed over is the request with its templates filled in, before the run is aborted. -/
theorem ready_of_mem (h : Ends client net r store outcome handed store' state) {sent : Handover σ}
    (hsent : sent ∈ handed) :
    client.prepare (r.resolve store.get?) = .ok sent.request ∧
      net.isAborted sent.state = false := by
  cases h with
  | notBegun | withdrawn | unfit => cases hsent
  | interrupted ready running | unanswered ready running | answered ready running =>
    obtain rfl := List.mem_singleton.mp hsent
    exact ⟨ready, running⟩

theorem length_handed_le (h : Ends client net r store outcome handed store' state) :
    handed.length ≤ 1 := by
  cases h <;> simp

end Ends

/-- What a request that is begun hands over, or nothing if the run has been aborted before. -/
def handed (client : Client) (net : Network σ) (r : Request) (p : Progress σ) :
    List (Handover σ) :=
  if net.isAborted (net.pause p.state) then []
  else client.handed net (r.resolve p.store.get?) (net.pause p.state)

theorem conclude_of_failed (r : Request) {f : Failure} (hkind : f.kind ≠ .cancelled)
    (elapsed : Nat) (p : Progress σ) :
    conclude r (.failed f elapsed) p =
      (.failed (.failed f elapsed), p.note [.requestFailed f.text]) := by
  have hcancelled : (Response.failed f elapsed).isCancelled = false := by
    simpa [Response.isCancelled, Response.failure?, Response.failed] using hkind
  rw [conclude, hcancelled]
  rfl

theorem conclude_ends {client : Client} {net : Network σ} {r : Request} {p : Progress σ}
    {response : Response} {handed : List (Handover σ)}
    (h : client.Sends net (r.resolve p.store.get?) response handed p.state) :
    Ends client net r p.store (conclude (r.resolve p.store.get?) response p).1 handed
      (conclude (r.resolve p.store.get?) response p).2.store
      (conclude (r.resolve p.store.get?) response p).2.state := by
  obtain ⟨store, state, notices⟩ := p
  cases h with
  | withdrawn aborted => exact .withdrawn aborted
  | unfit fault =>
    rw [conclude_of_failed _ (Client.kind_ne_cancelled_of_prepare fault)]
    exact .unfit fault
  | @handedOver o s ready running =>
    rcases he : (net.send client o s).exchange with reply | ⟨kind, detail⟩ | _
    · exact .answered ready running he rfl
    · rw [Exchange.response, conclude_of_failed _ (NetworkFault.kind_ne_cancelled kind detail)]
      exact .unanswered ready running he
    · exact .interrupted ready running he

/-- The response to a request, and how far the run has got when it is there. -/
def heard (client : Client) (net : Network σ) (r : Request) (p : Progress σ) :
    Response × Progress σ :=
  let sent := client.send net (r.resolve p.store.get?) p.state
  (sent.1,
    { store := p.store
      state := sent.2.2
      notices :=
        p.notices ++ Request.undefinedNotices (r.undefinedNames p.store.get?) ++ sent.2.1 })

/-- What is concluded from the response to a request. -/
def concluded (client : Client) (net : Network σ) (r : Request) (p : Progress σ) :
    Outcome × Progress σ :=
  conclude (r.resolve p.store.get?) (p.heard client net r).1 (p.heard client net r).2

theorem perform_eq (client : Client) (net : Network σ) (number : Nat) (r : Request)
    (p : Progress σ) :
    perform client net number r p =
      ({ number := number
         name := r.name
         method := Unicode.upper (r.resolve p.store.get?).method
         url := (r.resolve p.store.get?).fullUrl
         undefined := r.undefinedNames p.store.get?
         options := r.options
         duration := (p.heard client net r).1.duration
         outcome := (p.concluded client net r).1 }, (p.concluded client net r).2) := by
  simp only [perform, concluded, heard, note]
  -- Both sides take the same triple apart; what it was made from does not matter.
  generalize client.send net (r.resolve p.store.get?) p.state = sent
  obtain ⟨response, notices, state⟩ := sent
  rfl

/-- Whatever comes of a request that is performed is in the list. -/
theorem perform_ends (client : Client) (net : Network σ) (number : Nat) (r : Request)
    (p : Progress σ) :
    Ends client net r p.store (perform client net number r p).1.outcome
      (client.handed net (r.resolve p.store.get?) p.state)
      (perform client net number r p).2.store (perform client net number r p).2.state := by
  rw [perform_eq]
  exact conclude_ends (p := (p.heard client net r).2) (client.send_sends net _ p.state)

theorem tellsOf_perform (client : Client) (net : Network σ) (number : Nat) (r : Request)
    (p : Progress σ) : (perform client net number r p).1.TellsOf r p.store := by
  have hends := perform_ends client net number r p
  refine ⟨?_, ?_, ?_, ?_, fun response report errors houtcome => ?_⟩
  · rw [perform_eq]
  · rw [perform_eq]
  · rw [perform_eq]
  · rw [perform_eq]
  · rw [houtcome] at hends
    exact hends.completed

section

variable {client : Client} {net : Network σ} {request : Nat × Request} {p : Progress σ}

theorem proceed_of_aborted (h : net.isAborted (net.pause p.state) = true) :
    proceed client net request p =
      ({ number := request.1, name := request.2.name, outcome := .notRun }, p.pause net) := by
  rw [proceed]
  exact if_pos h

theorem proceed_of_running (h : net.isAborted (net.pause p.state) = false) :
    proceed client net request p =
      perform client net request.1 request.2 (p.pause net) := by
  rw [proceed]
  exact if_neg (by rw [pause, h]; exact nofun)

theorem handed_of_aborted (h : net.isAborted (net.pause p.state) = true) :
    p.handed client net request.2 = [] := by
  rw [handed, if_pos h]

theorem handed_of_running (h : net.isAborted (net.pause p.state) = false) :
    p.handed client net request.2 =
      client.handed net (request.2.resolve p.store.get?) (net.pause p.state) := by
  rw [handed, if_neg (by rw [h]; exact nofun)]

end

variable (client : Client) (net : Network σ) (request : Nat × Request) (p : Progress σ)

/-- Whatever comes of a request when it is its turn is in the list. -/
theorem proceed_ends :
    Ends client net request.2 p.store (proceed client net request p).1.outcome
      (p.handed client net request.2)
      (proceed client net request p).2.store (proceed client net request p).2.state := by
  cases h : net.isAborted (net.pause p.state) with
  | true =>
    rw [proceed_of_aborted h, handed_of_aborted h]
    exact .notBegun h
  | false =>
    rw [proceed_of_running h, handed_of_running h]
    exact perform_ends client net request.1 request.2 (p.pause net)

theorem number_proceed : (proceed client net request p).1.number = request.1 := by
  cases h : net.isAborted (net.pause p.state) with
  | true => rw [proceed_of_aborted h]
  | false => rw [proceed_of_running h, perform_eq]

theorem name_proceed : (proceed client net request p).1.name = request.2.name := by
  cases h : net.isAborted (net.pause p.state) with
  | true => rw [proceed_of_aborted h]
  | false => rw [proceed_of_running h, perform_eq]

theorem tellsOf_proceed (hbegun : (proceed client net request p).1.outcome ≠ .notRun) :
    (proceed client net request p).1.TellsOf request.2 p.store := by
  cases h : net.isAborted (net.pause p.state) with
  | true => exact absurd (by rw [proceed_of_aborted h]) hbegun
  | false =>
    rw [proceed_of_running h]
    exact tellsOf_perform client net request.1 request.2 (p.pause net)

theorem store_proceed :
    (proceed client net request p).2.store =
      p.store.after (request.2, (proceed client net request p).1.outcome) :=
  (proceed_ends client net request p).store_eq

/-! ## Several requests -/

variable (requests : List (Nat × Request))

theorem performAll_cons :
    performAll client net (request :: requests) p =
      ((proceed client net request p).1 ::
          (performAll client net requests (proceed client net request p).2).1,
        (performAll client net requests (proceed client net request p).2).2) := rfl

theorem numbers_performAll :
    (performAll client net requests p).1.map (·.number) = requests.map (·.1) := by
  induction requests generalizing p with
  | nil => rfl
  | cons request rest ih =>
    rw [performAll_cons, List.map_cons, List.map_cons, ih, number_proceed]

theorem names_performAll :
    (performAll client net requests p).1.map (·.name) = requests.map (·.2.name) := by
  induction requests generalizing p with
  | nil => rfl
  | cons request rest ih =>
    rw [performAll_cons, List.map_cons, List.map_cons, ih, name_proceed]

theorem length_performAll : (performAll client net requests p).1.length = requests.length := by
  have h := congrArg List.length (numbers_performAll client net p requests)
  rwa [List.length_map, List.length_map] at h

/-- The first results are those of a run of the first requests. -/
theorem performAll_take (k : Nat) :
    (performAll client net (requests.take k) p).1 =
      (performAll client net requests p).1.take k := by
  induction requests generalizing p k with
  | nil =>
    rw [List.take_nil]
    exact List.take_nil.symm
  | cons request rest ih =>
    cases k with
    | zero => rfl
    | succ k =>
      rw [List.take_succ_cons, performAll_cons, performAll_cons, List.take_succ_cons]
      exact congrArg _ (ih _ k)

/-- Each result is what comes of the request after those before it. -/
theorem performAll_getElem? (k : Nat) :
    (performAll client net requests p).1[k]? = requests[k]?.map fun request =>
      (proceed client net request (performAll client net (requests.take k) p).2).1 := by
  induction requests generalizing p k with
  | nil => rfl
  | cons request rest ih =>
    cases k with
    | zero => rfl
    | succ k =>
      rw [performAll_cons, List.take_succ_cons, performAll_cons, List.getElem?_cons_succ,
        List.getElem?_cons_succ]
      exact ih _ k

/-- The requests with what came of them. -/
def ended : List (Request × Outcome) :=
  (requests.map (·.2)).zip ((performAll client net requests p).1.map (·.outcome))

/-- The variables after a run are those that its outcomes make. -/
theorem store_performAll :
    (performAll client net requests p).2.store =
      p.store.replay (ended client net p requests) := by
  induction requests generalizing p with
  | nil => rfl
  | cons request rest ih =>
    rw [performAll_cons]
    refine (ih _).trans ?_
    rw [store_proceed]
    rfl

theorem ended_take (k : Nat) :
    ended client net p (requests.take k) = (ended client net p requests).take k := by
  rw [ended, ended, performAll_take, List.map_take, List.map_take, List.zip_eq_zipWith,
    List.zip_eq_zipWith, List.take_zipWith]

theorem store_performAll_take (k : Nat) :
    (performAll client net (requests.take k) p).2.store =
      p.store.replay ((ended client net p requests).take k) := by
  rw [store_performAll, ended_take]

/-- What a run hands to the network, with the numbers of the requests. -/
def handedAll : List (Nat × Request) → Progress σ → List (Nat × Handover σ)
  | [], _ => []
  | request :: rest, p =>
    ((p.handed client net request.2).map fun sent => (request.1, sent)) ++
      handedAll rest (proceed client net request p).2

/-- Each request is handed over once at most, and in order. -/
theorem numbers_handedAll :
    ((handedAll client net requests p).map (·.1)).Sublist (requests.map (·.1)) := by
  induction requests generalizing p with
  | nil => exact .slnil
  | cons request rest ih =>
    rw [handedAll, List.map_append, List.map_map]
    have hone := (proceed_ends client net request p).length_handed_le
    rcases hsent : p.handed client net request.2 with _ | ⟨sent, others⟩
    · exact .cons _ (ih _)
    · -- No request hands over more than one thing.
      obtain rfl : others = [] := by
        rw [hsent, List.length_cons] at hone
        exact List.eq_nil_of_length_eq_zero (by omega)
      exact .cons_cons _ (ih _)

/-- What is handed over is a request with its templates filled in from the variables after the
requests before it, and the run has not been aborted by then. -/
theorem ready_of_mem_handedAll {sent : Nat × Handover σ}
    (hsent : sent ∈ handedAll client net requests p) :
    ∃ (k : Nat) (r : Request), requests[k]? = some (sent.1, r) ∧
      client.prepare (r.resolve
        (p.store.replay ((ended client net p requests).take k)).get?) = .ok sent.2.request ∧
      net.isAborted sent.2.state = false := by
  induction requests generalizing p with
  | nil => cases hsent
  | cons request rest ih =>
    rw [handedAll] at hsent
    rcases List.mem_append.mp hsent with hfirst | hlater
    · obtain ⟨h, hmem, rfl⟩ := List.mem_map.mp hfirst
      obtain ⟨hready, hrunning⟩ := (proceed_ends client net request p).ready_of_mem hmem
      exact ⟨0, request.2, rfl, hready, hrunning⟩
    · obtain ⟨k, r, hr, hready, hrunning⟩ := ih _ hlater
      refine ⟨k + 1, r, hr, ?_, hrunning⟩
      -- The replay of the first request is the step that the rest of the run starts from.
      rw [store_proceed] at hready
      exact hready

/-- What a request hands over when it is its turn is handed over in the run. -/
theorem mem_handedAll {k : Nat} {request : Nat × Request} (hrequest : requests[k]? = some request)
    {sent : Handover σ}
    (hsent : sent ∈ (performAll client net (requests.take k) p).2.handed client net request.2) :
    (request.1, sent) ∈ handedAll client net requests p := by
  induction requests generalizing p k with
  | nil => cases hrequest
  | cons first rest ih =>
    rw [handedAll]
    cases k with
    | zero =>
      cases hrequest
      exact List.mem_append_left _ (List.mem_map.mpr ⟨sent, hsent, rfl⟩)
    | succ k => exact List.mem_append_right _ (ih _ hrequest hsent)

/-! ## Recorded runs -/

variable (log : List (Handover σ))

/-- How far a run has got on a recorded network. -/
def withLog (p : Progress σ) (log : List (Handover σ)) : Progress (σ × List (Handover σ)) :=
  { store := p.store, state := (p.state, log), notices := p.notices }

theorem conclude_withLog (r : Request) (response : Response) :
    conclude r response (p.withLog log) =
      ((conclude r response p).1, (conclude r response p).2.withLog log) := by
  rw [conclude, conclude]
  split
  · rfl
  · split
    · rfl
    · rfl

theorem heard_recorded (r : Request) :
    (p.withLog log).heard client net.recorded r =
      ((p.heard client net r).1, (p.heard client net r).2.withLog
        (log ++ client.handed net (r.resolve p.store.get?) p.state)) := by
  rw [heard, withLog, Client.send_recorded]
  rfl

theorem concluded_recorded (r : Request) :
    (p.withLog log).concluded client net.recorded r =
      ((p.concluded client net r).1, (p.concluded client net r).2.withLog
        (log ++ client.handed net (r.resolve p.store.get?) p.state)) := by
  rw [concluded, heard_recorded]
  exact conclude_withLog _ _ _ _

theorem perform_recorded (number : Nat) (r : Request) :
    perform client net.recorded number r (p.withLog log) =
      ((perform client net number r p).1, (perform client net number r p).2.withLog
        (log ++ client.handed net (r.resolve p.store.get?) p.state)) := by
  rw [perform_eq, perform_eq, heard_recorded, concluded_recorded]
  rfl

theorem pause_withLog :
    (p.withLog log).pause net.recorded = (p.pause net).withLog log := rfl

theorem proceed_recorded :
    proceed client net.recorded request (p.withLog log) =
      ((proceed client net request p).1, (proceed client net request p).2.withLog
        (log ++ p.handed client net request.2)) := by
  cases h : net.isAborted (net.pause p.state) with
  | true =>
    have hlog : net.recorded.isAborted (net.recorded.pause (p.withLog log).state) = true := h
    rw [proceed_of_aborted h, proceed_of_aborted hlog, handed_of_aborted h, List.append_nil,
      pause_withLog]
  | false =>
    have hlog : net.recorded.isAborted (net.recorded.pause (p.withLog log).state) = false := h
    rw [proceed_of_running h, proceed_of_running hlog, handed_of_running h, pause_withLog,
      perform_recorded]
    rfl

/-- The record of a run is what it hands over, and keeping it changes nothing. -/
theorem performAll_recorded :
    performAll client net.recorded requests (p.withLog log) =
      ((performAll client net requests p).1, (performAll client net requests p).2.withLog
        (log ++ (handedAll client net requests p).map (·.2))) := by
  induction requests generalizing p log with
  | nil => rw [handedAll, List.map_nil, List.append_nil]; rfl
  | cons request rest ih =>
    have hsent : ((p.handed client net request.2).map fun sent => (request.1, sent)).map (·.2) =
        p.handed client net request.2 := by
      rw [List.map_map]
      exact List.map_id _
    rw [performAll_cons, performAll_cons, proceed_recorded, ih, handedAll, List.map_append,
      hsent, List.append_assoc]

end Progress

end RequestSuite
