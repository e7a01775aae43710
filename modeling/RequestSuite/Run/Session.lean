import RequestSuite.Http.Client
import RequestSuite.Request.Resolve
import RequestSuite.Run.Result

/-!
# Runs

A session is a bundle with all that is needed to run it.  Each run starts with freshly loaded
variables.  All requests are merged before any is sent, and if one of them is invalid none is sent.
Otherwise the requests are sent one after the other in the order of the bundle, each with the
variables that the ones before it captured.  A request that fails does not keep the next ones from
being sent; when the run is aborted, the rest is not begun.
-/

namespace RequestSuite

/-- Where the variables of a run come from. -/
structure VariableSources where
  /-- The selected environment. -/
  environment : Option String := none
  /-- Environments from outside the bundle, each hiding the ones before it. -/
  external : List EnvironmentSet := []
  /-- Assignments, which hide all environments. -/
  assignments : List (String × String) := []
deriving DecidableEq, Repr

/-- A bundle that is ready to be run. -/
structure Session where
  bundle : Bundle
  client : Client := {}
  sources : VariableSources := {}

/-- A finished run. -/
structure Run where
  /-- The results in the order of the requests. -/
  results : List Result
  /-- The variables at the end. -/
  store : Store

namespace Run

/-- How often what came of the requests. -/
def summary (r : Run) : Summary :=
  .ofResults r.results

/-- The first result of a name. -/
def result? (r : Run) (name : String) : Option Result :=
  r.results.find? fun result => result.name == name

end Run

/-- How far a run has got. -/
structure Progress (σ : Type) where
  /-- The variables. -/
  store : Store
  /-- The state of the network. -/
  state : σ
  /-- The notices that were given. -/
  notices : List Notice := []

namespace Progress

variable {σ : Type}

/-- Gives notices. -/
def note (p : Progress σ) (notices : List Notice) : Progress σ :=
  { p with notices := p.notices ++ notices }

/-- Lets some time pass. -/
def pause (net : Network σ) (p : Progress σ) : Progress σ :=
  { p with state := net.pause p.state }

/-- Evaluates the tests of a request that was answered, applies its captures and tells of those that
fail. -/
def complete (r : Request) (response : Response) (p : Progress σ) : Outcome × Progress σ :=
  let report := r.tests.run r.options.stopOnFailure response
  let (store, errors) := r.captures.run response p.store
  (.completed response report errors, { p with store := store }.note (captureNotices errors))

/-- What a response to a request means for a run. -/
def conclude (r : Request) (response : Response) (p : Progress σ) : Outcome × Progress σ :=
  if response.isCancelled then (.cancelled, p)
  else if response.isFailed then (.failed response, p.note [.requestFailed response.body])
  else p.complete r response

/-- Fills in the templates of a request, sends it and deals with the response. -/
def perform (client : Client) (net : Network σ) (number : Nat) (r : Request) (p : Progress σ) :
    Result × Progress σ :=
  let resolved := r.resolve p.store.get?
  let undefined := r.undefinedNames p.store.get?
  let p := p.note (Request.undefinedNotices undefined)
  let (response, notices, state) := client.send net resolved p.state
  let (outcome, p) := conclude resolved response ({ p with state := state }.note notices)
  ({ number := number
     name := r.name
     method := Unicode.upper resolved.method
     url := resolved.fullUrl
     undefined := undefined
     options := resolved.options
     duration := response.duration
     outcome := outcome }, p)

/-- Performs a numbered request, unless the run has been aborted. -/
def proceed (client : Client) (net : Network σ) (request : Nat × Request) (p : Progress σ) :
    Result × Progress σ :=
  let p := p.pause net
  if net.isAborted p.state then
    ({ number := request.1, name := request.2.name, outcome := .notRun }, p)
  else p.perform client net request.1 request.2

/-- Performs numbered requests one after the other; once the run is aborted, none is begun. -/
def performAll (client : Client) (net : Network σ) :
    List (Nat × Request) → Progress σ → List Result × Progress σ
  | [], p => ([], p)
  | request :: rest, p =>
    let (result, p) := p.proceed client net request
    let (results, p) := performAll client net rest p
    (result :: results, p)

end Progress

namespace Session

/-- The variables that a run starts with. -/
def freshStore (s : Session) : Store :=
  (Store.load s.sources.environment s.bundle.environments s.sources.external).override
    s.sources.assignments

/-- The requests of the bundle with their numbers, counted from one. -/
def numbered (s : Session) : List (Nat × RequestLayer) :=
  (s.bundle.requests.zipIdx 1).map fun p => (p.2, p.1)

/-- A numbered request merged with what is said in common. -/
def mergeOne (s : Session) (request : Nat × RequestLayer) :
    Except MissingField (Nat × Request) :=
  (request.2.merge s.bundle.common).map fun r => (request.1, r)

/-- The result of a request of a run in which nothing is sent. -/
def unsentResult (s : Session) (request : Nat × RequestLayer) : Result :=
  { number := request.1
    name := request.2.name
    outcome :=
      match s.mergeOne request with
      | .ok _ => .notRun
      | .error e => .invalid e }

/-- The requests that lack something. -/
def faults (s : Session) : List MissingField :=
  s.numbered.filterMap fun request =>
    match s.mergeOne request with
    | .ok _ => none
    | .error e => some e

/-- The notices of a run in which nothing is sent. -/
def unsentNotices (s : Session) : List Notice :=
  s.faults.map (fun e => .requestInvalid e.message) ++ [.nothingSent]

/-- The merged requests with their numbers, or the first one that lacks something. -/
def mergeAll (s : Session) : Except MissingField (List (Nat × Request)) :=
  s.numbered.mapM s.mergeOne

variable {σ : Type}

/-- Runs all requests of the bundle through a network. -/
def runAll (s : Session) (net : Network σ) (state : σ) : Run × List Notice × σ :=
  match s.mergeAll with
  | .error _ => (⟨s.numbered.map s.unsentResult, s.freshStore⟩, s.unsentNotices, state)
  | .ok requests =>
    let (results, p) :=
      Progress.performAll s.client net requests { store := s.freshStore, state := state }
    (⟨results, p.store⟩, p.notices, p.state)

/-- The first request of a name with its number. -/
def find? (s : Session) (name : String) : Option (Nat × RequestLayer) :=
  s.numbered.find? fun request => request.2.name == name

/-- Runs the request of a name through a network; nothing if the bundle has no such request. -/
def runOne? (s : Session) (net : Network σ) (name : String) (state : σ) :
    Option (Run × List Notice × σ) :=
  (s.find? name).map fun request =>
    match s.mergeOne request with
    | .error e =>
      (⟨[s.unsentResult request], s.freshStore⟩, [.requestInvalid e.message], state)
    | .ok (number, r) =>
      let (result, p) :=
        Progress.perform s.client net number r { store := s.freshStore, state := state }
      (⟨[result], p.store⟩, p.notices, p.state)

end Session

end RequestSuite
