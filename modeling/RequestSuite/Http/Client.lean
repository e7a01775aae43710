import RequestSuite.Http.Outgoing
import RequestSuite.Http.Response
import RequestSuite.Text.Search
import RequestSuite.Url.Parser

/-!
# Clients and networks

A network carries requests to servers and brings back what comes of them.  It is described by what
it does, which may depend on a state that changes with every request and with the time that passes
in between.  A run may be aborted at any moment, also while a request is on its way, and stays so.

A client sends requests through a network.  It looks three times whether the run has been aborted:
before a request is built, before it is handed over, and while it is on its way.
-/

namespace RequestSuite

/-- What keeps a network from bringing a reply. -/
inductive NetworkFault where
  | timeout
  /-- No connection comes about. -/
  | connect
  /-- The network does not take requests like this. -/
  | refused
  | other
deriving DecidableEq, Repr

/-- What comes of a request that was handed to a network. -/
inductive Exchange where
  | reply (r : Reply)
  /-- No reply came, for a reason with a description. -/
  | fault (kind : NetworkFault) (detail : String)
  /-- The run was aborted while the request was on its way. -/
  | aborted
deriving DecidableEq, Repr

/-- What comes of a request, how many milliseconds it took, and the state after it. -/
structure Delivery (σ : Type) where
  exchange : Exchange
  elapsed : Nat
  state : σ

/-- How requests are sent. -/
structure Client where
  /-- After how many milliseconds a request is given up; nothing for never. -/
  timeout : Option Nat := some 30000
  /-- Whether the kind of a JSON body is added to the headers. -/
  autoContentType : Bool := true
  userAgent : Option String := none
  /-- How addresses are read. -/
  readUrl : UrlReader := Url.parse

/-- What networks do, depending on states. -/
structure Network (σ : Type) where
  /-- Whether the run has been aborted. -/
  isAborted : σ → Bool
  /-- The state when some time has passed. -/
  pause : σ → σ
  /-- What comes of a request. -/
  send : Client → Outgoing → σ → Delivery σ
  isAborted_pause : ∀ s, isAborted s = true → isAborted (pause s) = true
  isAborted_send : ∀ c o s, isAborted s = true → isAborted (send c o s).state = true
  isAborted_of_send : ∀ c o s, (send c o s).exchange = .aborted →
    isAborted (send c o s).state = true

/-! ## Failures -/

/-- The words that tell that a secure connection did not come about. -/
def tlsWords : List String := ["certificate", "tls", "ssl", "handshake"]

/-- Whether a description tells of a secure connection. -/
def mentionsTls (detail : String) : Bool :=
  tlsWords.any (Text.contains (Text.lower detail))

/-- The kind of failure of a fault with a description. -/
def NetworkFault.kind (fault : NetworkFault) (detail : String) : FailureKind :=
  match fault with
  | .timeout => .timeout
  | .connect => if mentionsTls detail then .tls else .connect
  | .refused => if mentionsTls detail then .tls else .invalidRequest
  | .other => if mentionsTls detail then .tls else .other

theorem NetworkFault.kind_ne_cancelled (fault : NetworkFault) (detail : String) :
    fault.kind detail ≠ .cancelled := by
  cases fault <;> simp only [kind] <;> (try split) <;> exact nofun

/-- The response that an exchange amounts to. -/
def Exchange.response (e : Exchange) (elapsed : Nat) : Response :=
  match e with
  | .reply r => .answered r elapsed
  | .fault kind detail => .failed ⟨kind.kind detail, detail⟩ elapsed
  | .aborted => .failed .cancelled elapsed

namespace Client

/-- Why a client cannot send anything, if its settings are unusable. -/
def fault? (c : Client) : Option Failure :=
  if c.userAgent.any fun agent => !Outgoing.isHeaderValue agent then
    some ⟨.other, "failed to build HTTP client: builder error"⟩
  else none

variable {σ : Type}

/-- Hands a request to a network, unless the run has been aborted. -/
def handOver (c : Client) (net : Network σ) (o : Outgoing) (s : σ) : Response × σ :=
  let s := net.pause s
  if net.isAborted s then (.failed .cancelled 0, s)
  else
    match c.fault? with
    | some f => (.failed f 0, s)
    | none =>
      let d := net.send c o s
      (d.exchange.response d.elapsed, d.state)

/-- Builds a request and sends it through a network, unless the run has been aborted. -/
def send (c : Client) (net : Network σ) (r : Request) (s : σ) : Response × List Notice × σ :=
  let s := net.pause s
  if net.isAborted s then (.failed .cancelled 0, [], s)
  else
    match Outgoing.ofRequest c.readUrl c.autoContentType r with
    | .error f => (.failed f 0, Outgoing.notices r, s)
    | .ok o =>
      let (response, s) := c.handOver net o s
      (response, Outgoing.notices r, s)

end Client

end RequestSuite
