import RequestSuite.Http.Client

/-!
# What a client hands to a network

A recorded network does the same as the network and keeps a record of the requests that it was
given, each with the state in which it was.  `Client.send_recorded` says that the record changes
nothing else, and what is in it.  `Client.send_sends` lists all that can come of sending a request:
it is withdrawn, it is unfit to be sent, or it is handed over once, before the run is aborted.
-/

namespace RequestSuite

variable {σ : Type}

/-- A request that was handed to a network, and the state in which it was. -/
structure Handover (σ : Type) where
  request : Outgoing
  state : σ

/-- A network with a record of the requests that it was given. -/
def Network.recorded (net : Network σ) : Network (σ × List (Handover σ)) where
  isAborted s := net.isAborted s.1
  pause s := (net.pause s.1, s.2)
  send c o s :=
    let d := net.send c o s.1
    ⟨d.exchange, d.elapsed, d.state, s.2 ++ [⟨o, s.1⟩]⟩
  isAborted_pause s h := net.isAborted_pause s.1 h
  isAborted_send c o s h := net.isAborted_send c o s.1 h
  isAborted_of_send c o s h := net.isAborted_of_send c o s.1 h

/-- A reply of success with a body. -/
def Reply.ofBody (body : String) : Reply :=
  ⟨⟨200, by decide, by decide⟩, "HTTP/1.1", [], body⟩

/-- A network that gives the same reply to every request and is never aborted. -/
def Network.constant (reply : Reply) : Network Unit where
  isAborted _ := false
  pause s := s
  send _ _ s := ⟨.reply reply, 0, s⟩
  isAborted_pause _ h := h
  isAborted_send _ _ _ h := h
  isAborted_of_send _ _ _ h := nomatch h

namespace Client

/-- What a client makes of a request before it is sent, or why it cannot be sent. -/
def prepare (c : Client) (r : Request) : Except Failure Outgoing :=
  (Outgoing.ofRequest c.readUrl c.autoContentType r).bind fun o => c.fault?.elim (.ok o) .error

theorem prepare_of_refused {c : Client} {r : Request} {f : Failure}
    (h : Outgoing.ofRequest c.readUrl c.autoContentType r = .error f) : c.prepare r = .error f := by
  rw [prepare, h]
  rfl

theorem prepare_of_fault {c : Client} {r : Request} {o : Outgoing} {f : Failure}
    (h : Outgoing.ofRequest c.readUrl c.autoContentType r = .ok o) (hc : c.fault? = some f) :
    c.prepare r = .error f := by
  rw [prepare, h, hc]
  rfl

theorem prepare_of_usable {c : Client} {r : Request} {o : Outgoing}
    (h : Outgoing.ofRequest c.readUrl c.autoContentType r = .ok o) (hc : c.fault? = none) :
    c.prepare r = .ok o := by
  rw [prepare, h, hc]
  rfl

theorem ofRequest_of_prepare {c : Client} {r : Request} {o : Outgoing}
    (h : c.prepare r = .ok o) : Outgoing.ofRequest c.readUrl c.autoContentType r = .ok o := by
  rcases ho : Outgoing.ofRequest c.readUrl c.autoContentType r with f | o'
  · rw [prepare_of_refused ho] at h
    cases h
  · rcases hc : c.fault? with _ | f
    · rw [prepare_of_usable ho hc] at h
      exact h
    · rw [prepare_of_fault ho hc] at h
      cases h

theorem kind_ne_cancelled_of_prepare {c : Client} {r : Request} {f : Failure}
    (h : c.prepare r = .error f) : f.kind ≠ .cancelled := by
  rcases ho : Outgoing.ofRequest c.readUrl c.autoContentType r with e | o
  · rw [prepare_of_refused ho] at h
    cases h
    rw [Outgoing.kind_of_ofRequest ho]
    exact nofun
  · rcases hc : c.fault? with _ | e
    · rw [prepare_of_usable ho hc] at h
      cases h
    · rw [prepare_of_fault ho hc] at h
      cases h
      rw [fault?] at hc
      split at hc
      · cases hc
        exact nofun
      · cases hc

/-- What a client hands to a network in the course of sending a request.  Time passes before the
request is built and again before it is handed over. -/
def handed (c : Client) (net : Network σ) (r : Request) (s : σ) : List (Handover σ) :=
  let s := net.pause (net.pause s)
  if net.isAborted s then [] else ((c.prepare r).toOption.map fun o => ⟨o, s⟩).toList

/-- What can come of sending a request: the response, what was handed over, and the state. -/
inductive Sends (c : Client) (net : Network σ) (r : Request) :
    Response → List (Handover σ) → σ → Prop where
  /-- the run was aborted before the request was handed over -/
  | withdrawn {s : σ} (aborted : net.isAborted s = true) :
    Sends c net r (.failed .cancelled 0) [] s
  /-- the request cannot be sent -/
  | unfit {f : Failure} {s : σ} (fault : c.prepare r = .error f) :
    Sends c net r (.failed f 0) [] s
  /-- the request was handed over -/
  | handedOver {o : Outgoing} {s : σ} (ready : c.prepare r = .ok o)
    (running : net.isAborted s = false) :
    Sends c net r ((net.send c o s).exchange.response (net.send c o s).elapsed) [⟨o, s⟩]
      (net.send c o s).state

theorem handed_of_aborted {c : Client} {net : Network σ} {r : Request} {s : σ}
    (h : net.isAborted (net.pause (net.pause s)) = true) : c.handed net r s = [] := by
  rw [handed, if_pos h]

theorem handed_of_unfit {c : Client} {net : Network σ} {r : Request} {s : σ} {f : Failure}
    (h : c.prepare r = .error f) : c.handed net r s = [] := by
  rw [handed, h]
  split <;> rfl

theorem handed_of_ready {c : Client} {net : Network σ} {r : Request} {s : σ} {o : Outgoing}
    (h : c.prepare r = .ok o) (hs : net.isAborted (net.pause (net.pause s)) = false) :
    c.handed net r s = [⟨o, net.pause (net.pause s)⟩] := by
  rw [handed, h, hs]
  rfl

theorem send_sends (c : Client) (net : Network σ) (r : Request) (s : σ) :
    c.Sends net r (c.send net r s).1 (c.handed net r s) (c.send net r s).2.2 := by
  -- The cases follow the client: its first look, the request, its second look, its settings.
  rcases h₁ : net.isAborted (net.pause s) with _ | _
  · rcases ho : Outgoing.ofRequest c.readUrl c.autoContentType r with f | o
    · have hf := prepare_of_refused ho
      simp only [send, h₁, ho, handed_of_unfit hf]
      exact .unfit hf
    · rcases h₂ : net.isAborted (net.pause (net.pause s)) with _ | _
      · rcases hc : c.fault? with _ | f
        · have hr := prepare_of_usable ho hc
          simp only [send, handOver, h₁, h₂, ho, hc, handed_of_ready hr h₂]
          exact .handedOver hr h₂
        · have hf := prepare_of_fault ho hc
          simp only [send, handOver, h₁, h₂, ho, hc, handed_of_unfit hf]
          exact .unfit hf
      · simp only [send, handOver, h₁, h₂, ho, if_true, handed_of_aborted h₂]
        exact .withdrawn h₂
  · rw [handed_of_aborted (net.isAborted_pause _ h₁)]
    simp only [send, h₁, if_true]
    exact .withdrawn h₁

/-- Recording changes nothing, and what is handed over is what is recorded. -/
theorem send_recorded (c : Client) (net : Network σ) (r : Request) (s : σ)
    (log : List (Handover σ)) :
    c.send net.recorded r (s, log) =
      ((c.send net r s).1, (c.send net r s).2.1, (c.send net r s).2.2,
        log ++ c.handed net r s) := by
  rcases h₁ : net.isAborted (net.pause s) with _ | _
  · rcases ho : Outgoing.ofRequest c.readUrl c.autoContentType r with f | o
    · simp [send, Network.recorded, h₁, ho, handed_of_unfit (prepare_of_refused ho)]
    · rcases h₂ : net.isAborted (net.pause (net.pause s)) with _ | _
      · rcases hc : c.fault? with _ | f
        · simp [send, handOver, Network.recorded, h₁, h₂, ho, hc,
            handed_of_ready (prepare_of_usable ho hc) h₂]
        · simp [send, handOver, Network.recorded, h₁, h₂, ho, hc,
            handed_of_unfit (prepare_of_fault ho hc)]
      · simp [send, handOver, Network.recorded, h₁, h₂, ho, handed_of_aborted h₂]
  · simp [send, Network.recorded, h₁, handed_of_aborted (net.isAborted_pause _ h₁)]

end Client

end RequestSuite
