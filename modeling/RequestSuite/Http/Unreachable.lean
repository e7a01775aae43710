import RequestSuite.Http.Client

/-!
# A network without servers

In this network no connection ever comes about, and a run is aborted from the start or never.
-/

namespace RequestSuite

namespace Unreachable

/-- The longest URL, in bytes, that requests are made for. -/
def urlLimit : Nat := 65534

/-- Whether requests are made for a URL: those of the two usual schemes with a plain host. -/
def accepts (u : Url) : Bool :=
  (u.scheme == "http" || u.scheme == "https") && u.text.utf8ByteSize ≤ urlLimit &&
    u.authority.all fun a => a.host.toList.all fun c =>
      c != '"' && c != '\x60' && c != '\x7b' && c != '\x7d'

/-- What comes of a request for a URL. -/
def exchange (u : Url) : Exchange :=
  let u := u.withoutUser
  if accepts u then
    .fault .connect ("error sending request for url (" ++ u.text ++ "): no connection")
  else .fault .refused ("builder error for url (" ++ u.text ++ ")")

end Unreachable

/-- The network in which no connection comes about; its state tells whether the run is aborted. -/
def Network.unreachable : Network Bool where
  isAborted aborted := aborted
  pause aborted := aborted
  send _ o aborted := ⟨Unreachable.exchange o.url, 0, aborted⟩
  isAborted_pause _ h := h
  isAborted_send _ _ _ h := h
  isAborted_of_send _ _ _ h := by
    simp only [Unreachable.exchange] at h
    split at h <;> simp at h

end RequestSuite
