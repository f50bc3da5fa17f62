import ProxyHandshake.Challenge.Reader
import ProxyHandshake.Http.Status

/-!
# Responses

A response comes from the proxy itself or, through a tunnel, from the target.  What the proxy said
is kept apart, so that nothing the target says is taken for the word of the proxy.
-/

namespace ProxyHandshake

structure Response where
  status : Status
  headers : Headers
  body : Bytes
  /-- The headers of the proxy's own answer. -/
  proxyHeaders : Headers
deriving DecidableEq, Repr

namespace Response

/-- A response that came from the proxy. -/
def ofProxy (status : Status) (headers : Headers) (body : Bytes) : Response :=
  { status := status, headers := headers, body := body, proxyHeaders := headers }

/-- Whether the proxy wants to know its client. -/
def isAuthRequired (response : Response) : Bool :=
  response.status = .proxyAuthenticationRequired

theorem isAuthRequired_iff (response : Response) :
    response.isAuthRequired = true ↔ response.status.code = 407 := by
  rcases response with ⟨⟨code, _⟩, _, _, _⟩
  simp [isAuthRequired, Status.proxyAuthenticationRequired]

def challengeValues (response : Response) : List HeaderValue :=
  response.proxyHeaders.values .proxyAuthenticate

/-- The challenges of the proxy. -/
def challenges (response : Response) : List Challenge :=
  Challenge.readAll response.challengeValues

end Response

end ProxyHandshake
