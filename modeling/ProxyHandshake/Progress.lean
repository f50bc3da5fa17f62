import ProxyHandshake.Response

/-!
# Progress of an exchange

What the proxy has asked for, and how often the request was sent again because of it.  A request is
sent again only once, so that a proxy that never stops asking does not keep the client busy.
-/

namespace ProxyHandshake

structure Progress where
  /-- Whether the proxy ever asked for authentication. -/
  challenged : Bool
  /-- The challenges of the last time that it asked. -/
  challenges : List Challenge
  retries : Nat
deriving DecidableEq, Repr

namespace Progress

def start : Progress := ⟨false, [], 0⟩

/-- How often a request may be sent again. -/
def maxRetries : Nat := 1

def negotiate? (progress : Progress) : Option Challenge :=
  Challenge.firstNegotiate? progress.challenges

def offersNegotiate (progress : Progress) : Bool :=
  progress.negotiate?.isSome

def schemes (progress : Progress) : List String :=
  progress.challenges.map Challenge.scheme

/-- Whether the proxy sent a token and so expects another one. -/
def wantsContinuation (progress : Progress) : Bool :=
  progress.negotiate?.any fun challenge => challenge.token68.isSome

/-- Note a response. -/
def observe (progress : Progress) (response : Response) : Progress :=
  if response.isAuthRequired then
    { progress with challenged := true, challenges := response.challenges }
  else progress

/-- Whether a response asks for authentication and offers negotiation for it. -/
def asksToNegotiate (response : Response) : Bool :=
  response.isAuthRequired && (Challenge.firstNegotiate? response.challenges).isSome

def canRetry (progress : Progress) : Bool :=
  progress.retries < maxRetries

/-- Use up a retry, if one is left. -/
def beginRetry (progress : Progress) : Progress :=
  if progress.canRetry then { progress with retries := progress.retries + 1 } else progress

end Progress

end ProxyHandshake
