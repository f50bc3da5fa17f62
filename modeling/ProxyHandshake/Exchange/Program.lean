import ProxyHandshake.Cache
import ProxyHandshake.Failure
import ProxyHandshake.Response

/-!
# Exchanges as programs

An exchange talks to the proxy, to the authentication library and to what all exchanges share: the
handles that are kept, the locks and the counters.  It is a program that asks for one such thing
after the other and goes on with the answer; who answers, and in which order the demands of several
exchanges are met, is left open.
-/

namespace ProxyHandshake

/-- What exchanges through the same proxy take in turn. -/
inductive Lock where
  /-- The right to negotiate. -/
  | turn (proxyKey : String)
  /-- The right to look up, acquire and forget the handle for the proxy. -/
  | handle (proxyKey : String)
deriving DecidableEq, Repr

inductive Counter where
  /-- A response that offers negotiation. -/
  | challenge
  /-- A request sent again with a token. -/
  | retry
  | failure (kind : FailureKind)
deriving DecidableEq, Repr

def Counter.text : Counter → String
  | .challenge => "proxy_auth_challenges_total"
  | .retry => "proxy_auth_retries_total"
  | .failure kind => "proxy_auth_failures_total\x7bkind=" ++ kind.text ++ "\x7d"

/-- What an exchange asks for; `κ` are handles and `χ` contexts. -/
inductive Demand (κ χ : Type) where
  | send (proxy : Url) (request : Request) (authorization : Option HeaderValue)
  | acquire (credentials : Credentials)
  /-- Open a context and take its first step. -/
  | initiate (handle : κ) (target : ServicePrincipal)
  | step (context : χ) (token : Token)
  | close (context : χ)
  | take (lock : Lock)
  | release (lock : Lock)
  | lookup (proxyKey : String)
  /-- Keep a handle whose lookup began at `since`. -/
  | store (proxyKey : String) (since : Instant) (acquired : Acquired κ)
  | forget (proxyKey : String)
  | count (counter : Counter)

namespace Demand

variable {κ χ : Type}

def Answer : Demand κ χ → Type
  | send .. => Except TransportError Response
  | acquire .. => Except NegotiateError (Acquired κ)
  | initiate .. => Except NegotiateError (χ × Step)
  | step .. => Except NegotiateError Step
  | lookup .. => Instant × Option κ
  | close .. | take .. | release .. | store .. | forget .. | count .. => Unit

/-- Whether the library is called, which may take its time and cannot be interrupted. -/
def isLibraryCall : Demand κ χ → Bool
  | acquire .. | initiate .. | step .. => true
  | _ => false

end Demand

/-- A program that ends with an `α`. -/
inductive Exchange (κ χ : Type) (α : Type) where
  | done (a : α)
  | ask (demand : Demand κ χ) (next : demand.Answer → Exchange κ χ α)

namespace Exchange

variable {κ χ : Type}

def bind {α β : Type} (program : Exchange κ χ α) (next : α → Exchange κ χ β) :
    Exchange κ χ β :=
  match program with
  | done a => next a
  | ask demand rest => ask demand fun answer => (rest answer).bind next

instance : Monad (Exchange κ χ) where
  pure := done
  bind := bind

/-- The program that asks for one thing and ends with the answer. -/
def demand (d : Demand κ χ) : Exchange κ χ d.Answer :=
  ask d done

/-- Run `body` while holding `lock`. -/
def holding {α : Type} (lock : Lock) (body : Exchange κ χ α) : Exchange κ χ α := do
  demand (.take lock)
  let a ← body
  demand (.release lock)
  return a

end Exchange

end ProxyHandshake
