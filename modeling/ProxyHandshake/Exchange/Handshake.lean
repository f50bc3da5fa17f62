import ProxyHandshake.Exchange.Program
import ProxyHandshake.Progress
import ProxyHandshake.Settings

/-!
# The handshake

A request is sent without authorization first.  If the proxy refuses it and offers negotiation, the
client gets a handle for its credentials, opens a context for the proxy, and sends the request once
more with the first token of that context.  What the proxy says to this decides:

* it refuses again with a token of its own: only one token each way is supported, so this is an
  error;
* it refuses again without one: it rejects the client, and the handle is forgotten;
* it lets the request through: the token with which it proves itself, if it sent one, is given to
  the context.

The context is closed on every way out.
-/

namespace ProxyHandshake.Exchange

variable {κ χ : Type}

/-! ## Handles -/

/-- The handle kept for the proxy, or a new one. -/
def handleFor (proxyKey : String) (credentials : Credentials) :
    Exchange κ χ (Except NegotiateError κ) :=
  holding (.handle proxyKey) do
    match ← demand (.lookup proxyKey) with
    | (_, some handle) => return .ok handle
    | (since, none) =>
      match ← demand (.acquire credentials) with
      | .error e => return .error e
      | .ok acquired =>
        demand (.store proxyKey since acquired)
        return .ok acquired.handle

def forgetHandle (proxyKey : String) : Exchange κ χ Unit :=
  holding (.handle proxyKey) (demand (.forget proxyKey))

/-! ## The proof of the proxy -/

/-- The token with which the proxy proves itself. -/
def finalToken (response : Response) : Except TokenError (Option Token) :=
  match Challenge.firstNegotiate? response.challenges with
  | none => .ok none
  | some challenge => challenge.negotiateToken

/-- Check what the proxy says about itself; only its own headers count. -/
def verifyProxy (isStrict : Bool) (context : χ) (response : Response) :
    Exchange κ χ (Except Failure Response) := do
  match finalToken response with
  | .error cause => return .error (.ofNegotiate (.invalidToken cause))
  | .ok none =>
    if isStrict then return .error (.negotiation (.noMutualToken response.status))
    else return .ok response
  | .ok (some token) =>
    match ← demand (.step context token) with
    | .error e => return .error (.ofNegotiate e)
    | .ok (.complete none) => return .ok response
    | .ok _ => return .error (.protocolViolation .furtherLeg)

/-! ## The second request -/

/-- What follows when the proxy refuses the client's token. -/
def refused (proxy : Url) (progress : Progress) (response : Response) :
    Exchange κ χ (Except Failure Response) := do
  if (progress.observe response).wantsContinuation then
    return .error (.protocolViolation .secondLeg)
  else
    forgetHandle proxy.proxyKey
    return .error (.authenticationFailed proxy.text)

/-- Send the request with the token that the context's first step yielded. -/
def resend (isStrict : Bool) (proxy : Url) (request : Request) (progress : Progress)
    (context : χ) (first : Step) : Exchange κ χ (Except Failure Response) := do
  match first.token? with
  | none => return .error (.negotiation .noInitialToken)
  | some token =>
    match token.header with
    | .error cause => return .error (.ofNegotiate (.invalidToken cause))
    | .ok header =>
      demand (.count .retry)
      match ← demand (.send proxy request (some header)) with
      | .error cause => return .error (.transport cause)
      | .ok response =>
        if response.isAuthRequired then refused proxy progress.beginRetry response
        else verifyProxy isStrict context response

/-- Negotiate with the proxy `target` and send the request again. -/
def negotiate (settings : Settings) (proxy : Url) (request : Request) (progress : Progress)
    (target : ServicePrincipal) : Exchange κ χ (Except Failure Response) := do
  match ← handleFor proxy.proxyKey settings.credentials with
  | .error e => return .error (.ofNegotiate e)
  | .ok handle =>
    match ← demand (.initiate handle target) with
    | .error (.credential cause) =>
      forgetHandle proxy.proxyKey
      return .error (.credential cause)
    | .error e => return .error (.ofNegotiate e)
    | .ok (context, first) =>
      let result ← resend settings.isStrict proxy request progress context first
      demand (.close context)
      return result

/-- Negotiate in turn with the other exchanges through the proxy, unless the library serves
several at once. -/
def inTurn (isReentrant : Bool) (proxy : Url) {α : Type} (body : Exchange κ χ α) :
    Exchange κ χ α :=
  if isReentrant then body else holding (.turn proxy.proxyKey) body

/-! ## The exchange -/

/-- What follows when the proxy asks to negotiate. -/
def challenged (settings : Settings) (files : FileSystem) (isReentrant : Bool) (proxy : Url)
    (request : Request) (progress : Progress) : Exchange κ χ (Except Failure Response) := do
  demand (.count .challenge)
  match settings.credentials.validate files with
  | .error cause => return .error (.credential cause)
  | .ok () =>
    match ServicePrincipal.ofProxy proxy settings.service with
    | .error cause => return .error (.ofNegotiate (.invalidPrincipal cause))
    | .ok target =>
      inTurn isReentrant proxy (negotiate settings proxy request progress target)

/-- Send a request that has passed validation. -/
def converse (settings : Settings) (files : FileSystem) (isReentrant : Bool) (proxy : Url)
    (request : Request) : Exchange κ χ (Except Failure Response) := do
  match ← demand (.send proxy request none) with
  | .error cause => return .error (.transport cause)
  | .ok response =>
    if Progress.asksToNegotiate response then
      challenged settings files isReentrant proxy request (Progress.start.observe response)
    else return .ok response

/-- Send `request` through `proxy`. -/
def handshake (settings : Settings) (files : FileSystem) (isReentrant : Bool) (proxy : Url)
    (request : Request) : Exchange κ χ (Except Failure Response) :=
  match validateProxy proxy with
  | .error cause => return .error (.invalidRequest cause)
  | .ok () =>
    match request.validate with
    | .error cause => return .error (.invalidRequest cause)
    | .ok () => converse settings files isReentrant proxy request.stripped

end ProxyHandshake.Exchange
