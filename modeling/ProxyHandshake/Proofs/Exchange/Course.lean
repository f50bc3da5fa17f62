import ProxyHandshake.Proofs.Exchange.Run

/-!
# The course of an exchange

Everything that an exchange can do, said once: the calls that it makes, what it counts, its result,
and what becomes of the handle that is kept for the proxy.  The answers of the library and of the
proxy are left open; which of them come decides which way the exchange goes.

An exchange goes in three stages, and each has a relation of its own: up to the handle (`Course`),
from the handle to the answer to the token (`HandleUse`), and what that answer means (`Verdict`).
-/

namespace ProxyHandshake

variable {σ κ χ : Type}

/-! ## What a response and an error say -/

/-- The text of the token that came with the first challenge to negotiate. -/
def Response.offeredToken? (response : Response) : Option String :=
  (Challenge.firstNegotiate? response.challenges).bind Challenge.token68

/-- Whether the library has no use for the handle. -/
def NegotiateError.isCredential : NegotiateError → Bool
  | .credential _ => true
  | .negotiation _ | .invalidToken _ | .invalidPrincipal _ => false

/-- The result of an exchange whose context took the token of the proxy. -/
def Response.judged (response : Response) :
    Except NegotiateError Step → Except Failure Response
  | .ok (.complete none) => .ok response
  | .ok (.complete (some _)) | .ok (.more _) => .error (.protocolViolation .furtherLeg)
  | .error e => .error (.ofNegotiate e)

/-! ## What the answer to a token means -/

/-- The ways in which a response to the token is taken: the calls that follow it, the result, and
whether the handle is forgotten. -/
inductive Verdict (isStrict : Bool) (proxy : Url) (context : χ) (response : Response) :
    List (Call κ χ) → Except Failure Response → Bool → Prop
  | secondLeg {text : String}
      (hrequired : response.isAuthRequired = true)
      (htoken : response.offeredToken? = some text) :
      Verdict isStrict proxy context response [] (.error (.protocolViolation .secondLeg)) false
  | rejected
      (hrequired : response.isAuthRequired = true) (htoken : response.offeredToken? = none) :
      Verdict isStrict proxy context response []
        (.error (.authenticationFailed proxy.text)) true
  | unreadable {text : String} {cause : TokenError}
      (hpassed : response.isAuthRequired = false)
      (htoken : response.offeredToken? = some text)
      (hread : Token.ofBase64 text = .error cause) :
      Verdict isStrict proxy context response []
        (.error (.negotiation (.library (.invalidToken cause)))) false
  | checked {text : String} {token : Token} (answer : Except NegotiateError Step)
      (hpassed : response.isAuthRequired = false)
      (htoken : response.offeredToken? = some text)
      (hread : Token.ofBase64 text = .ok token) :
      Verdict isStrict proxy context response [.stepped context (some token) answer]
        (response.judged answer) false
  | unproved
      (hpassed : response.isAuthRequired = false) (htoken : response.offeredToken? = none)
      (hstrict : isStrict = true) :
      Verdict isStrict proxy context response []
        (.error (.negotiation (.noMutualToken response.status))) false
  | trusted
      (hpassed : response.isAuthRequired = false) (htoken : response.offeredToken? = none)
      (hlenient : isStrict = false) :
      Verdict isStrict proxy context response [] (.ok response) false

/-! ## What comes of a handle -/

/-- The ways in which a negotiation goes once there is a handle. -/
inductive HandleUse (isStrict : Bool) (proxy : Url) (request : Request)
    (target : ServicePrincipal) (handle : κ) :
    List (Call κ χ) → List Counter → Except Failure Response → Bool → Prop
  | unopened {e : NegotiateError} {calls : List (Call κ χ)}
      (hopening : Session.Opening handle target (.error e) calls) :
      HandleUse isStrict proxy request target handle calls []
        (.error (.ofNegotiate e)) e.isCredential
  | tokenless {context : χ} {first : Step} {calls : List (Call κ χ)}
      (hopening : Session.Opening handle target (.ok (context, first)) calls)
      (htoken : first.token? = none) :
      HandleUse isStrict proxy request target handle (calls ++ [.closed context]) []
        (.error (.negotiation .noInitialToken)) false
  | unsendable {context : χ} {first : Step} {token : Token} {cause : TokenError}
      {calls : List (Call κ χ)}
      (hopening : Session.Opening handle target (.ok (context, first)) calls)
      (htoken : first.token? = some token) (hheader : token.header = .error cause) :
      HandleUse isStrict proxy request target handle (calls ++ [.closed context]) []
        (.error (.negotiation (.library (.invalidToken cause)))) false
  | unanswered {context : χ} {first : Step} {token : Token} {header : HeaderValue}
      {cause : TransportError} {calls : List (Call κ χ)}
      (hopening : Session.Opening handle target (.ok (context, first)) calls)
      (htoken : first.token? = some token) (hheader : token.header = .ok header) :
      HandleUse isStrict proxy request target handle
        (calls ++ .sent proxy request (some header) (.error cause) :: [.closed context])
        [.retry] (.error (.transport cause)) false
  | answered {context : χ} {first : Step} {token : Token} {header : HeaderValue}
      {response : Response} {calls later : List (Call κ χ)}
      {result : Except Failure Response} {rejected : Bool}
      (hopening : Session.Opening handle target (.ok (context, first)) calls)
      (htoken : first.token? = some token) (hheader : token.header = .ok header)
      (hverdict : Verdict isStrict proxy context response later result rejected) :
      HandleUse isStrict proxy request target handle
        (calls ++ .sent proxy request (some header) (.ok response) ::
          (later ++ [.closed context]))
        [.retry] result rejected

/-! ## Up to the handle -/

/-- What the slot of a proxy yields: the handle that is kept in it, or a new one. -/
def Backend.slot (backend : Backend σ κ χ) (credentials : Credentials) (key : String)
    (cache : Cache κ) (outside : σ) : Except NegotiateError κ × Cache κ :=
  cache.getOrAcquire key (backend.now outside) fun () =>
    (backend.library.acquire credentials outside).1

/-- The call by which the slot of a proxy gets a new handle. -/
def Backend.acquisition (backend : Backend σ κ χ) (credentials : Credentials) (key : String)
    (cache : Cache κ) (outside : σ) : List (Call κ χ) :=
  match (cache.lookup key (backend.now outside)).1 with
  | some _ => []
  | none => [.acquired (backend.library.acquire credentials outside).1]

/-- The first request of an exchange, and what is left behind when it has been answered. -/
def Backend.opening (backend : Backend σ κ χ) (proxy : Url) (request : Request)
    (outside : σ) : Except TransportError Response × σ :=
  ((backend.send proxy request.stripped none outside).1.1,
    (backend.send proxy request.stripped none outside).2)

/-- What has to hold for an exchange to look for a handle. -/
structure Challenged (backend : Backend σ κ χ) (settings : Settings) (files : FileSystem)
    (outside : σ) (proxy : Url) (request : Request) (response : Response)
    (target : ServicePrincipal) : Prop where
  validProxy : validateProxy proxy = .ok ()
  validRequest : request.validate = .ok ()
  answered : (backend.opening proxy request outside).1 = .ok response
  asked : Progress.asksToNegotiate response = true
  usable : settings.credentials.validate files = .ok ()
  named : ServicePrincipal.ofProxy proxy settings.service = .ok target

/-- The handles that are kept after that for `key` was used and possibly rejected. -/
def Cache.afterUse (cache : Cache κ) (key : String) (rejected : Bool) : Cache κ :=
  if rejected then cache.forget key else cache

/-- The ways in which an exchange goes: its calls, what it counts, its result, and the handles that
are kept after it. -/
inductive Course (backend : Backend σ κ χ) (settings : Settings) (files : FileSystem)
    (outside : σ) (cache : Cache κ) (proxy : Url) (request : Request) :
    List (Call κ χ) → List Counter → Except Failure Response → Cache κ → Prop
  | invalidProxy {cause : RequestError} (hproxy : validateProxy proxy = .error cause) :
      Course backend settings files outside cache proxy request
        [] [] (.error (.invalidRequest cause)) cache
  | invalidRequest {cause : RequestError} (hrequest : request.validate = .error cause) :
      Course backend settings files outside cache proxy request
        [] [] (.error (.invalidRequest cause)) cache
  | unsent {cause : TransportError}
      (hproxy : validateProxy proxy = .ok ()) (hrequest : request.validate = .ok ())
      (hanswer : (backend.opening proxy request outside).1 = .error cause) :
      Course backend settings files outside cache proxy request
        [.sent proxy request.stripped none (.error cause)] []
        (.error (.transport cause)) cache
  | unchallenged {response : Response}
      (hproxy : validateProxy proxy = .ok ()) (hrequest : request.validate = .ok ())
      (hanswer : (backend.opening proxy request outside).1 = .ok response)
      (hasks : Progress.asksToNegotiate response = false) :
      Course backend settings files outside cache proxy request
        [.sent proxy request.stripped none (.ok response)] [] (.ok response) cache
  | unusable {response : Response} {cause : CredentialError}
      (hproxy : validateProxy proxy = .ok ()) (hrequest : request.validate = .ok ())
      (hanswer : (backend.opening proxy request outside).1 = .ok response)
      (hasks : Progress.asksToNegotiate response = true)
      (hcredentials : settings.credentials.validate files = .error cause) :
      Course backend settings files outside cache proxy request
        [.sent proxy request.stripped none (.ok response)] [.challenge]
        (.error (.credential cause)) cache
  | nameless {response : Response} {cause : PrincipalError}
      (hproxy : validateProxy proxy = .ok ()) (hrequest : request.validate = .ok ())
      (hanswer : (backend.opening proxy request outside).1 = .ok response)
      (hasks : Progress.asksToNegotiate response = true)
      (hprincipal : ServicePrincipal.ofProxy proxy settings.service = .error cause) :
      Course backend settings files outside cache proxy request
        [.sent proxy request.stripped none (.ok response)] [.challenge]
        (.error (.negotiation (.library (.invalidPrincipal cause)))) cache
  | unacquired {response : Response} {target : ServicePrincipal} {e : NegotiateError}
      {later : σ} (hlater : later = (backend.opening proxy request outside).2)
      (hchallenged :
        Challenged backend settings files outside proxy request response target)
      (hslot : (backend.slot settings.credentials proxy.proxyKey cache later).1 = .error e) :
      Course backend settings files outside cache proxy request
        (.sent proxy request.stripped none (.ok response) ::
          backend.acquisition settings.credentials proxy.proxyKey cache later)
        [.challenge] (.error (.ofNegotiate e))
        (backend.slot settings.credentials proxy.proxyKey cache later).2
  | used {response : Response} {target : ServicePrincipal} {handle : κ}
      {calls : List (Call κ χ)} {counted : List Counter}
      {result : Except Failure Response} {rejected : Bool}
      {later : σ} (hlater : later = (backend.opening proxy request outside).2)
      (hchallenged :
        Challenged backend settings files outside proxy request response target)
      (hslot :
        (backend.slot settings.credentials proxy.proxyKey cache later).1 = .ok handle)
      (huse :
        HandleUse settings.isStrict proxy request.stripped target handle
          calls counted result rejected) :
      Course backend settings files outside cache proxy request
        (.sent proxy request.stripped none (.ok response) ::
          (backend.acquisition settings.credentials proxy.proxyKey cache later ++ calls))
        (.challenge :: counted) result
        ((backend.slot settings.credentials proxy.proxyKey cache later).2.afterUse
          proxy.proxyKey rejected)

end ProxyHandshake
