import ProxyHandshake.Duration
import ProxyHandshake.Http.Status
import ProxyHandshake.Negotiation
import ProxyHandshake.Request

/-!
# Failures of an exchange

Every failure ends the request that met it.  Those of the transport are passed on as they are; the
others say whether the credentials, the negotiation, the proxy or the request are to blame, and
each such kind has a word by which failures are counted.
-/

namespace ProxyHandshake

/-! ## Transport -/

inductive IoError where
  | earlyEnd
  | refused
  | unreachable
  | unresolved
  /-- A cause in the words of the system. -/
  | reported (detail : String)
deriving DecidableEq, Repr

def IoError.message : IoError → String
  | .earlyEnd => "early eof"
  | .refused => "Connection refused (os error 111)"
  | .unreachable => "Network is unreachable (os error 101)"
  | .unresolved => "failed to lookup address information: Temporary failure in name resolution"
  | .reported detail => detail

/-- What is wrong with the answer of a proxy, or with what it is asked. -/
inductive MalformedCause where
  | closedEarly
  | headTooLong
  | notText
  | badStatusLine (line : String)
  | badHeaderLine (line : String)
  | badHeaderName (name : String)
  | badHeaderValue (name : HeaderName)
  | refusalTooLong (length : Nat)
  | badTarget (cause : RequestError)
  | proxyWithoutHost (proxy : Url)
  | proxyWithoutPort (proxy : Url)
  | targetWithoutHost (target : Url)
  | badRequestTarget (target detail : String)
  | badHost (host : String)
  /-- A cause in the words of a transport. -/
  | reported (detail : String)
deriving DecidableEq, Repr

def MalformedCause.message : MalformedCause → String
  | .closedEarly => "proxy closed the connection before answering CONNECT"
  | .headTooLong => "CONNECT reply head too large"
  | .notText => "CONNECT reply is not valid UTF-8"
  | .badStatusLine line => "bad status line: " ++ Text.quoted line
  | .badHeaderLine line => "bad header line: " ++ Text.quoted line
  | .badHeaderName name =>
    "bad header name " ++ Text.quoted name ++ ": " ++ HeaderName.invalidText
  | .badHeaderValue name => "bad value for " ++ name.text ++ ": " ++ HeaderValue.invalidText
  | .refusalTooLong length => s!"CONNECT refusal body of {length} bytes exceeds limit"
  | .badTarget cause => "invalid request: " ++ cause.message
  | .proxyWithoutHost proxy => "proxy URL " ++ proxy.text ++ " has no host"
  | .proxyWithoutPort proxy => "proxy URL " ++ proxy.text ++ " has no port"
  | .targetWithoutHost target => target.redacted ++ " has no host"
  | .badRequestTarget target detail => "request target " ++ Text.quoted target ++ ": " ++ detail
  | .badHost host => "host " ++ Text.quoted host ++ ": " ++ HeaderValue.invalidText
  | .reported detail => detail

inductive TransportError where
  /-- A failure of the HTTP client that forwards requests. -/
  | http (detail : String)
  | io (cause : IoError)
  | tls (detail : String)
  /-- A failure of HTTP inside a tunnel. -/
  | tunnel (detail : String)
  | malformed (cause : MalformedCause)
  | timeout (limit : Duration)
deriving DecidableEq, Repr

def TransportError.message : TransportError → String
  | .http detail => "HTTP request through proxy failed: " ++ detail
  | .io cause => "proxy connection failed: " ++ cause.message
  | .tls detail => "TLS to target failed: " ++ detail
  | .tunnel detail => "HTTP exchange inside tunnel failed: " ++ detail
  | .malformed cause => "malformed proxy response: " ++ cause.message
  | .timeout limit => "proxy exchange timed out after " ++ limit.text

/-- The text of the failure below, where there is one. -/
def TransportError.source? : TransportError → Option String
  | .io cause => some cause.message
  | .http detail => some detail
  | .tunnel detail => some detail
  | _ => none

/-! ## Exchange -/

inductive HandshakeCause where
  | library (cause : NegotiateError)
  | noInitialToken
  | noMutualToken (status : Status)
  /-- A cause in the words of the caller. -/
  | reported (detail : String)
deriving DecidableEq, Repr

def HandshakeCause.message : HandshakeCause → String
  | .library cause => cause.message
  | .noInitialToken => "security context produced no initial token"
  | .noMutualToken status =>
    "proxy did not return a mutual authentication token (status " ++ status.text ++ ")"
  | .reported detail => detail

inductive ViolationCause where
  /-- The proxy answers the token with a token of its own and asks again. -/
  | secondLeg
  /-- The proxy's last token asks for another one. -/
  | furtherLeg
  /-- A cause in the words of the caller. -/
  | reported (detail : String)
deriving DecidableEq, Repr

def ViolationCause.message : ViolationCause → String
  | .secondLeg => "proxy requested a second Negotiate leg"
  | .furtherLeg => "mutual authentication token asks for a further leg"
  | .reported detail => detail

inductive FailureKind where
  | credential
  | negotiation
  | authenticationFailed
  | protocolViolation
  | invalidRequest
  | transport
deriving DecidableEq, Repr

/-- The word under which failures are counted. -/
def FailureKind.text : FailureKind → String
  | .credential => "credential"
  | .negotiation => "negotiation"
  | .authenticationFailed => "authentication_failed"
  | .protocolViolation => "protocol_violation"
  | .invalidRequest => "invalid_request"
  | .transport => "transport"

inductive Failure where
  | credential (cause : CredentialError)
  | negotiation (cause : HandshakeCause)
  /-- The proxy refused the client's token. -/
  | authenticationFailed (proxy : String)
  | protocolViolation (cause : ViolationCause)
  | invalidRequest (cause : RequestError)
  | transport (cause : TransportError)
deriving DecidableEq, Repr

namespace Failure

def kind : Failure → FailureKind
  | .credential _ => .credential
  | .negotiation _ => .negotiation
  | .authenticationFailed _ => .authenticationFailed
  | .protocolViolation _ => .protocolViolation
  | .invalidRequest _ => .invalidRequest
  | .transport _ => .transport

def message : Failure → String
  | .credential cause => "proxy credential error: " ++ cause.message
  | .negotiation cause => "proxy negotiation error: " ++ cause.message
  | .authenticationFailed proxy => "proxy " ++ proxy ++ " rejected the Negotiate credentials"
  | .protocolViolation cause => "proxy protocol violation: " ++ cause.message
  | .invalidRequest cause => "invalid request: " ++ cause.message
  | .transport cause => cause.message

/-- A failure of the library; all that is not about credentials is about the negotiation. -/
def ofNegotiate : NegotiateError → Failure
  | .credential cause => .credential cause
  | cause => .negotiation (.library cause)

end Failure

end ProxyHandshake
