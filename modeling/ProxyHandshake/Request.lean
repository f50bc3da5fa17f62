import ProxyHandshake.Http.Method
import ProxyHandshake.Text.Blank
import ProxyHandshake.Text.Quoted
import ProxyHandshake.Text.Split
import ProxyHandshake.Url.Parser

/-!
# Requests

A request is kept whole, so that it can be sent a second time as it was.  Some of its headers speak
to the next hop only: those are taken away before the request is sent, with all that the
`Connection` header names, and so is the `Host` header, which follows from the URL.
-/

namespace ProxyHandshake

/-- Why a request cannot be sent. -/
inductive RequestError where
  | invalidTarget (cause : UrlError)
  /-- A target given on the command line. -/
  | invalidArgument (text : String) (cause : UrlError)
  | noHost (url : Url)
  | noPort (url : Url)
  | unsupportedScheme (scheme : String)
  | proxyNotHttp (proxy : Url)
  | proxyWithUser
  | proxyWithoutHost (proxy : Url)
  /-- A cause in the words of the caller. -/
  | reported (detail : String)
deriving DecidableEq, Repr

def RequestError.message : RequestError → String
  | .invalidTarget cause => "invalid target URL: " ++ cause.message
  | .invalidArgument text cause => text ++ ": " ++ cause.message
  | .noHost url => url.redacted ++ " has no host"
  | .noPort url => url.redacted ++ " has no port"
  | .unsupportedScheme scheme => "unsupported target scheme " ++ Text.quoted scheme
  | .proxyNotHttp proxy => "proxy " ++ proxy.redacted ++ " must use http://"
  | .proxyWithUser => "proxy URL must not embed credentials"
  | .proxyWithoutHost proxy => "proxy " ++ proxy.text ++ " has no host"
  | .reported detail => detail

/-! ## Headers for the next hop -/

/-- The headers that make sense between neighbours only. -/
def hopHeaders : List HeaderName :=
  [.connection, .keepAlive, .proxyAuthenticate, .proxyAuthorization, .proxyConnection, .te,
    .trailer, .transferEncoding, .upgrade]

/-- Whether a header called `name` must not be passed on. -/
def isHopByHop (name : String) : Bool :=
  hopHeaders.any fun header => Text.sameLetters header.text name

/-- The names in one value of the `Connection` header. -/
def namesIn (value : HeaderValue) : List HeaderName :=
  match value.text? with
  | none => []
  | some text =>
    (Text.pieces (· == ',') text).filterMap fun piece =>
      HeaderName.ofText? (String.ofList (Text.trimChars piece))

def Headers.namedByConnection (headers : Headers) : List HeaderName :=
  (headers.values .connection).flatMap namesIn

/-- The headers that are passed on. -/
def Headers.withoutHops (headers : Headers) : Headers :=
  (headers.namedByConnection ++ hopHeaders ++ [HeaderName.host]).foldl Headers.remove headers

/-! ## Requests -/

structure Request where
  method : Method
  url : Url
  headers : Headers
  body : Bytes
deriving DecidableEq, Repr

namespace Request

def of (method : Method) (url : Url) : Request :=
  { method := method, url := url, headers := .empty, body := [] }

/-- A request for the resource at `target`. -/
def get (target : String) : Except RequestError Request :=
  match Url.parse target with
  | .ok url => .ok (of .get url)
  | .error cause => .error (.invalidTarget cause)

/-- Whether the target is reached through a tunnel. -/
def isTunnelled (request : Request) : Bool :=
  request.url.scheme == "https"

/-- Host and port of the target. -/
def authority (request : Request) : Except RequestError String :=
  match request.url.hostText? with
  | none => .error (.noHost request.url)
  | some host =>
    match request.url.effectivePort? with
    | none => .error (.noPort request.url)
    | some port => .ok (host ++ ":" ++ toString port)

def stripped (request : Request) : Request :=
  { request with headers := request.headers.withoutHops }

def validate (request : Request) : Except RequestError Unit :=
  if request.url.scheme ≠ "http" ∧ request.url.scheme ≠ "https" then
    .error (.unsupportedScheme request.url.scheme)
  else request.authority.map fun _ => ()

end Request

/-- Check that a URL can be that of a proxy. -/
def validateProxy (proxy : Url) : Except RequestError Unit :=
  if proxy.scheme ≠ "http" then .error (.proxyNotHttp proxy)
  else if proxy.hasUser then .error .proxyWithUser
  else if proxy.host?.isNone then .error (.proxyWithoutHost proxy)
  else .ok ()

end ProxyHandshake
