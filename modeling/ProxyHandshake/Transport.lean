import ProxyHandshake.Connect
import ProxyHandshake.Response

/-!
# The way to the target

A request for plain HTTP is sent to the proxy as a whole, with the authorization among its headers.
A request for HTTPS goes through a tunnel: the proxy is asked for a connection, and only if it grants
one the request is sent to the target, over TLS and without a word for the proxy.
-/

namespace ProxyHandshake

/-- What the system and its libraries do for the client. -/
structure Network where
  /-- Hand a request for plain HTTP to an HTTP client that uses the proxy. -/
  forward : (proxy : Url) → Request → Except TransportError Response
  /-- Connect to `host:port`. -/
  connect : (address : String) → Except IoError Connect.Stream
  /-- Exchange a request for a response over TLS with the server of the given name. -/
  exchangeSecurely : (serverName : String) → (target : String) → Request →
    Except TransportError Response

/-- Whether the host of an address `host:port` is a number or the name of the machine itself, so
that nobody has to be asked where it is. -/
def isOwnAddress (address : String) : Bool :=
  match Text.cutLast? (· == ':') address.toList with
  | none => false
  | some (host, _) =>
    host = "localhost".toList || host.head? = some '[' ||
      host.all fun c => c.isDigit || c = '.'

/-- A network that leads nowhere. -/
def Network.unreachable : Network where
  forward _ _ := .error (.http "error sending request")
  connect address := .error (if isOwnAddress address then .unreachable else .unresolved)
  exchangeSecurely _ _ _ := .error (.io .unreachable)

/-! ## Forwarding -/

/-- The headers that the proxy gets with a forwarded request. -/
def Request.forwardedHeaders (request : Request) (authorization : Option HeaderValue) :
    Headers :=
  match authorization with
  | some value => request.headers.put .proxyAuthorization value
  | none => request.headers

/-! ## Tunnels -/

/-- The address that a connection to the proxy goes to. -/
def proxyAddress (proxy : Url) : Except MalformedCause String :=
  match proxy.hostText? with
  | none => .error (.proxyWithoutHost proxy)
  | some host =>
    match proxy.effectivePort? with
    | none => .error (.proxyWithoutPort proxy)
    | some port => .ok (host ++ ":" ++ toString port)

/-- The name that the target's certificate has to bear. -/
def serverName (target : Url) : Except MalformedCause String :=
  match target.host? with
  | none => .error (.targetWithoutHost target)
  | some host => .ok host.plainText

/-- Path and query, as the target is asked for them. -/
def requestTarget (url : Url) : String :=
  url.path.text ++ url.queryText

/-- Host and port, as the target is told them. -/
def hostHeader (url : Url) : Except MalformedCause String :=
  match url.hostText? with
  | none => .error (.targetWithoutHost url)
  | some host => .ok (host ++ url.portText)

/-- A character of a path. -/
def isPathChar (c : Char) : Bool :=
  let n := c.toNat
  n == 0x21 || n == 0x22 || (0x24 ≤ n && n ≤ 0x3B) || n == 0x3D || (0x40 ≤ n && n ≤ 0x5F) ||
    (0x61 ≤ n && n != 0x7F)

/-- A character of a query. -/
def isQueryChar (c : Char) : Bool :=
  let n := c.toNat
  n == 0x21 || (0x24 ≤ n && n ≤ 0x3B) || n == 0x3D || 0x3F ≤ n

def longestTarget : Nat := 65534

/-- Why a text cannot be asked for. -/
def targetFault? (target : String) : Option String :=
  let (path, query) := target.toList.span (· != '?')
  if longestTarget < target.utf8ByteSize then some "uri too long"
  else if path.all isPathChar && query.all isQueryChar then none
  else some "invalid uri character"

/-- The request as the target sees it. -/
def Request.forTarget (request : Request) : Except MalformedCause (String × Request) :=
  match hostHeader request.url with
  | .error cause => .error cause
  | .ok host =>
    let target := requestTarget request.url
    match targetFault? target with
    | some detail => .error (.badRequestTarget target detail)
    | none =>
      match HeaderValue.ofText? host with
      | none => .error (.badHost host)
      | some value => .ok (target, { request with headers := request.headers.put .host value })

namespace Network

/-- Send a request to its target over a tunnel for which the proxy answered `reply`. -/
def sendThrough (network : Network) (request : Request) (reply : ConnectReply) :
    Except TransportError Response :=
  match serverName request.url with
  | .error cause => .error (.malformed cause)
  | .ok name =>
    match request.forTarget with
    | .error cause => .error (.malformed cause)
    | .ok (target, request) =>
      (network.exchangeSecurely name target request).map fun response =>
        { response with proxyHeaders := reply.headers }

/-- Send a request through a tunnel. -/
def tunnel (network : Network) (proxy : Url) (request : Request)
    (authorization : Option HeaderValue) : Except TransportError Response :=
  match request.authority with
  | .error cause => .error (.malformed (.badTarget cause))
  | .ok authority =>
    match proxyAddress proxy with
    | .error cause => .error (.malformed cause)
    | .ok address =>
      match network.connect address with
      | .error cause => .error (.io cause)
      | .ok stream =>
        match (Connect.establish authority authorization stream).1 with
        | .error e => .error e
        | .ok reply =>
          if reply.status.isSuccess then network.sendThrough request reply
          else .ok (.ofProxy reply.status reply.headers reply.body)

/-- Send a request through the proxy, the way that its scheme asks for. -/
def send (network : Network) (proxy : Url) (request : Request)
    (authorization : Option HeaderValue) : Except TransportError Response :=
  if request.isTunnelled then network.tunnel proxy request authorization
  else
    network.forward proxy
      { request with headers := request.forwardedHeaders authorization }

end Network

end ProxyHandshake
