import ProxyHandshake.Exchange.Handshake

/-!
# Sessions

A session meets the demands of exchanges: it holds the handles that are kept, the counters, and a
record of every call of the library and the transport.  Exchanges that run one after another find
all locks free.

An exchange with a deadline is cut off when a response does not come in time, or when the time is
up as the library is called.  A call that has begun is not interrupted: it runs to its end, and
what it opened is closed.  Everything else that the exchange holds is given back at once.

The exchange itself does not wait for that end.  A session writes down the end of the call before
anything that comes later; what other exchanges may do until then is a matter of their moves.
-/

namespace ProxyHandshake

/-- The authentication library and the way to the proxy.  `σ` is everything that their answers
depend on. -/
structure Backend (σ κ χ : Type) where
  library : Library σ κ χ
  /-- The response, and how long it took to come. -/
  send : Url → Request → Option HeaderValue → σ →
    (Except TransportError Response × Duration) × σ
  now : σ → Instant

/-- A call of the library or the transport, with its outcome. -/
inductive Call (κ χ : Type) where
  | sent (proxy : Url) (request : Request) (authorization : Option HeaderValue)
      (result : Except TransportError Response)
  | acquired (result : Except NegotiateError (Acquired κ))
  | initiated (handle : κ) (target : ServicePrincipal) (result : Except NegotiateError χ)
  | stepped (context : χ) (input : Option Token) (result : Except NegotiateError Step)
  | closed (context : χ)

structure Session (σ κ χ : Type) where
  outside : σ
  cache : Cache κ
  /-- What was counted, in order. -/
  counted : List Counter
  /-- The calls so far, in order. -/
  calls : List (Call κ χ)

namespace Session

variable {σ κ χ : Type}

def start (outside : σ) : Session σ κ χ := ⟨outside, .empty, [], []⟩

def note (session : Session σ κ χ) (call : Call κ χ) : Session σ κ χ :=
  { session with calls := session.calls ++ [call] }

def count (session : Session σ κ χ) (counter : Counter) : Session σ κ χ :=
  { session with counted := session.counted ++ [counter] }

/-! ## Calls -/

def send (backend : Backend σ κ χ) (session : Session σ κ χ) (proxy : Url) (request : Request)
    (authorization : Option HeaderValue) :
    (Except TransportError Response × Duration) × Session σ κ χ :=
  let ((result, delay), outside) := backend.send proxy request authorization session.outside
  ((result, delay),
    { session with outside := outside }.note (.sent proxy request authorization result))

def acquire (backend : Backend σ κ χ) (session : Session σ κ χ) (credentials : Credentials) :
    Except NegotiateError (Acquired κ) × Session σ κ χ :=
  let (result, outside) := backend.library.acquire credentials session.outside
  (result, { session with outside := outside }.note (.acquired result))

def step (backend : Backend σ κ χ) (session : Session σ κ χ) (context : χ)
    (input : Option Token) : Except NegotiateError Step × Session σ κ χ :=
  let (result, outside) := backend.library.step context input session.outside
  (result, { session with outside := outside }.note (.stepped context input result))

def close (backend : Backend σ κ χ) (session : Session σ κ χ) (context : χ) :
    Session σ κ χ :=
  { session with outside := backend.library.close context session.outside }.note
    (.closed context)

/-- Open a context and take its first step; a context whose first step fails is closed. -/
def initiate (backend : Backend σ κ χ) (session : Session σ κ χ) (handle : κ)
    (target : ServicePrincipal) : Except NegotiateError (χ × Step) × Session σ κ χ :=
  let (opened, outside) := backend.library.initiate handle target true session.outside
  let session := { session with outside := outside }.note (.initiated handle target opened)
  match opened with
  | .error e => (.error e, session)
  | .ok context =>
    match session.step backend context none with
    | (.error e, session) => (.error e, session.close backend context)
    | (.ok first, session) => (.ok (context, first), session)

/-- Meet one demand, and say how long that took. -/
def perform (backend : Backend σ κ χ) (session : Session σ κ χ) :
    (demand : Demand κ χ) → (demand.Answer × Duration) × Session σ κ χ
  | .send proxy request authorization => session.send backend proxy request authorization
  | .acquire credentials =>
    let (answer, session) := session.acquire backend credentials
    ((answer, ⟨0⟩), session)
  | .initiate handle target =>
    let (answer, session) := session.initiate backend handle target
    ((answer, ⟨0⟩), session)
  | .step context token =>
    let (answer, session) := session.step backend context (some token)
    ((answer, ⟨0⟩), session)
  | .close context => (((), ⟨0⟩), session.close backend context)
  | .take _ => (((), ⟨0⟩), session)
  | .release _ => (((), ⟨0⟩), session)
  | .lookup proxyKey =>
    let now := backend.now session.outside
    let (found, cache) := session.cache.lookup proxyKey now
    (((now, found), ⟨0⟩), { session with cache := cache })
  | .store proxyKey since acquired =>
    (((), ⟨0⟩), { session with cache := session.cache.store proxyKey since acquired })
  | .forget proxyKey => (((), ⟨0⟩), { session with cache := session.cache.forget proxyKey })
  | .count counter => (((), ⟨0⟩), session.count counter)

/-! ## One exchange after another -/

/-- Run an exchange to its end. -/
def run (backend : Backend σ κ χ) {α : Type} :
    Exchange κ χ α → Session σ κ χ → α × Session σ κ χ
  | .done a, session => (a, session)
  | .ask demand next, session =>
    let ((answer, _), session) := session.perform backend demand
    run backend (next answer) session

/-- The context that an exchange holds after a demand was met. -/
def heldAfter (held : Option χ) : (demand : Demand κ χ) → demand.Answer → Option χ
  | .initiate .., .ok (context, _) => some context
  | .close _, _ => none
  | _, _ => held

/-- Close the context that an exchange holds when it is cut off. -/
def closeHeld (backend : Backend σ κ χ) (session : Session σ κ χ) (held : Option χ) :
    Session σ κ χ :=
  match held with
  | some context => session.close backend context
  | none => session

/-- Whether an exchange that has taken `elapsed` is cut off in the midst of a demand that takes
`delay` longer. -/
def isCut (limit elapsed delay : Nat) (demand : Demand κ χ) : Bool :=
  limit < elapsed + delay || (demand.isLibraryCall && limit ≤ elapsed)

/-- Run an exchange for at most `limit` nanoseconds, of which `elapsed` are over; no outcome means
that it was cut off. -/
def runWithin (backend : Backend σ κ χ) (limit : Nat) {α : Type} :
    Exchange κ χ α → Nat → Option χ → Session σ κ χ → Option α × Session σ κ χ
  | .done a, _, _, session => (some a, session)
  | .ask demand next, elapsed, held, session =>
    let ((answer, delay), session) := session.perform backend demand
    let held := heldAfter held demand answer
    if isCut limit elapsed delay.nanoseconds demand then (none, session.closeHeld backend held)
    else runWithin backend limit (next answer) (elapsed + delay.nanoseconds) held session

/-- The result of an exchange that may have been cut off at `limit`. -/
def resultWithin (limit : Duration) (outcome : Option (Except Failure Response)) :
    Except Failure Response :=
  outcome.getD (.error (.transport (.timeout limit)))

/-- Count a failure. -/
def countResult (session : Session σ κ χ) (result : Except Failure Response) :
    Session σ κ χ :=
  match result with
  | .ok _ => session
  | .error failure => session.count (.failure failure.kind)

/-- Send `request` through `proxy`, within the time that the settings allow. -/
def authenticate (backend : Backend σ κ χ) (settings : Settings) (files : FileSystem)
    (session : Session σ κ χ) (proxy : Url) (request : Request) :
    Except Failure Response × Session σ κ χ :=
  let program : Exchange κ χ (Except Failure Response) :=
    .handshake settings files backend.library.isReentrant proxy request
  match settings.timeout with
  | none =>
    let (result, session) := session.run backend program
    (result, session.countResult result)
  | some limit =>
    let (outcome, session) := session.runWithin backend limit.nanoseconds program 0 none
    let result := resultWithin limit outcome
    (result, session.countResult result)

/-- Send requests through their proxies, one after another. -/
def authenticateAll (backend : Backend σ κ χ) (settings : Settings) (files : FileSystem) :
    List (Url × Request) → Session σ κ χ → List (Except Failure Response) × Session σ κ χ
  | [], session => ([], session)
  | (proxy, request) :: rest, session =>
    let (result, session) := session.authenticate backend settings files proxy request
    let (results, session) := authenticateAll backend settings files rest session
    (result :: results, session)

end Session

end ProxyHandshake
