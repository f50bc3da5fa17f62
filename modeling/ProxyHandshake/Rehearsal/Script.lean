import ProxyHandshake.Exchange.Session
import ProxyHandshake.Transport

/-!
# Scripts

A script stands for an authentication library and a proxy: it says how each acquisition, each
context and each step turns out, and what the proxy answers.  A list of outcomes gives them in
turn, and its last one is repeated.

Time passes at acquisitions only, one nanosecond at each.
-/

namespace ProxyHandshake.Rehearsal

/-! ## Scripts -/

/-- How long the handle of an acquisition is valid. -/
inductive Lifetime where
  | long
  | unknown
  /-- The handle has run out as it is acquired. -/
  | expired
  /-- The handle is valid as its acquisition begins, and at no later moment. -/
  | instant
deriving DecidableEq, Repr

/-- Longer than a rehearsal. -/
def farAhead : Int := 1000000000000000

/-- The end of the validity of a handle whose acquisition begins at `now`. -/
def Lifetime.validUntil (lifetime : Lifetime) (now : Instant) : Option Instant :=
  match lifetime with
  | .long => some (now + farAhead)
  | .unknown => none
  | .expired => some now
  | .instant => some (now + 1)

inductive TokenScript where
  /-- A token that names the service and the client and counts the tokens of its context. -/
  | numbered
  | fixed (token : Token)
deriving DecidableEq, Repr

inductive StepScript where
  | fail (error : NegotiateError)
  | more (token : TokenScript)
  | complete (token : Option TokenScript)
  /-- The negotiation is complete if the service sent just these bytes. -/
  | accept (expected : Bytes)
deriving DecidableEq, Repr

structure LibraryScript where
  isReentrant : Bool
  acquisitions : List (Except NegotiateError Lifetime)
  contexts : List (Except NegotiateError (List StepScript))

inductive ProxyScript where
  /-- Answers, each with the time that it takes to come. -/
  | answers (list : List (Except TransportError Response × Duration))
  /-- Every request with authorization is let through, and every other one refused. -/
  | negotiating (delay : Duration)

/-- The outcome at `index`. -/
def outcome {α : Type} (list : List α) (index : Nat) (default : α) : α :=
  ((list[index]?).or list.getLast?).getD default

/-! ## State -/

/-- A handle knows the number of its acquisition and the client. -/
structure Handle where
  number : Nat
  principal : Option String
deriving DecidableEq, Repr

structure Context where
  number : Nat
  handle : Handle
  target : ServicePrincipal
  steps : List StepScript
deriving DecidableEq, Repr

structure Stage where
  acquisitions : Nat
  initiations : Nat
  answers : Nat
  /-- The numbers of the contexts that took a step, for each step. -/
  stepped : List Nat
  /-- The numbers of the contexts that made a token, for each token. -/
  produced : List Nat
deriving DecidableEq, Repr

namespace Stage

def start : Stage := ⟨0, 0, 0, [], []⟩

def now (stage : Stage) : Instant := stage.acquisitions

end Stage

/-! ## The library -/

def defaultSteps : List StepScript := [.complete (some .numbered)]

def acquire (script : LibraryScript) (credentials : Credentials) (stage : Stage) :
    Except NegotiateError (Acquired Handle) × Stage :=
  let number := stage.acquisitions + 1
  let result := (outcome script.acquisitions stage.acquisitions (.ok .long)).map fun lifetime =>
    ⟨⟨number, credentials.principal?⟩, lifetime.validUntil stage.now⟩
  (result, { stage with acquisitions := number })

def initiate (script : LibraryScript) (handle : Handle) (target : ServicePrincipal)
    (stage : Stage) : Except NegotiateError Context × Stage :=
  let number := stage.initiations + 1
  let result := (outcome script.contexts stage.initiations (.ok [])).map fun steps =>
    ⟨number, handle, target, steps⟩
  (result, { stage with initiations := number })

def Context.token (context : Context) (source : TokenScript) (stage : Stage) : Token :=
  match source with
  | .fixed token => token
  | .numbered =>
    let number := stage.produced.count context.number + 1
    let client := context.handle.principal.getD ""
    .ofText (context.target.text ++ "|" ++ client ++ "|leg" ++ toString number)

/-- Make a token, and count it. -/
def Context.produce (context : Context) (source : TokenScript) (stage : Stage) : Token × Stage :=
  (context.token source stage, { stage with produced := context.number :: stage.produced })

def rejected : NegotiateError :=
  .negotiation (.reported "mutual authentication token rejected")

def Context.follow (context : Context) (input : Option Token) (stage : Stage) :
    StepScript → Except NegotiateError Step × Stage
  | .fail e => (.error e, stage)
  | .more source =>
    let (token, stage) := context.produce source stage
    (.ok (.more token), stage)
  | .complete none => (.ok (.complete none), stage)
  | .complete (some source) =>
    let (token, stage) := context.produce source stage
    (.ok (.complete (some token)), stage)
  | .accept expected =>
    if input = some ⟨expected⟩ then (.ok (.complete none), stage) else (.error rejected, stage)

def step (context : Context) (input : Option Token) (stage : Stage) :
    Except NegotiateError Step × Stage :=
  let steps := if context.steps.isEmpty then defaultSteps else context.steps
  let script := outcome steps (stage.stepped.count context.number) (.complete none)
  context.follow input { stage with stepped := context.number :: stage.stepped } script

def library (script : LibraryScript) : Library Stage Handle Context where
  name := "scripted"
  isReentrant := script.isReentrant
  acquire := acquire script
  initiate handle target _ stage := initiate script handle target stage
  step := step
  close _ stage := stage

/-! ## The proxy -/

def challengeHeaders : Headers :=
  ⟨((HeaderValue.ofText? negotiateScheme).map fun value => (.proxyAuthenticate, value)).toList⟩

def negotiated (authorization : Option HeaderValue) : Response :=
  if authorization.isSome then .ofProxy .ok .empty []
  else .ofProxy .proxyAuthenticationRequired challengeHeaders []

def noAnswerLeft : TransportError :=
  .malformed (.reported "no scripted response left")

def answer (script : ProxyScript) (authorization : Option HeaderValue) (stage : Stage) :
    (Except TransportError Response × Duration) × Stage :=
  let answered :=
    match script with
    | .answers list => (list[stage.answers]?).getD (.error noAnswerLeft, ⟨0⟩)
    | .negotiating delay => (.ok (negotiated authorization), delay)
  (answered, { stage with answers := stage.answers + 1 })

/-- A library and a proxy that follow their scripts. -/
def backend (library : LibraryScript) (proxy : ProxyScript) : Backend Stage Handle Context where
  library := Rehearsal.library library
  send _ _ authorization := answer proxy authorization
  now := Stage.now

/-- A library that follows its script, and a network. -/
def networkBackend (library : LibraryScript) (network : Network) :
    Backend Stage Handle Context where
  library := Rehearsal.library library
  send proxy request authorization stage :=
    ((network.send proxy request authorization, ⟨0⟩), stage)
  now := Stage.now

end ProxyHandshake.Rehearsal
