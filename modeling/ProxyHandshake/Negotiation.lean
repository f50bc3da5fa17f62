import ProxyHandshake.Credentials
import ProxyHandshake.ServicePrincipal
import ProxyHandshake.Token

/-!
# Negotiation

The authentication library turns credentials into a handle, and a handle into a context for one
conversation with one service.  Each step of a context takes what the service sent and says what
to send back, and whether the two sides know each other now.
-/

namespace ProxyHandshake

/-! ## Errors -/

inductive NegotiationCause where
  | noLibrary (target : ServicePrincipal)
  /-- A cause in the words of the authentication library. -/
  | reported (detail : String)
deriving DecidableEq, Repr

def NegotiationCause.message : NegotiationCause → String
  | .noLibrary target => "cannot negotiate with " ++ target.text ++ ": no Kerberos backend"
  | .reported detail => detail

/-- What can go wrong on the client's side of a negotiation. -/
inductive NegotiateError where
  | credential (cause : CredentialError)
  | negotiation (cause : NegotiationCause)
  | invalidToken (cause : TokenError)
  | invalidPrincipal (cause : PrincipalError)
deriving DecidableEq, Repr

def NegotiateError.message : NegotiateError → String
  | .credential cause => "no usable credential: " ++ cause.message
  | .negotiation cause => "negotiation failed: " ++ cause.message
  | .invalidToken cause => "invalid negotiation token: " ++ cause.message
  | .invalidPrincipal cause => "invalid service principal: " ++ cause.message

/-! ## Steps and handles -/

/-- The outcome of one step of a context. -/
inductive Step where
  /-- Nothing more is expected from the service; the token, if any, is still to be sent. -/
  | complete (token : Option Token)
  /-- The token is to be sent, and the service has to answer with another. -/
  | more (token : Token)
deriving DecidableEq, Repr

namespace Step

/-- The token to send. -/
def token? : Step → Option Token
  | .complete token => token
  | .more token => some token

def shown : Step → String
  | .complete token => "Complete(" ++ Text.optional (token.map Token.shown) ++ ")"
  | .more token => "Continue(" ++ token.shown ++ ")"

end Step

/-- A moment, in nanoseconds from some fixed one. -/
abbrev Instant := Int

/-- A handle for credentials, and how long the library says that it stays valid. -/
structure Acquired (κ : Type) where
  handle : κ
  /-- Unknown when the library cannot tell. -/
  validUntil : Option Instant
deriving DecidableEq, Repr

def Acquired.isValidAt {κ : Type} (acquired : Acquired κ) (now : Instant) : Bool :=
  acquired.validUntil.any (now < ·)

/-- What a program needs of an authentication library.  `σ` is everything that its answers depend
on, `κ` are handles and `χ` contexts. -/
structure Library (σ κ χ : Type) where
  name : String
  /-- Whether one handle may serve several negotiations at once. -/
  isReentrant : Bool
  acquire : Credentials → σ → Except NegotiateError (Acquired κ) × σ
  /-- Open a context; the last argument but one asks the service to prove itself too. -/
  initiate : κ → ServicePrincipal → Bool → σ → Except NegotiateError χ × σ
  /-- The first step takes no token, a later one what the service sent. -/
  step : χ → Option Token → σ → Except NegotiateError Step × σ
  close : χ → σ → σ

/-- The library of a program that was built without one. -/
def Library.missing : Library Unit Unit Empty where
  name := "disabled"
  isReentrant := false
  acquire _ s := (.error (.credential .noLibrary), s)
  initiate _ target _ s := (.error (.negotiation (.noLibrary target)), s)
  step context _ _ := nomatch context
  close context _ := nomatch context

end ProxyHandshake
