import ProxyHandshake.Token

/-!
# Challenges

A proxy that wants to know its client names the schemes by which the client may introduce itself.
Each challenge is the name of a scheme with nothing else, with a token, or with parameters.
-/

namespace ProxyHandshake

structure Challenge where
  scheme : String
  token68 : Option String
  params : List (String × String)
deriving DecidableEq, Repr

namespace Challenge

def bare (scheme : String) : Challenge := ⟨scheme, none, []⟩

def isNegotiate (challenge : Challenge) : Bool :=
  Text.sameLetters challenge.scheme negotiateScheme

/-- The value of the first parameter called `name` in any case. -/
def param? (challenge : Challenge) (name : String) : Option String :=
  (challenge.params.find? fun param => Text.sameLetters param.1 name).map (·.2)

/-- The token of the proxy's side of the negotiation. -/
def negotiateToken (challenge : Challenge) : Except TokenError (Option Token) :=
  if challenge.isNegotiate then
    match challenge.token68 with
    | none => .ok none
    | some text => (Token.ofBase64 text).map some
  else .ok none

/-- The first challenge that offers negotiation. -/
def firstNegotiate? (challenges : List Challenge) : Option Challenge :=
  challenges.find? isNegotiate

end Challenge

end ProxyHandshake
