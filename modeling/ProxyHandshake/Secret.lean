import ProxyHandshake.Text.Blank

/-!
# Secrets

A secret is a text that no listing shows.
-/

namespace ProxyHandshake

structure Secret where
  value : String
deriving DecidableEq

namespace Secret

/-- What is shown for every secret. -/
def shown : String := "[REDACTED]"

def isBlank (secret : Secret) : Bool :=
  Text.isBlankText secret.value

end Secret

end ProxyHandshake
