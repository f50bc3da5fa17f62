import ProxyHandshake.Text.Quoted
import ProxyHandshake.Url.Basic
import ProxyHandshake.Text.Blank

/-!
# Service principals

The proxy is known to the authentication service by a service name and its host name.
-/

namespace ProxyHandshake

/-- Why there is no principal. -/
inductive PrincipalError where
  | invalidService (service : String)
  | invalidHost (host : String)
  | noHost (proxy : Url)
  /-- A cause in the words of the authentication library. -/
  | reported (detail : String)
deriving DecidableEq, Repr

def PrincipalError.message : PrincipalError → String
  | .invalidService service => "service name " ++ Text.quoted service ++ " is not valid"
  | .invalidHost host => "host " ++ Text.quoted host ++ " is not valid"
  | .noHost proxy => "proxy url " ++ proxy.text ++ " has no host"
  | .reported detail => detail

structure ServicePrincipal where
  service : String
  host : String
deriving DecidableEq, Repr

namespace ServicePrincipal

/-- The service of proxies that are registered under no other. -/
def defaultService : String := "HTTP"

/-- Whether a text can be a part of a principal. -/
def isPart (text : String) : Bool :=
  text ≠ "" && text.toList.all fun c => c ≠ '/' && c ≠ '@'

/-- A host name without blanks around it and dots at its end, in small letters. -/
def normalHost (host : String) : String :=
  String.ofList (Text.lowerChars (Text.dropEnd (· == '.') (Text.trimChars host.toList)))

def of (service host : String) : Except PrincipalError ServicePrincipal :=
  let service := Text.trim service
  let host := normalHost host
  if !isPart service then .error (.invalidService service)
  else if !isPart host then .error (.invalidHost host)
  else .ok ⟨service, host⟩

/-- The principal of the proxy at `proxy`. -/
def ofProxy (proxy : Url) (service : String) : Except PrincipalError ServicePrincipal :=
  match proxy.host? with
  | none => .error (.noHost proxy)
  | some host => of service host.plainText

def hostbased (principal : ServicePrincipal) : String :=
  principal.service ++ "@" ++ principal.host

def text (principal : ServicePrincipal) : String :=
  principal.service ++ "/" ++ principal.host

end ServicePrincipal

end ProxyHandshake
