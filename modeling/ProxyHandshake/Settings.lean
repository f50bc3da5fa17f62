import ProxyHandshake.Credentials
import ProxyHandshake.Duration
import ProxyHandshake.ServicePrincipal

/-!
# Settings

How one proxy is addressed, and who the client is.
-/

namespace ProxyHandshake

structure Settings where
  proxy : Url
  credentials : Credentials
  /-- The service name in the principal of the proxy. -/
  service : String := ServicePrincipal.defaultService
  /-- Whether a proxy that does not prove itself is an error. -/
  isStrict : Bool := false
  /-- How long a whole exchange may take. -/
  timeout : Option Duration := none
deriving DecidableEq

end ProxyHandshake
