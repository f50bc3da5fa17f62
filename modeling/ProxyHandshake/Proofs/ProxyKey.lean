import ProxyHandshake.Cache
import ProxyHandshake.Proofs.CanonicalPrincipal
import ProxyHandshake.Proofs.Url.Address

/-!
# Keys of proxies

The handle of a proxy is kept under one text that joins scheme, host and port.  No two proxies share a key:
the port stands behind the last colon, and the host is known from its text, whether it is a name or an
address.  The principal is made from the host by another way, and still two proxies with one key have the
same principal.
-/

namespace ProxyHandshake

open Text

/-! ## Principals of hosts -/

namespace ServicePrincipal

theorem of_congr {host other : String} (hsame : normalHost host = normalHost other)
    (service : String) : of service host = of service other := by
  unfold of
  rw [hsame]

theorem of_plainText_of_sameHost {host other : Host} (hsame : host.SameHost other) (service : String) :
    of service host.plainText = of service other.plainText := by
  cases host with
  | domain name =>
      cases other with
      | domain other =>
          apply of_congr
          rw [← String.toList_inj, toList_normalHost, toList_normalHost, Host.plainText,
            Host.plainText, beq_iff_eq.mp hsame]
      | ipv4 address => cases hsame
      | ipv6 address => cases hsame
  | ipv4 address => rw [show Host.ipv4 address = other from hsame]
  | ipv6 address => rw [show Host.ipv6 address = other from hsame]

end ServicePrincipal

/-! ## Keys -/

namespace Url

/-- The key of the proxy at a port of a host. -/
def keyOf (host : Host) (port : Nat) : String :=
  "http" ++ "://" ++ lower host.text ++ ":" ++ toString port

theorem keyOf_eq_iff {host other : Host} {port otherPort : Nat} :
    keyOf host port = keyOf other otherPort ↔
      lowerChars host.text.toList = lowerChars other.text.toList ∧ port = otherPort := by
  have hkey (host : Host) (port : Nat) : (keyOf host port).toList =
      "http://".toList ++ lowerChars host.text.toList ++ ':' :: Nat.toDigits 10 port := by
    simp [keyOf, lower]
  -- The last colon is the one in front of the port, also behind an address with colons.
  have hport (port : Nat) : ':' ∉ Nat.toDigits 10 port := not_mem_toDigits (by decide) port
  rw [← String.toList_inj, hkey, hkey, append_cons_inj_last (hport port) (hport otherPort),
    List.append_right_inj, toDigits_inj (by decide) (by decide)]

theorem validateProxy_eq_ok_iff {proxy : Url} :
    validateProxy proxy = .ok () ↔
      proxy.scheme = "http" ∧ proxy.hasUser = false ∧ ∃ host, proxy.host? = some host := by
  unfold validateProxy
  by_cases hscheme : proxy.scheme = "http"
  · cases huser : proxy.hasUser <;> cases hhost : proxy.host? <;> simp [hscheme]
  · simp [hscheme]

/-- What is known of the URL of a proxy that was accepted. -/
theorem exists_of_validateProxy
    {text : String} {proxy : Url} (hparse : parse text = .ok proxy)
    (hproxy : validateProxy proxy = .ok ()) :
    ∃ host place port, proxy.host? = some host ∧ Host.parse place = .ok host ∧
      proxy.effectivePort? = some port ∧ proxy.proxyKey = keyOf host port := by
  obtain ⟨hscheme, -, host, hhost⟩ := validateProxy_eq_ok_iff.mp hproxy
  have hweb : SchemeKind.of proxy.scheme = .web := by
    rw [hscheme]
    decide
  obtain ⟨other, place, hother, hread⟩ := host_of_parse hparse hweb
  obtain rfl : other = host :=
    Option.some.inj (hother.symm.trans (Option.filter_eq_some_iff.mp hhost).1)
  obtain ⟨port, hport⟩ : ∃ port, proxy.effectivePort? = some port := by
    rw [effectivePort?, hscheme]
    cases proxy.port with
    | none => exact ⟨80, rfl⟩
    | some port => exact ⟨port, rfl⟩
  refine ⟨other, place, port, hhost, hread, hport, ?_⟩
  simp only [proxyKey, hostText?, hhost, hport, hscheme, keyOf, Option.map_some, Option.getD_some]

/-- Two proxies have one key exactly if they are the same host at the same port, whatever else their URLs
say, and then every service has the same principal at both. -/
theorem proxyKey_eq_iff
    {text otherText : String} {proxy other : Url}
    (hparse : parse text = .ok proxy) (hproxy : validateProxy proxy = .ok ())
    (hotherParse : parse otherText = .ok other) (hother : validateProxy other = .ok ()) :
    (proxy.proxyKey = other.proxyKey ↔
      (∃ host ∈ proxy.host?, ∃ otherHost ∈ other.host?, host.SameHost otherHost) ∧
        proxy.effectivePort? = other.effectivePort?) ∧
    (proxy.proxyKey = other.proxyKey → ∀ service,
      ServicePrincipal.ofProxy proxy service = ServicePrincipal.ofProxy other service) := by
  obtain ⟨host, place, port, hhost, hread, hport, hkey⟩ := exists_of_validateProxy hparse hproxy
  obtain ⟨otherHost, otherPlace, otherPort, hotherHost, hotherRead, hotherPort, hotherKey⟩ :=
    exists_of_validateProxy hotherParse hother
  have hequal : proxy.proxyKey = other.proxyKey ↔ host.SameHost otherHost ∧ port = otherPort := by
    rw [hkey, hotherKey, keyOf_eq_iff, Host.lowerChars_text_eq_iff hread hotherRead]
  rw [hequal]
  constructor
  · rw [hport, hotherPort, hhost, hotherHost]
    simp
  · rintro ⟨hsame, -⟩ service
    simp only [ServicePrincipal.ofProxy, hhost, hotherHost]
    exact ServicePrincipal.of_plainText_of_sameHost hsame service

/-! ### Two texts of one proxy -/

/-- A proxy known by its name, with a path behind it. -/
def namedProxy (path : String) (query fragment : Option String) : Url :=
  { scheme := "http", username := "", password := none, host := some (.domain "proxy.test")
    port := none, path := .segments [path], query := query, fragment := fragment }

theorem proxyKey_eq_iff_namedProxy :
    let proxy := namedProxy "wpad.dat" (some "old") (some "top")
    let other := namedProxy "" none none
    parse "http://Proxy.Test:80/wpad.dat?old#top" = .ok proxy ∧
      parse "http://proxy.test" = .ok other ∧ proxy.proxyKey = other.proxyKey ∧
        ∀ service,
          ServicePrincipal.ofProxy proxy service = ServicePrincipal.ofProxy other service := by
  intro proxy other
  have hparse : parse "http://Proxy.Test:80/wpad.dat?old#top" = .ok proxy := by decide +kernel
  have hotherParse : parse "http://proxy.test" = .ok other := by decide +kernel
  have hproxy : validateProxy proxy = .ok () := by decide
  have hother : validateProxy other = .ok () := by decide
  obtain ⟨hkey, hprincipal⟩ := proxyKey_eq_iff hparse hproxy hotherParse hother
  have hsame : proxy.proxyKey = other.proxyKey := hkey.mpr ⟨⟨_, rfl, _, rfl, rfl⟩, rfl⟩
  exact ⟨hparse, hotherParse, hsame, hprincipal hsame⟩

end Url

end ProxyHandshake
