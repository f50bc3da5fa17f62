import ProxyHandshake.Configuration
import ProxyHandshake.Exchange.Handshake
import ProxyHandshake.Proofs.Url.Reading

/-!
# Settings that can be used

A configuration that passes its checks gives settings with a proxy and a limit of time, but not always
with a principal for the proxy.  The checks ask of the service only that it is not blank, and of the host
only that it is there; a service in which a slash or a sign stands, and a host of nothing but dots, make no
principal.  An exchange finds out when the proxy has already refused the first request.  Where there is a
principal, an exchange fails for none of these reasons.
-/

namespace ProxyHandshake

open Text

/-! ## Principals -/

namespace ServicePrincipal

theorem isPart_iff (text : String) :
    isPart text = true ↔ text.toList ≠ [] ∧ '/' ∉ text.toList ∧ '@' ∉ text.toList := by
  simp only [isPart, Bool.and_eq_true, List.all_eq_true, decide_eq_true_eq, ne_eq,
    String.toList_eq_nil_iff]
  refine and_congr_right fun _ => ⟨fun hall => ?_, fun hnone c hc => ?_⟩
  · exact ⟨fun hslash => (hall '/' hslash).1 rfl, fun hsign => (hall '@' hsign).2 rfl⟩
  · exact ⟨fun heq => hnone.1 (heq ▸ hc), fun heq => hnone.2 (heq ▸ hc)⟩

theorem isPart_trim_iff {service : String} (hservice : isBlankText service = false) :
    isPart (trim service) = true ↔ '/' ∉ service.toList ∧ '@' ∉ service.toList := by
  have hnonempty : trimChars service.toList ≠ [] := by
    intro hempty
    rw [isBlankText, trimChars_eq_nil_iff.mp hempty] at hservice
    cases hservice
  have hmem (c : Char) (hc : isBlank c = false) :
      c ∈ trimChars service.toList ↔ c ∈ service.toList :=
    ⟨mem_trimChars, fun hmem => mem_trimChars_of_unblank hmem hc⟩
  rw [isPart_iff, trim, String.toList_ofList, hmem '/' (by decide), hmem '@' (by decide)]
  exact and_iff_right hnonempty

/-- A host that a URL was read with is a part of a principal, unless it is made of dots. -/
theorem isPart_normalHost_iff {host : String} (hhost : IsHostText host.toList) :
    isPart (normalHost host) = true ↔ ∃ c ∈ host.toList, c ≠ '.' := by
  have htrim : trimChars host.toList = host.toList :=
    trimChars_of_unblank fun c hc =>
      isBlank_of_visible (hhost.isVisible c hc).1 (hhost.isVisible c hc).2
  have hnormal : (normalHost host).toList = lowerChars (dropEnd (· == '.') host.toList) := by
    rw [normalHost, String.toList_ofList, htrim]
  have hlower : IsHostText (normalHost host).toList := by
    rw [hnormal]
    exact isHostText_lowerChars fun c hc => hhost c ((dropEnd_isPrefix _ _).mem hc)
  have hempty : (normalHost host).toList = [] ↔ ∀ c ∈ host.toList, c = '.' := by
    rw [hnormal, lowerChars, List.map_eq_nil_iff, dropEnd_eq_nil_iff]
    simp only [beq_iff_eq]
  have hslash : '/' ∉ (normalHost host).toList := fun hmem =>
    absurd (hlower.isHostMark_eq_false hmem) (by decide)
  have hsign : '@' ∉ (normalHost host).toList := fun hmem =>
    absurd (hlower.isHostMark_eq_false hmem) (by decide)
  rw [isPart_iff, ne_eq, hempty, and_iff_left ⟨hslash, hsign⟩]
  simp

theorem isPart_plainText_iff {host : Host} (hread : host.IsRead) :
    isPart (normalHost host.plainText) = true ↔ ∃ c ∈ host.text.toList, c ≠ '.' := by
  have htext := hread.isHostText_text
  cases host with
  | domain name => exact isPart_normalHost_iff htext
  | ipv4 address => exact isPart_normalHost_iff htext
  | ipv6 address =>
      obtain ⟨hmixed, hcolon⟩ := address.isHostText_mixedText
      have hbracket : '[' ∈ (Host.ipv6 address).text.toList := by simp [Host.text]
      refine iff_of_true ?_ ⟨'[', hbracket, by decide⟩
      exact (isPart_normalHost_iff hmixed).mpr ⟨':', hcolon, by decide⟩

theorem of_eq_ok_iff {service host : String} {principal : ServicePrincipal} :
    of service host = .ok principal ↔
      principal = ⟨trim service, normalHost host⟩ ∧
        isPart (trim service) = true ∧ isPart (normalHost host) = true := by
  unfold of
  cases hservice : isPart (trim service) <;> cases hhost : isPart (normalHost host) <;>
    simp [hservice, hhost, eq_comm]

theorem exists_of_eq_ok_iff (service host : String) :
    (∃ principal, of service host = .ok principal) ↔
      isPart (trim service) = true ∧ isPart (normalHost host) = true := by
  simp only [of_eq_ok_iff, exists_eq_left]

end ServicePrincipal

/-! ## Exchanges -/

namespace Exchange

variable {κ χ : Type}

/-- An exchange with a proxy that goes by `target`.  It asks nothing of the URL of the proxy and of the
service. -/
def handshakeTo (target : ServicePrincipal) (settings : Settings) (files : FileSystem)
    (isReentrant : Bool) (proxy : Url) (request : Request) :
    Exchange κ χ (Except Failure Response) :=
  match request.validate with
  | .error cause => return .error (.invalidRequest cause)
  | .ok () => do
    match ← demand (.send proxy request.stripped none) with
    | .error cause => return .error (.transport cause)
    | .ok response =>
      if Progress.asksToNegotiate response then
        demand (.count .challenge)
        match settings.credentials.validate files with
        | .error cause => return .error (.credential cause)
        | .ok () =>
          inTurn isReentrant proxy
            (negotiate settings proxy request.stripped (Progress.start.observe response) target)
      else return .ok response

theorem handshake_eq_handshakeTo
    {settings : Settings} {proxy : Url} {target : ServicePrincipal}
    (hproxy : validateProxy proxy = .ok ())
    (htarget : ServicePrincipal.ofProxy proxy settings.service = .ok target)
    (files : FileSystem) (isReentrant : Bool) (request : Request) :
    (handshake settings files isReentrant proxy request : Exchange κ χ _) =
      handshakeTo target settings files isReentrant proxy request := by
  unfold handshake handshakeTo converse challenged
  rw [hproxy, htarget]
  cases request.validate with
  | error cause => rfl
  | ok _ =>
      refine congrArg (demand (.send proxy request.stripped none) >>= ·) (funext fun answer => ?_)
      cases answer with
      | error cause => rfl
      | ok response => cases settings.credentials.validate files <;> rfl

end Exchange

/-! ## Settings -/

namespace Configuration

theorem proxyUrl_eq_ok {configuration : Configuration} {proxy : Url}
    (hproxy : configuration.proxyUrl = .ok proxy) :
    validateProxy proxy = .ok () ∧ ∃ host, proxy.host? = some host ∧ host.IsRead := by
  unfold proxyUrl at hproxy
  split at hproxy
  · cases hproxy
  split at hproxy
  · cases hproxy
  next url hparse =>
    split at hproxy
    · cases hproxy
    next huser =>
    split at hproxy
    · cases hproxy
    next hscheme =>
    split at hproxy
    · cases hproxy
    next hnone =>
      obtain rfl := Except.ok.inj hproxy
      constructor
      · rw [validateProxy, if_neg hscheme, if_neg huser, if_neg hnone]
      · obtain ⟨host, hhost⟩ := Option.ne_none_iff_exists'.mp (by simpa using hnone)
        exact ⟨host, hhost, Url.isRead_of_parse hparse host hhost⟩

/-- What the checks of a configuration say of its settings. -/
theorem settings_eq_ok {configuration : Configuration} {settings : Settings}
    (hsettings : configuration.settings = .ok settings) :
    configuration.proxyUrl = .ok settings.proxy ∧
      settings.service = trim configuration.service ∧
      isBlankText configuration.service = false ∧
      ∃ limit, settings.timeout = some limit ∧ 0 < limit.nanoseconds := by
  unfold Configuration.settings validate at hsettings
  cases hproxy : configuration.proxyUrl with
  | error cause => simp [hproxy] at hsettings
  | ok proxy =>
      simp only [hproxy] at hsettings
      split at hsettings
      · cases hsettings
      next hvalid =>
        split at hvalid
        · cases hvalid
        next htimeout =>
        split at hvalid
        · cases hvalid
        next hservice =>
          obtain rfl := Except.ok.inj hsettings
          refine ⟨rfl, rfl, by simpa using hservice, _, rfl, ?_⟩
          simp only [Duration.ofSeconds]
          omega

variable {κ χ : Type}

/-- Accepted settings have a proxy that can be used and a limit of time.  There is a principal for the proxy
if no mark stands in the service and the host is not made of dots, and only then; and where there is one,
an exchange checks neither the proxy nor the service again. -/
theorem settings_usable_iff {configuration : Configuration} {settings : Settings}
    (hsettings : configuration.settings = .ok settings) :
    validateProxy settings.proxy = .ok () ∧
    (∃ limit, settings.timeout = some limit ∧ 0 < limit.nanoseconds) ∧
    ∃ host, settings.proxy.host? = some host ∧
      ((∃ principal, ServicePrincipal.ofProxy settings.proxy settings.service = .ok principal) ↔
        ('/' ∉ configuration.service.toList ∧ '@' ∉ configuration.service.toList) ∧
          ∃ c ∈ host.text.toList, c ≠ '.') ∧
      ∀ principal, ServicePrincipal.ofProxy settings.proxy settings.service = .ok principal →
        ∀ files isReentrant request,
          (Exchange.handshake settings files isReentrant settings.proxy request :
              Exchange κ χ _) =
            Exchange.handshakeTo principal settings files isReentrant settings.proxy request := by
  obtain ⟨hproxyUrl, hservice, hunblank, htimeout⟩ := settings_eq_ok hsettings
  obtain ⟨hproxy, host, hhost, hread⟩ := proxyUrl_eq_ok hproxyUrl
  refine ⟨hproxy, htimeout, host, hhost, ?_, fun principal hprincipal => ?_⟩
  · have hof :
        ServicePrincipal.ofProxy settings.proxy settings.service =
          ServicePrincipal.of settings.service host.plainText := by
      rw [ServicePrincipal.ofProxy, hhost]
    have htrim : trim (trim configuration.service) = trim configuration.service := by
      rw [trim, trim, String.toList_ofList, trimChars_trimChars]
    rw [hof, ServicePrincipal.exists_of_eq_ok_iff, ServicePrincipal.isPart_plainText_iff hread,
      hservice, htrim, ServicePrincipal.isPart_trim_iff hunblank]
  · exact Exchange.handshake_eq_handshakeTo hproxy hprincipal

/-! ### A service with its host -/

/-- A configuration in which the service is written like a principal. -/
def withHost : Configuration :=
  { default with url := some "http://[::1]:3128", service := " HTTP/proxy " }

theorem settings_usable_iff_withHost :
    ∃ settings, withHost.settings = .ok settings ∧
      (∃ limit, settings.timeout = some limit ∧ 0 < limit.nanoseconds) ∧
      ¬ ∃ principal, ServicePrincipal.ofProxy settings.proxy settings.service = .ok principal := by
  have hsettings : ∃ settings, withHost.settings = .ok settings := ⟨_, rfl⟩
  obtain ⟨settings, hsettings⟩ := hsettings
  obtain ⟨_, htimeout, host, _, hprincipal, _⟩ :=
    @settings_usable_iff Unit Unit withHost settings hsettings
  exact ⟨settings, hsettings, htimeout, fun hnamed =>
    (hprincipal.mp hnamed).1.1 (by decide)⟩

end Configuration

end ProxyHandshake
