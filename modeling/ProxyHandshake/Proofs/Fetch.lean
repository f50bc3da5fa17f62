import ProxyHandshake.Fetch
import ProxyHandshake.Proofs.Exchange.Blind
import ProxyHandshake.Proofs.Exchange.Rehearsed
import ProxyHandshake.Proofs.Url.Reading

/-!
# Passwords in the errors of the command

The messages of a failed exchange mask the password of the target, but the command puts the URL in
front of them as it is.  Unless the command fails before it looks at the target, its error shows the
password.
-/

namespace ProxyHandshake

variable {σ κ χ : Type}

/-! ## URLs with a password -/

namespace Url

theorem text_withPassword (url : Url) (hhost : url.host.isSome = true) :
    ∃ front behind, ∀ password, (url.withPassword password).text = front ++ password ++ behind := by
  obtain ⟨host, hhost⟩ := Option.isSome_iff_exists.mp hhost
  refine ⟨url.scheme ++ ":" ++ ("//" ++ (url.username ++ ":")),
    "@" ++ host.text ++ url.portText ++ url.path.text ++ url.queryText ++ url.fragmentText, ?_⟩
  intro password
  have hpart :
      (url.withPassword password).hostPart =
        "//" ++ (url.username ++ ":" ++ password ++ "@") ++ host.text ++ url.portText := by
    simp only [hostPart, withPassword, hhost]
    rfl
  have htext :
      (url.withPassword password).text =
        url.scheme ++ ":" ++ (url.withPassword password).hostPart ++ url.path.text ++
          url.queryText ++ url.fragmentText := rfl
  rw [htext, hpart]
  simp only [String.append_assoc]

/-- The text of a URL shows its password. -/
theorem text_withPassword_inj
    {url : Url} (hhost : url.host.isSome = true) {password secret : String} :
    (url.withPassword password).text = (url.withPassword secret).text ↔ password = secret := by
  obtain ⟨front, behind, htext⟩ := text_withPassword url hhost
  rw [htext, htext, String.append_left_inj, String.append_right_inj]

end Url

/-! ## Reports -/

namespace Report

theorem text_within (report : Report) (activity : String) :
    (report.within activity).text = activity ++ ": " ++ report.text := by
  have htexts : (report.within activity).texts = activity :: report.texts := by
    simp [texts, within]
  have hsome : report.texts ≠ [] := by simp [texts]
  unfold text
  rw [htexts, String.intercalate_cons_of_ne_nil hsome]

end Report

/-! ## The command -/

namespace Fetch

open CommandLine

variable (backend : Backend σ κ χ) (start : Environment → σ) (world : World)

/-- A configuration that has passed its checks gives settings. -/
theorem settings_of_loadConfiguration
    {arguments : Arguments} {configuration : Configuration}
    (hload : loadConfiguration world arguments = .ok configuration) :
    ∃ settings, configuration.settings = .ok settings := by
  have hvalid : configuration.validate = .ok () := by
    unfold loadConfiguration at hload
    split at hload
    simp only at hload
    split at hload
    · cases hload
    · split at hload
      · cases hload
      · next hvalid =>
        cases hload
        exact hvalid
  have hproxy : ∃ proxy, configuration.proxyUrl = .ok proxy := by
    unfold Configuration.validate at hvalid
    split at hvalid
    · cases hvalid
    · next proxy hproxy => exact ⟨proxy, hproxy⟩
  obtain ⟨proxy, hproxy⟩ := hproxy
  unfold Configuration.settings
  rw [hvalid, hproxy]
  exact ⟨_, rfl⟩

/-- The request to `url` that the arguments describe. -/
def requestTo (arguments : Arguments) (url : Url) : Request where
  method := arguments.chosenMethod
  url := url
  headers := ⟨arguments.headers⟩
  body := Utf8.encode (arguments.data.getD "")

/-- What the command leaves behind an exchange for `url`. -/
def outcomeOf (showsHeaders : Bool) (url : Url) : Except Failure Response → Outcome
  | .ok response => ⟨0, rendered response showsHeaders, ""⟩
  | .error failure =>
    let report := (Report.of (.failure failure)).within ("fetching " ++ url.text)
    ⟨report.exitCode, [], errorLine report⟩

theorem run_of_configuration
    {arguments : Arguments} {configuration : Configuration} {settings : Settings} {url : Url}
    (hload : loadConfiguration world arguments = .ok configuration)
    (hsettings : configuration.settings = .ok settings)
    (hparse : Url.parse arguments.target = .ok url) :
    run backend start world arguments =
      outcomeOf arguments.showsHeaders url
        ((Session.start (start (configuration.exported world.environment)) :
          Session σ κ χ).authenticate backend settings world.files settings.proxy
            (requestTo arguments url)).1 := by
  have hrequest : arguments.request = .ok (requestTo arguments url) := by
    unfold Arguments.request
    rw [hparse]
    rfl
  unfold run fetch
  rw [hload, hrequest]
  simp only
  rw [hsettings]
  simp only [requestTo]
  generalize
    ((Session.start (start (configuration.exported world.environment)) :
      Session σ κ χ).authenticate backend settings world.files settings.proxy _).1 = result
  cases result with
  | ok response => rfl
  | error failure => rfl

theorem run_of_report
    {arguments : Arguments} {report : Report}
    (hload : loadConfiguration world arguments = .error report) :
    run backend start world arguments = ⟨report.exitCode, [], errorLine report⟩ := by
  unfold run
  rw [hload]

/-- The error of a target that is no URL shows the target as it was given. -/
theorem run_of_unreadable
    {arguments : Arguments} {configuration : Configuration} {cause : UrlError}
    (hload : loadConfiguration world arguments = .ok configuration)
    (hparse : Url.parse arguments.target = .error cause) :
    (run backend start world arguments).errors =
      "error: invalid request: " ++ arguments.target ++ ": " ++ cause.message ++ "\n" := by
  have hrequest : arguments.request = .error (.invalidArgument arguments.target cause) := by
    unfold Arguments.request
    rw [hparse]
  have hrun :
      (run backend start world arguments).errors =
        "error: " ++ ("invalid request: " ++ (arguments.target ++ ": " ++ cause.message)) ++
          "\n" := by
    unfold run fetch
    rw [hload, hrequest]
    rfl
  have hwords : "error: " ++ "invalid request: " = "error: invalid request: " := rfl
  rw [hrun, ← hwords]
  simp only [String.append_assoc]

/-- Results that read the same are reported with the same code and, behind the URL, in the same
words. -/
theorem outcomeOf_readSame
    {first second : Except Failure Response} (hsame : Session.ReadsSame first second)
    (showsHeaders : Bool) (url other : Url) :
    (outcomeOf showsHeaders url first).exitCode =
        (outcomeOf showsHeaders other second).exitCode ∧
      (outcomeOf showsHeaders url first).output =
        (outcomeOf showsHeaders other second).output ∧
      ((outcomeOf showsHeaders url first).exitCode ≠ 0 →
        ∃ rest,
          (outcomeOf showsHeaders url first).errors =
            "error: fetching " ++ url.text ++ ": " ++ rest ∧
          (outcomeOf showsHeaders other second).errors =
            "error: fetching " ++ other.text ++ ": " ++ rest) := by
  have herror (failure : Failure) (url : Url) :
      (outcomeOf showsHeaders url (.error failure)).errors =
        "error: fetching " ++ url.text ++ ": " ++
          ((Report.of (.failure failure)).text ++ "\n") := by
    have hline :
        (outcomeOf showsHeaders url (.error failure)).errors =
          "error: " ++ ("fetching " ++ url.text ++ ": " ++
            (Report.of (.failure failure)).text) ++ "\n" := by
      rw [← Report.text_within]
      rfl
    have hwords : "error: " ++ "fetching " = "error: fetching " := rfl
    rw [hline, ← hwords]
    simp only [String.append_assoc]
  cases hsame with
  | same =>
      cases first with
      | ok response => exact ⟨rfl, rfl, fun hfails => absurd rfl hfails⟩
      | error failure =>
          exact ⟨rfl, rfl, fun _ => ⟨_, herror failure url, herror failure other⟩⟩
  | @invalid cause opposed hmessage =>
      have htext :
          (Report.of (.failure (.invalidRequest cause))).text =
            (Report.of (.failure (.invalidRequest opposed))).text := by
        have htexts (cause : RequestError) :
            (Report.of (.failure (.invalidRequest cause))).text =
              "invalid request: " ++ cause.message := rfl
        rw [htexts, htexts, hmessage]
      refine ⟨rfl, rfl, fun _ => ⟨_, herror _ url, ?_⟩⟩
      rw [htext]
      exact herror _ other

section

variable {backend start world} {base : Url} {password secret : String} {arguments : Arguments}
  {target : String}

/-- With a configuration, a command that fails says which URL it was fetching; behind the URL both
errors have the same words. -/
theorem run_withPassword
    {configuration : Configuration}
    (hload : loadConfiguration world arguments = .ok configuration)
    (hfirst : Url.parse arguments.target = .ok (base.withPassword password))
    (hsecond : Url.parse target = .ok (base.withPassword secret))
    (hblind : backend.IsBlind (base.withPassword password) (base.withPassword secret))
    (hfails : (run backend start world arguments).exitCode ≠ 0) :
    let first := run backend start world arguments
    let second := run backend start world { arguments with target := target }
    second.exitCode = first.exitCode ∧ second.output = first.output ∧
    ∃ rest,
      first.errors = "error: fetching " ++ (base.withPassword password).text ++ ": " ++ rest ∧
      second.errors = "error: fetching " ++ (base.withPassword secret).text ++ ": " ++ rest := by
  intro first second
  obtain ⟨settings, hsettings⟩ := settings_of_loadConfiguration world hload
  have hopposedLoad :
      loadConfiguration world { arguments with target := target } = .ok configuration := hload
  have hrun := run_of_configuration backend start world hload hsettings hfirst
  have hopposed := run_of_configuration backend start world hopposedLoad hsettings hsecond
  have hresults :=
    Session.authenticate_withPassword settings world.files
      (.start (start (configuration.exported world.environment))) settings.proxy
      (requestTo arguments base) base password secret hblind
  obtain ⟨hcode, houtput, hwords⟩ :=
    outcomeOf_readSame hresults arguments.showsHeaders (base.withPassword password)
      (base.withPassword secret)
  rw [hrun] at hfails
  change first = _ at hrun
  change second = _ at hopposed
  rw [hrun, hopposed]
  exact ⟨hcode.symm, houtput.symm, hwords hfails⟩

/-- The arguments are looked at for the target only when the configuration has been loaded. -/
theorem run_of_report_withTarget
    {report : Report} (hload : loadConfiguration world arguments = .error report) :
    run backend start world { arguments with target := target } =
      run backend start world arguments := by
  have hopposedLoad :
      loadConfiguration world { arguments with target := target } = .error report := hload
  rw [run_of_report backend start world hopposedLoad, run_of_report backend start world hload]

theorem shown_withPassword_inj (hhost : base.host.isSome = true) (rest : String) :
    "error: fetching " ++ (base.withPassword password).text ++ ": " ++ rest =
        "error: fetching " ++ (base.withPassword secret).text ++ ": " ++ rest ↔
      password = secret := by
  rw [String.append_left_inj, String.append_left_inj, String.append_right_inj,
    Url.text_withPassword_inj hhost]

end

/-- Two targets that differ in the password alone, on a way to the proxy that answers both alike: the
command fails for both or for neither, with the same code.  Its errors are the same only if it fails
before it looks at the target, or if the passwords are the same; otherwise each shows its own
password, in front of words that are the same. -/
theorem run_errors_eq_iff
    (base : Url) (password secret : String) (arguments : Arguments) (target : String)
    (hfirst : Url.parse arguments.target = .ok (base.withPassword password))
    (hsecond : Url.parse target = .ok (base.withPassword secret))
    (hblind : backend.IsBlind (base.withPassword password) (base.withPassword secret))
    (hfails : (run backend start world arguments).exitCode ≠ 0) :
    let first := run backend start world arguments
    let second := run backend start world { arguments with target := target }
    second.exitCode = first.exitCode ∧ second.output = first.output ∧
    (first.errors = second.errors ↔
      (∃ report, loadConfiguration world arguments = .error report) ∨ password = secret) ∧
    ((∃ configuration, loadConfiguration world arguments = .ok configuration) →
      ∃ rest,
        first.errors =
          "error: fetching " ++ (base.withPassword password).text ++ ": " ++ rest ∧
        second.errors =
          "error: fetching " ++ (base.withPassword secret).text ++ ": " ++ rest) := by
  intro first second
  cases hload : loadConfiguration world arguments with
  | error report =>
      have hequal : second = first := run_of_report_withTarget hload
      rw [hequal]
      refine ⟨rfl, rfl, ⟨fun _ => .inl ⟨report, rfl⟩, fun _ => rfl⟩, ?_⟩
      rintro ⟨configuration, hnever⟩
      cases hnever
  | ok configuration =>
      obtain ⟨hcode, houtput, rest, hshown, hshownOpposed⟩ :=
        run_withPassword hload hfirst hsecond hblind hfails
      refine ⟨hcode, houtput, ?_, fun _ => ⟨rest, hshown, hshownOpposed⟩⟩
      have hhost : base.host.isSome = true := by
        have hparsed := Url.host_isSome_of_parse hfirst rfl
        exact hparsed
      have hiff : first.errors = second.errors ↔ password = secret := by
        rw [hshown, hshownOpposed]
        exact shown_withPassword_inj hhost rest
      constructor
      · intro hequal
        exact .inr (hiff.mp hequal)
      · rintro (⟨report, hnever⟩ | hpassword)
        · cases hnever
        · exact hiff.mpr hpassword

/-! ### A network that leads nowhere -/

def bareWorld : World := ⟨Rehearsal.noFiles, ⟨[]⟩⟩

def plainArguments (target : String) : Arguments where
  target := target
  configPath := none
  overrides :=
    { url := some "http://[::1]:3128/", username := none, domain := none, password := none,
      keytab := none, ticketCache := none, isStrict := false, timeoutSeconds := none,
      service := none }
  method := none
  headers := []
  data := none
  showsHeaders := false

def nowhere (target : String) : Outcome :=
  runPlain .unreachable bareWorld (plainArguments target)

theorem run_errors_nowhere :
    (nowhere "http://user:one@[::1]/").exitCode = 1 ∧
      (nowhere "http://user:two@[::1]/").exitCode = 1 ∧
      (nowhere "http://user:one@[::1]/").errors ≠ (nowhere "http://user:two@[::1]/").errors := by
  let base : Url :=
    { scheme := "http", username := "user", password := none,
      host := some (.ipv6 ⟨[0, 0, 0, 0, 0, 0, 0, 1], rfl⟩), port := none,
      path := .segments [""], query := none, fragment := none }
  have hfirst : Url.parse "http://user:one@[::1]/" = .ok (base.withPassword "one") := by rfl
  have hsecond : Url.parse "http://user:two@[::1]/" = .ok (base.withPassword "two") := by rfl
  have hblind :
      (plainBackend .unreachable).IsBlind (base.withPassword "one")
        (base.withPassword "two") := by
    intro proxy request authorization outside hurl
    obtain ⟨method, _, headers, body⟩ := request
    subst hurl
    rfl
  have hcode : (nowhere "http://user:one@[::1]/").exitCode = 1 := by rfl
  have hfails : (nowhere "http://user:one@[::1]/").exitCode ≠ 0 := by
    rw [hcode]
    decide
  obtain ⟨hsame, _, hiff, _⟩ :=
    run_errors_eq_iff (plainBackend .unreachable) (fun _ => ()) bareWorld base "one" "two"
      (plainArguments "http://user:one@[::1]/") "http://user:two@[::1]/" hfirst hsecond hblind
      hfails
  refine ⟨hcode, hsame.trans hcode, ?_⟩
  intro hequal
  rcases hiff.mp hequal with ⟨report, hreport⟩ | hpassword
  · cases hreport
  · exact absurd hpassword (by decide)

end Fetch
end ProxyHandshake
