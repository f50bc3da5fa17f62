import ProxyHandshake.Proofs.Exchange.Answer
import ProxyHandshake.Proofs.Exchange.Blind

/-!
# What results do not show

The client knows up to three secrets: the password of its credentials, and those in the URLs of the
target and of the proxy.  Two exchanges that differ in these alone, with a library and a way to the
proxy that answer both alike, end with the same response or with errors that read the same.

Each secret is kept out in its own way.  A proxy with a password is refused before anything is sent.
The credentials are looked at only for whether their password is blank, and then handed to the
library.  The target's URL goes into the requests as it is and into errors masked.
-/

namespace ProxyHandshake

variable {σ κ χ α β : Type}

/-! ## Pairs that differ in secrets -/

/-- The same URL, or one URL with two passwords, none of them empty. -/
inductive Url.SameButPassword : Url → Url → Prop
  | refl (url : Url) : SameButPassword url url
  | password (base : Url) {password secret : String} (hpassword : password ≠ "")
      (hsecret : secret ≠ "") :
      SameButPassword (base.withPassword password) (base.withPassword secret)

/-- The same credentials, or those of one user with two passwords, none of them blank. -/
inductive Credentials.SameButSecret : Credentials → Credentials → Prop
  | refl (credentials : Credentials) : SameButSecret credentials credentials
  | secret (username : String) (realm : Option String) {first second : Secret}
      (hfirst : first.isBlank = false) (hsecond : second.isBlank = false) :
      SameButSecret (.password username first realm) (.password username second realm)

structure Settings.SameButSecrets (settings other : Settings) : Prop where
  proxy : settings.proxy.SameButPassword other.proxy
  credentials : settings.credentials.SameButSecret other.credentials
  service : settings.service = other.service
  isStrict : settings.isStrict = other.isStrict
  timeout : settings.timeout = other.timeout

/-- Whether a library answers alike to two credentials. -/
def Library.IsBlind (library : Library σ κ χ) (credentials other : Credentials) : Prop :=
  ∀ outside, library.acquire credentials outside = library.acquire other outside

theorem Url.SameButPassword.redacted_eq
    {url other : Url} (hsame : url.SameButPassword other) : url.redacted = other.redacted := by
  cases hsame with
  | refl => rfl
  | password => rfl

theorem Credentials.SameButSecret.validate_eq
    {credentials other : Credentials} (hsame : credentials.SameButSecret other)
    (files : FileSystem) : credentials.validate files = other.validate files := by
  cases hsame with
  | refl => rfl
  | secret username realm hfirst hsecond =>
      simp only [Credentials.validate, hfirst, hsecond]

/-- A proxy with a password is refused, with words in which the password does not appear. -/
theorem validateProxy_withPassword (base : Url) (password secret : String) :
    ∃ cause opposed,
      validateProxy (base.withPassword password) = .error cause ∧
      validateProxy (base.withPassword secret) = .error opposed ∧
      cause.message = opposed.message := by
  have hrefused (password : String) :
      validateProxy (base.withPassword password) =
        if base.scheme ≠ "http" then .error (.proxyNotHttp (base.withPassword password))
        else .error .proxyWithUser := by
    have huser : (base.withPassword password).hasUser = true := Bool.or_true _
    simp only [validateProxy, huser, if_true]
    rfl
  rw [hrefused, hrefused]
  split
  · exact ⟨_, _, rfl, rfl, rfl⟩
  · exact ⟨_, _, rfl, rfl, rfl⟩

/-! ## Programs that acquire with other credentials -/

namespace Exchange

/-- Two programs that ask for the same, but that the second acquires a handle for `other` where the
first acquires one for `credentials`. -/
inductive Recredentialed (credentials other : Credentials) :
    Exchange κ χ α → Exchange κ χ α → Prop
  | done (a : α) : Recredentialed credentials other (.done a) (.done a)
  | acquire {next opposite : Except NegotiateError (Acquired κ) → Exchange κ χ α}
      (hnext : ∀ answer, Recredentialed credentials other (next answer) (opposite answer)) :
      Recredentialed credentials other (.ask (.acquire credentials) next)
        (.ask (.acquire other) opposite)
  | ask (demand : Demand κ χ) {next opposite : demand.Answer → Exchange κ χ α}
      (hnext : ∀ answer, Recredentialed credentials other (next answer) (opposite answer)) :
      Recredentialed credentials other (.ask demand next) (.ask demand opposite)

namespace Recredentialed

variable {credentials other : Credentials}

theorem refl (program : Exchange κ χ α) : Recredentialed credentials other program program := by
  induction program with
  | done a => exact .done a
  | ask demand _ ih => exact .ask demand ih

theorem bind
    {program opposite : Exchange κ χ α} {next oppositeNext : α → Exchange κ χ β}
    (hprogram : Recredentialed credentials other program opposite)
    (hnext : ∀ a, Recredentialed credentials other (next a) (oppositeNext a)) :
    Recredentialed credentials other (program >>= next) (opposite >>= oppositeNext) := by
  change Recredentialed credentials other (program.bind next) (opposite.bind oppositeNext)
  induction hprogram with
  | done a => exact hnext a
  | acquire _ ih => exact .acquire ih
  | ask demand _ ih => exact .ask demand ih

theorem demand_bind
    (demand : Demand κ χ) {next opposite : demand.Answer → Exchange κ χ α}
    (hnext : ∀ answer, Recredentialed credentials other (next answer) (opposite answer)) :
    Recredentialed credentials other (Exchange.demand demand >>= next)
      (Exchange.demand demand >>= opposite) :=
  .ask demand hnext

theorem holding
    {body opposite : Exchange κ χ α} (lock : Lock)
    (hbody : Recredentialed credentials other body opposite) :
    Recredentialed credentials other (.holding lock body) (.holding lock opposite) := by
  apply Recredentialed.demand_bind (.take lock)
  intro _
  apply hbody.bind
  intro a
  exact .refl _

theorem inTurn
    {body opposite : Exchange κ χ α} (isReentrant : Bool) (proxy : Url)
    (hbody : Recredentialed credentials other body opposite) :
    Recredentialed credentials other (.inTurn isReentrant proxy body)
      (.inTurn isReentrant proxy opposite) := by
  cases isReentrant with
  | true => exact hbody
  | false => exact hbody.holding _

end Recredentialed

theorem recredentialed_handleFor (key : String) (credentials other : Credentials) :
    Recredentialed credentials other
      (handleFor key credentials : Exchange κ χ (Except NegotiateError κ))
      (handleFor key other) := by
  apply Recredentialed.holding
  apply Recredentialed.demand_bind (.lookup key)
  rintro ⟨since, found⟩
  cases found with
  | some handle => exact .refl _
  | none =>
      apply Recredentialed.acquire
      intro answer
      cases answer with
      | error cause => exact .refl _
      | ok acquired => exact .refl _

section

variable {settings other : Settings}

theorem recredentialed_negotiate
    (hsettings : settings.SameButSecrets other) (proxy : Url) (request : Request)
    (progress : Progress) (target : ServicePrincipal) :
    Recredentialed settings.credentials other.credentials
      (negotiate settings proxy request progress target :
        Exchange κ χ (Except Failure Response))
      (negotiate other proxy request progress target) := by
  unfold negotiate
  rw [hsettings.isStrict]
  apply (recredentialed_handleFor proxy.proxyKey settings.credentials other.credentials).bind
  intro handle
  exact .refl _

theorem recredentialed_challenged
    (hsettings : settings.SameButSecrets other) (files : FileSystem) (isReentrant : Bool)
    (proxy : Url) (request : Request) (progress : Progress) :
    Recredentialed settings.credentials other.credentials
      (challenged settings files isReentrant proxy request progress :
        Exchange κ χ (Except Failure Response))
      (challenged other files isReentrant proxy request progress) := by
  unfold challenged
  rw [hsettings.credentials.validate_eq files, hsettings.service]
  apply Recredentialed.demand_bind (.count .challenge)
  intro _
  cases other.credentials.validate files with
  | error cause => exact .refl _
  | ok _ =>
      simp only
      cases ServicePrincipal.ofProxy proxy other.service with
      | error cause => exact .refl _
      | ok target =>
          apply Recredentialed.inTurn
          exact recredentialed_negotiate hsettings proxy request progress target

theorem recredentialed_converse
    (hsettings : settings.SameButSecrets other) (files : FileSystem) (isReentrant : Bool)
    (proxy : Url) (request : Request) :
    Recredentialed settings.credentials other.credentials
      (converse settings files isReentrant proxy request :
        Exchange κ χ (Except Failure Response))
      (converse other files isReentrant proxy request) := by
  unfold converse
  apply Recredentialed.demand_bind (.send proxy request none)
  rintro (cause | response)
  · exact .refl _
  · by_cases hasks : Progress.asksToNegotiate response = true
    · simp only [hasks, if_true]
      exact recredentialed_challenged hsettings files isReentrant proxy request _
    · simp only [hasks, Bool.false_eq_true, if_false]
      exact .refl _

/-- Exchanges with two settings go the same way but for the credentials. -/
theorem recredentialed_handshake
    (hsettings : settings.SameButSecrets other) (files : FileSystem) (isReentrant : Bool)
    (proxy : Url) (request : Request) :
    Recredentialed settings.credentials other.credentials
      (handshake settings files isReentrant proxy request :
        Exchange κ χ (Except Failure Response))
      (handshake other files isReentrant proxy request) := by
  unfold handshake
  cases validateProxy proxy with
  | error cause => exact .refl _
  | ok _ =>
      cases request.validate with
      | error cause => exact .refl _
      | ok _ => exact recredentialed_converse hsettings files isReentrant proxy request.stripped

end
end Exchange

/-! ## Sessions in which they run -/

namespace Session

variable {backend : Backend σ κ χ} {credentials opposed : Credentials}

theorem acquire_of_blind
    (hblind : backend.library.IsBlind credentials opposed) (session : Session σ κ χ) :
    session.acquire backend credentials = session.acquire backend opposed := by
  unfold Session.acquire
  rw [hblind session.outside]

theorem run_acquire
    (credentials : Credentials) (next : Except NegotiateError (Acquired κ) → Exchange κ χ α)
    (session : Session σ κ χ) :
    session.run backend (.ask (.acquire credentials) next) =
      (session.acquire backend credentials).2.run backend
        (next (session.acquire backend credentials).1) := rfl

/-- An acquisition takes no time, and is cut off only if there was none left. -/
theorem runWithin_acquire
    (limit elapsed : Nat) (held : Option χ) (credentials : Credentials)
    (next : Except NegotiateError (Acquired κ) → Exchange κ χ α) (session : Session σ κ χ) :
    session.runWithin backend limit (.ask (.acquire credentials) next) elapsed held =
      if limit ≤ elapsed then
        (none, (session.acquire backend credentials).2.closeHeld backend held)
      else
        (session.acquire backend credentials).2.runWithin backend limit
          (next (session.acquire backend credentials).1) elapsed held := by
  have hcut :
      isCut limit elapsed 0 (.acquire credentials : Demand κ χ) = decide (limit ≤ elapsed) := by
    simp only [isCut, Demand.isLibraryCall, Nat.add_zero, Bool.true_and, ← Bool.decide_or]
    exact decide_eq_decide.mpr ⟨fun h => h.elim Nat.le_of_lt id, .inr⟩
  change (if isCut limit elapsed 0 (.acquire credentials : Demand κ χ) then _ else _) = _
  simp only [hcut, decide_eq_true_eq]
  rfl

/-- Acquiring with credentials that the library answers alike leads to the same. -/
theorem run_recredentialed
    (hblind : backend.library.IsBlind credentials opposed)
    {program opposite : Exchange κ χ α}
    (hprograms : program.Recredentialed credentials opposed opposite)
    (session : Session σ κ χ) :
    session.run backend program = session.run backend opposite := by
  induction hprograms generalizing session with
  | done a => rfl
  | acquire _ ih =>
      rw [run_acquire, run_acquire, acquire_of_blind hblind, ih]
  | ask demand _ ih =>
      rw [run_ask, run_ask]
      exact ih _ _

theorem runWithin_recredentialed
    (hblind : backend.library.IsBlind credentials opposed)
    {program opposite : Exchange κ χ α}
    (hprograms : program.Recredentialed credentials opposed opposite)
    (limit elapsed : Nat) (held : Option χ) (session : Session σ κ χ) :
    session.runWithin backend limit program elapsed held =
      session.runWithin backend limit opposite elapsed held := by
  induction hprograms generalizing elapsed held session with
  | done a => rfl
  | acquire _ ih =>
      rw [runWithin_acquire, runWithin_acquire, acquire_of_blind hblind, ih]
  | ask demand _ ih =>
      rw [runWithin_ask, runWithin_ask]
      split
      · rfl
      · exact ih _ _ _ _

/-- The password of the credentials makes no difference to an exchange. -/
theorem authenticate_recredentialed
    {settings other : Settings} (hsettings : settings.SameButSecrets other)
    (hblind : backend.library.IsBlind settings.credentials other.credentials)
    (files : FileSystem) (session : Session σ κ χ) (proxy : Url) (request : Request) :
    session.authenticate backend settings files proxy request =
      session.authenticate backend other files proxy request := by
  have hprograms :=
    Exchange.recredentialed_handshake (κ := κ) (χ := χ) hsettings files
      backend.library.isReentrant proxy request
  unfold Session.authenticate
  rw [hsettings.timeout]
  cases other.timeout with
  | none => simp only [run_recredentialed hblind hprograms session]
  | some limit =>
      simp only [runWithin_recredentialed hblind hprograms limit.nanoseconds 0 none session]

/-- A password in the target's URL shows in no result. -/
theorem authenticate_retargeted
    {request : Request} {target : Url} (htarget : request.url.SameButPassword target)
    (hblind : backend.IsBlind request.url target) (settings : Settings) (files : FileSystem)
    (session : Session σ κ χ) (proxy : Url) :
    ReadsSame
      (session.authenticate backend settings files proxy request).1
      (session.authenticate backend settings files proxy (request.retargeted target)).1 := by
  obtain ⟨method, url, headers, body⟩ := request
  cases htarget with
  | refl => exact .same _
  | password base _ _ =>
      exact authenticate_withPassword settings files session proxy ⟨method, base, headers, body⟩
        base _ _ hblind

theorem authenticate_of_invalidProxy
    {proxy : Url} {cause : RequestError} (hinvalid : validateProxy proxy = .error cause)
    (backend : Backend σ κ χ) (settings : Settings) (files : FileSystem)
    (session : Session σ κ χ) (request : Request) :
    (session.authenticate backend settings files proxy request).1 =
      .error (.invalidRequest cause) := by
  have hprogram :
      (.handshake settings files backend.library.isReentrant proxy request :
        Exchange κ χ (Except Failure Response)) = .done (.error (.invalidRequest cause)) := by
    simp only [Exchange.handshake, hinvalid]
    rfl
  unfold Session.authenticate
  rw [hprogram]
  cases settings.timeout with
  | none => rfl
  | some limit => rfl

/-! ## Results that show the same -/

/-- The same response, or errors of one kind with one text. -/
inductive ShowsSame : Except Failure Response → Except Failure Response → Prop
  | response (response : Response) : ShowsSame (.ok response) (.ok response)
  | failure {failure other : Failure} (hkind : failure.kind = other.kind)
      (hmessage : failure.message = other.message) : ShowsSame (.error failure) (.error other)

theorem ReadsSame.showsSame
    {result other : Except Failure Response} (hreads : ReadsSame result other) :
    ShowsSame result other := by
  cases hreads with
  | same =>
      cases result with
      | ok response => exact .response response
      | error failure => exact .failure rfl rfl
  | invalid hmessage => exact .failure rfl (congrArg ("invalid request: " ++ ·) hmessage)

/-- Two exchanges that differ only in the password of the credentials and in those of the URLs of
the target and of the proxy, and that the library and the way to the proxy answer alike, end with
the same response or with errors that read the same.  What messages show of the URLs is the same
as well. -/
theorem authenticate_hides_secrets
    (backend : Backend σ κ χ) {settings other : Settings} (files : FileSystem)
    (session : Session σ κ χ) {proxy otherProxy target : Url} (request : Request)
    (hsettings : settings.SameButSecrets other)
    (hproxy : proxy.SameButPassword otherProxy)
    (htarget : request.url.SameButPassword target)
    (hlibrary : backend.library.IsBlind settings.credentials other.credentials)
    (hsend : backend.IsBlind request.url target) :
    ShowsSame
        (session.authenticate backend settings files proxy request).1
        (session.authenticate backend other files otherProxy (request.retargeted target)).1 ∧
      proxy.redacted = otherProxy.redacted ∧
      request.url.redacted = target.redacted := by
  refine ⟨?_, hproxy.redacted_eq, htarget.redacted_eq⟩
  cases hproxy with
  | refl =>
      rw [authenticate_recredentialed hsettings hlibrary files session proxy request]
      exact (authenticate_retargeted htarget hsend other files session proxy).showsSame
  | @password base password secret _ _ =>
      obtain ⟨cause, opposed, hcause, hopposed, hmessage⟩ :=
        validateProxy_withPassword base password secret
      rw [authenticate_of_invalidProxy hcause, authenticate_of_invalidProxy hopposed]
      exact .failure rfl (congrArg ("invalid request: " ++ ·) hmessage)

end Session

/-! ### A proxy that rejects the client -/

namespace Rehearsal

/-- The proxy asks again, whatever it is sent. -/
def rejecting : Backend Stage Handle Context :=
  backend ⟨false, [], []⟩ (.answers [(.ok asking, ⟨0⟩), (.ok asking, ⟨0⟩)])

def withSecret (secret : String) : Settings :=
  { lenient with credentials := .password "user" ⟨secret⟩ none }

def rejectedRun (secret password : String) : Except Failure Response :=
  ((Session.start .start).authenticate rejecting (withSecret secret) noFiles proxyUrl
    (.of .get (targetUrl.withPassword password))).1

theorem authenticate_hides_secrets_rejectedRun :
    rejectedRun "one" "two" = .error (.authenticationFailed "http://proxy:3128/") ∧
      ∃ failure,
        rejectedRun "three" "four" = .error failure ∧
        failure.kind = .authenticationFailed ∧
        failure.message =
          "proxy http://proxy:3128/ rejected the Negotiate credentials" := by
  have hfirst :
      rejectedRun "one" "two" = .error (.authenticationFailed "http://proxy:3128/") := by
    rfl
  have hsettings : (withSecret "one").SameButSecrets (withSecret "three") :=
    ⟨.refl _, .secret "user" none (by decide) (by decide), rfl, rfl, rfl⟩
  have htarget :
      (targetUrl.withPassword "two").SameButPassword (targetUrl.withPassword "four") :=
    .password targetUrl (by decide) (by decide)
  have hsend :
      rejecting.IsBlind (targetUrl.withPassword "two") (targetUrl.withPassword "four") := by
    intro _ _ _ _ _
    rfl
  have hshows :
      Session.ShowsSame (rejectedRun "one" "two") (rejectedRun "three" "four") :=
    (Session.authenticate_hides_secrets rejecting noFiles (.start .start)
      (.of .get (targetUrl.withPassword "two")) hsettings (.refl proxyUrl) htarget
      (fun _ => rfl) hsend).1
  rw [hfirst] at hshows
  generalize rejectedRun "three" "four" = second at hshows
  cases hshows with
  | failure hkind hmessage => exact ⟨hfirst, _, rfl, hkind.symm, hmessage.symm⟩

end Rehearsal
end ProxyHandshake
