import ProxyHandshake.Proofs.Exchange.Stages

/-!
# What does not depend on a password

A request for a URL with a password and the same request with another password lead to exchanges
that ask for the same but for the request that they send.  If the way to the proxy answers both
requests alike, the exchanges end alike: with the same response, or with errors that read the same.
-/

namespace ProxyHandshake

variable {σ κ χ α β : Type}

def Url.withPassword (url : Url) (password : String) : Url :=
  { url with password := some password }

/-- The same request for another URL. -/
def Request.retargeted (request : Request) (url : Url) : Request :=
  { request with url := url }

/-- Whether requests for two URLs are answered alike. -/
def Backend.IsBlind (backend : Backend σ κ χ) (url other : Url) : Prop :=
  ∀ proxy request authorization outside, request.url = url →
    backend.send proxy (request.retargeted other) authorization outside =
      backend.send proxy request authorization outside

namespace Exchange

/-- Two programs that ask for the same, but that the second sends its requests for `other` where the
first sends them for `url`. -/
inductive Retargeted (url other : Url) : Exchange κ χ α → Exchange κ χ α → Prop
  | done (a : α) : Retargeted url other (.done a) (.done a)
  | send {proxy : Url} {request : Request} {authorization : Option HeaderValue}
      {next opposite : Except TransportError Response → Exchange κ χ α}
      (hurl : request.url = url)
      (hnext : ∀ answer, Retargeted url other (next answer) (opposite answer)) :
      Retargeted url other (.ask (.send proxy request authorization) next)
        (.ask (.send proxy (request.retargeted other) authorization) opposite)
  | ask (demand : Demand κ χ) {next opposite : demand.Answer → Exchange κ χ α}
      (hnext : ∀ answer, Retargeted url other (next answer) (opposite answer)) :
      Retargeted url other (.ask demand next) (.ask demand opposite)

namespace Retargeted

variable {url other : Url}

theorem refl (program : Exchange κ χ α) : Retargeted url other program program := by
  induction program with
  | done a => exact .done a
  | ask demand _ ih => exact .ask demand ih

theorem bind
    {program opposite : Exchange κ χ α} {next oppositeNext : α → Exchange κ χ β}
    (hprogram : Retargeted url other program opposite)
    (hnext : ∀ a, Retargeted url other (next a) (oppositeNext a)) :
    Retargeted url other (program >>= next) (opposite >>= oppositeNext) := by
  change Retargeted url other (program.bind next) (opposite.bind oppositeNext)
  induction hprogram with
  | done a => exact hnext a
  | send hurl _ ih => exact .send hurl ih
  | ask demand _ ih => exact .ask demand ih

theorem send_bind
    {proxy : Url} {request : Request} {authorization : Option HeaderValue}
    {next opposite : Except TransportError Response → Exchange κ χ α}
    (hurl : request.url = url)
    (hnext : ∀ answer, Retargeted url other (next answer) (opposite answer)) :
    Retargeted url other (Exchange.demand (.send proxy request authorization) >>= next)
      (Exchange.demand (.send proxy (request.retargeted other) authorization) >>= opposite) :=
  .send hurl hnext

theorem inTurn
    {body opposite : Exchange κ χ α} (isReentrant : Bool) (proxy : Url)
    (hbody : Retargeted url other body opposite) :
    Retargeted url other (.inTurn isReentrant proxy body)
      (.inTurn isReentrant proxy opposite) := by
  cases isReentrant with
  | true => exact hbody
  | false =>
      apply Retargeted.ask (.take (.turn proxy.proxyKey))
      intro _
      apply hbody.bind
      intro a
      exact .refl _

end Retargeted

/-! ## The parts of an exchange -/

section

variable {url other : Url} {request : Request}

theorem retargeted_resend
    (hurl : request.url = url) (isStrict : Bool) (proxy : Url) (progress : Progress)
    (context : χ) (first : Step) :
    Retargeted url other
      (resend isStrict proxy request progress context first :
        Exchange κ χ (Except Failure Response))
      (resend isStrict proxy (request.retargeted other) progress context first) := by
  unfold resend
  cases first.token? with
  | none => exact .refl _
  | some token =>
      simp only
      cases token.header with
      | error cause => exact .refl _
      | ok header =>
          apply Retargeted.ask (.count .retry)
          intro _
          apply Retargeted.send_bind hurl
          intro answer
          cases answer with
          | error cause => exact .refl _
          | ok response => exact .refl _

theorem retargeted_negotiate
    (hurl : request.url = url) (settings : Settings) (proxy : Url) (progress : Progress)
    (target : ServicePrincipal) :
    Retargeted url other
      (negotiate settings proxy request progress target :
        Exchange κ χ (Except Failure Response))
      (negotiate settings proxy (request.retargeted other) progress target) := by
  unfold negotiate
  apply (Retargeted.refl _).bind
  intro handle
  cases handle with
  | error e => exact .refl _
  | ok handle =>
      apply Retargeted.ask (.initiate handle target)
      intro answer
      rcases answer with e | ⟨context, first⟩
      · cases e <;> exact .refl _
      · have hresend :
            Retargeted url other
              (resend settings.isStrict proxy request progress context first :
                Exchange κ χ (Except Failure Response))
              (resend settings.isStrict proxy (request.retargeted other) progress context
                first) :=
          retargeted_resend hurl settings.isStrict proxy progress context first
        apply hresend.bind
        intro result
        exact .refl _

/-- Exchanges for two URLs that have passed validation. -/
theorem retargeted_converse
    (hurl : request.url = url) (settings : Settings) (files : FileSystem) (isReentrant : Bool)
    (proxy : Url) :
    Retargeted url other
      (converse settings files isReentrant proxy request :
        Exchange κ χ (Except Failure Response))
      (converse settings files isReentrant proxy (request.retargeted other)) := by
  unfold converse
  apply Retargeted.send_bind hurl
  intro answer
  cases answer with
  | error cause => exact .refl _
  | ok response =>
      by_cases hasks : Progress.asksToNegotiate response = true
      · simp only [hasks, if_true]
        unfold challenged
        apply Retargeted.ask (.count .challenge)
        intro _
        cases settings.credentials.validate files with
        | error cause => exact .refl _
        | ok _ =>
            simp only
            cases ServicePrincipal.ofProxy proxy settings.service with
            | error cause => exact .refl _
            | ok target =>
                apply Retargeted.inTurn
                exact retargeted_negotiate hurl settings proxy _ target
      · simp only [hasks]
        exact .refl _

end
end Exchange

/-! ## Sessions in which they run -/

namespace Session

/-- Two sessions that differ at most in the calls that were made. -/
structure Matches (session other : Session σ κ χ) : Prop where
  outside : session.outside = other.outside
  cache : session.cache = other.cache
  counted : session.counted = other.counted

theorem Matches.refl (session : Session σ κ χ) : session.Matches session :=
  ⟨rfl, rfl, rfl⟩

variable {backend : Backend σ κ χ} {session other : Session σ κ χ}

theorem Matches.send
    (hmatches : session.Matches other) {url opposite : Url}
    (hblind : backend.IsBlind url opposite) {request : Request} (hurl : request.url = url)
    (proxy : Url) (authorization : Option HeaderValue) :
    (session.send backend proxy request authorization).1 =
        (other.send backend proxy (request.retargeted opposite) authorization).1 ∧
      (session.send backend proxy request authorization).2.Matches
        (other.send backend proxy (request.retargeted opposite) authorization).2 := by
  have hsame := hblind proxy request authorization other.outside hurl
  unfold Session.send
  rw [hmatches.outside, hsame]
  exact ⟨rfl, rfl, hmatches.cache, hmatches.counted⟩

/-- The calls so far have no bearing on how a demand is met. -/
theorem Matches.perform
    (hmatches : session.Matches other) (backend : Backend σ κ χ) (demand : Demand κ χ) :
    (session.perform backend demand).1 = (other.perform backend demand).1 ∧
      (session.perform backend demand).2.Matches (other.perform backend demand).2 := by
  obtain ⟨outside, cache, counted, calls⟩ := session
  obtain ⟨_, _, _, otherCalls⟩ := other
  obtain ⟨rfl, rfl, rfl⟩ := hmatches
  cases demand with
  | initiate handle target =>
      obtain ⟨answer, later, calls, _, hinitiate⟩ :=
        initiate_opening backend handle target outside
      simp only [Session.perform]
      rw [hinitiate _ rfl, hinitiate _ rfl]
      exact ⟨rfl, rfl, rfl, rfl⟩
  | send | acquire | step | close | take | release | lookup | store | forget | count =>
      exact ⟨rfl, rfl, rfl, rfl⟩

variable {url opposite : Url}

theorem Matches.run
    (hmatches : session.Matches other) (hblind : backend.IsBlind url opposite)
    {program opposed : Exchange κ χ α} (hprograms : program.Retargeted url opposite opposed) :
    (session.run backend program).1 = (other.run backend opposed).1 ∧
      (session.run backend program).2.Matches (other.run backend opposed).2 := by
  induction hprograms generalizing session other with
  | done a => exact ⟨rfl, hmatches⟩
  | @send proxy request authorization next opposedNext hurl _ ih =>
      obtain ⟨hanswers, hafter⟩ := hmatches.send hblind hurl proxy authorization
      have hrest := ih (session.send backend proxy request authorization).1.1 hafter
      have hopposed :
          opposedNext (session.send backend proxy request authorization).1.1 =
            opposedNext
              (other.send backend proxy (request.retargeted opposite) authorization).1.1 := by
        rw [hanswers]
      rw [hopposed] at hrest
      exact hrest
  | ask demand _ ih =>
      obtain ⟨hanswers, hafter⟩ := hmatches.perform backend demand
      rw [run_ask, run_ask, ← hanswers]
      exact ih _ hafter

theorem Matches.closeHeld (hmatches : session.Matches other) (held : Option χ) :
    (session.closeHeld backend held).Matches (other.closeHeld backend held) := by
  cases held with
  | none => exact hmatches
  | some context => exact (hmatches.perform backend (.close context)).2

/-- A request is no call of the library: only its answer may come too late. -/
theorem runWithin_send
    (limit elapsed : Nat) (held : Option χ) (proxy : Url) (request : Request)
    (authorization : Option HeaderValue)
    (next : Except TransportError Response → Exchange κ χ α) (session : Session σ κ χ) :
    session.runWithin backend limit (.ask (.send proxy request authorization) next) elapsed
        held =
      if limit <
          elapsed + (session.send backend proxy request authorization).1.2.nanoseconds then
        (none, (session.send backend proxy request authorization).2.closeHeld backend held)
      else
        (session.send backend proxy request authorization).2.runWithin backend limit
          (next (session.send backend proxy request authorization).1.1)
          (elapsed + (session.send backend proxy request authorization).1.2.nanoseconds)
          held := by
  simp only [runWithin, isCut, Demand.isLibraryCall, Bool.false_and, Bool.or_false,
    decide_eq_true_eq]
  rfl

theorem Matches.runWithin
    (hmatches : session.Matches other) (hblind : backend.IsBlind url opposite)
    {program opposed : Exchange κ χ α} (hprograms : program.Retargeted url opposite opposed)
    (limit elapsed : Nat) (held : Option χ) :
    (session.runWithin backend limit program elapsed held).1 =
        (other.runWithin backend limit opposed elapsed held).1 ∧
      (session.runWithin backend limit program elapsed held).2.Matches
        (other.runWithin backend limit opposed elapsed held).2 := by
  induction hprograms generalizing session other elapsed held with
  | done a => exact ⟨rfl, hmatches⟩
  | @send proxy request authorization next opposedNext hurl _ ih =>
      obtain ⟨hanswers, hafter⟩ := hmatches.send hblind hurl proxy authorization
      rw [runWithin_send, runWithin_send, hanswers]
      split
      · exact ⟨rfl, hafter.closeHeld held⟩
      · exact ih _ hafter _ _
  | ask demand _ ih =>
      obtain ⟨hanswers, hafter⟩ := hmatches.perform backend demand
      rw [runWithin_ask, runWithin_ask, ← hanswers]
      split
      · exact ⟨rfl, hafter.closeHeld _⟩
      · exact ih _ hafter _ _

/-! ## Results that read the same -/

/-- Results of exchanges for two URLs: the same, or errors in the request that read the same. -/
inductive ReadsSame : Except Failure Response → Except Failure Response → Prop
  | same (result : Except Failure Response) : ReadsSame result result
  | invalid {cause other : RequestError} (hmessage : cause.message = other.message) :
      ReadsSame (.error (.invalidRequest cause)) (.error (.invalidRequest other))

theorem authority_withPassword (request : Request) (url : Url) (password : String) :
    (request.retargeted (url.withPassword password)).authority =
      match url.hostText? with
      | none => .error (.noHost (url.withPassword password))
      | some host =>
        match url.effectivePort? with
        | none => .error (.noPort (url.withPassword password))
        | some port => .ok (host ++ ":" ++ toString port) := rfl

/-- A password decides neither whether a request is valid nor how the error reads. -/
theorem validate_withPassword (request : Request) (url : Url) (password other : String) :
    (request.retargeted (url.withPassword password)).validate =
        (request.retargeted (url.withPassword other)).validate ∨
      ∃ cause opposed,
        (request.retargeted (url.withPassword password)).validate = .error cause ∧
        (request.retargeted (url.withPassword other)).validate = .error opposed ∧
        cause.message = opposed.message := by
  have hvalidate (password : String) :
      (request.retargeted (url.withPassword password)).validate =
        if url.scheme ≠ "http" ∧ url.scheme ≠ "https" then
          .error (.unsupportedScheme url.scheme)
        else
          (request.retargeted (url.withPassword password)).authority.map fun _ => () := rfl
  rw [hvalidate, hvalidate, authority_withPassword, authority_withPassword]
  split
  · exact .inl rfl
  · cases url.hostText? with
    | none => exact .inr ⟨_, _, rfl, rfl, rfl⟩
    | some host =>
        cases url.effectivePort? with
        | none => exact .inr ⟨_, _, rfl, rfl, rfl⟩
        | some port => exact .inl rfl

/-- With two passwords an exchange goes the same way, or ends at once with errors that read the
same. -/
theorem handshake_withPassword
    (settings : Settings) (files : FileSystem) (isReentrant : Bool) (proxy : Url)
    (request : Request) (base : Url) (password secret : String) :
    Exchange.Retargeted (base.withPassword password) (base.withPassword secret)
        (.handshake settings files isReentrant proxy
          (request.retargeted (base.withPassword password)) :
          Exchange κ χ (Except Failure Response))
        (.handshake settings files isReentrant proxy
          (request.retargeted (base.withPassword secret))) ∨
      ∃ cause opposed,
        (.handshake settings files isReentrant proxy
          (request.retargeted (base.withPassword password)) :
          Exchange κ χ (Except Failure Response)) =
            .done (.error (.invalidRequest cause)) ∧
        (.handshake settings files isReentrant proxy
          (request.retargeted (base.withPassword secret)) :
          Exchange κ χ (Except Failure Response)) =
            .done (.error (.invalidRequest opposed)) ∧
        cause.message = opposed.message := by
  unfold Exchange.handshake
  cases validateProxy proxy with
  | error cause => exact .inl (.refl _)
  | ok _ =>
      rcases validate_withPassword request base password secret with
        hvalid | ⟨cause, opposed, hfirst, hsecond, hmessage⟩
      · left
        simp only
        rw [← hvalid]
        cases (request.retargeted (base.withPassword password)).validate with
        | error cause => exact .refl _
        | ok _ =>
            have hurl :
                (request.retargeted (base.withPassword password)).stripped.url =
                  base.withPassword password := rfl
            exact Exchange.retargeted_converse hurl settings files isReentrant proxy
      · right
        simp only [hfirst, hsecond]
        exact ⟨cause, opposed, rfl, rfl, hmessage⟩

/-- With two passwords that are answered alike, an exchange ends alike. -/
theorem authenticate_withPassword
    (settings : Settings) (files : FileSystem) (session : Session σ κ χ) (proxy : Url)
    (request : Request) (base : Url) (password secret : String)
    (hblind : backend.IsBlind (base.withPassword password) (base.withPassword secret)) :
    ReadsSame
      (session.authenticate backend settings files proxy
        (request.retargeted (base.withPassword password))).1
      (session.authenticate backend settings files proxy
        (request.retargeted (base.withPassword secret))).1 := by
  unfold Session.authenticate
  rcases handshake_withPassword (κ := κ) (χ := χ) settings files backend.library.isReentrant
    proxy request base password secret with hprograms | ⟨cause, opposed, hfirst, hsecond, hmessage⟩
  · cases settings.timeout with
    | none =>
        obtain ⟨hresults, _⟩ := (Matches.refl session).run hblind hprograms
        simp only [hresults]
        exact .same _
    | some limit =>
        obtain ⟨hresults, _⟩ :=
          (Matches.refl session).runWithin hblind hprograms limit.nanoseconds 0 none
        simp only [hresults]
        exact .same _
  · rw [hfirst, hsecond]
    cases settings.timeout with
    | none => exact .invalid hmessage
    | some limit => exact .invalid hmessage

end Session
end ProxyHandshake
