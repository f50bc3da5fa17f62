import ProxyHandshake.Proofs.Exchange.Blind
import ProxyHandshake.Proofs.Exchange.Deadline
import ProxyHandshake.Proofs.Exchange.Sends

/-!
# What is counted

Three things are counted: the first responses that ask to negotiate, the requests that are sent again,
and the failures of each kind.  The counters agree with what was sent and with what came of it, at
whatever point a deadline cuts an exchange off.

The reason is the order of demands.  A program that has met a challenge sends only behind the count of
a retry, with nothing between the two that takes time.
-/

namespace ProxyHandshake

variable {σ κ χ α β : Type}

/-! ## Programs that count what they send -/

/-- Whether a demand neither sends nor counts. -/
def Demand.isQuiet : Demand κ χ → Bool
  | .send .. | .count .. => false
  | _ => true

namespace Exchange

/-- A program that sends at most `left` requests, all with an authorization, and counts each before it
is sent. -/
inductive Resends : Nat → Exchange κ χ α → Prop
  | done (left : Nat) (a : α) : Resends left (.done a)
  | quiet {left : Nat} (demand : Demand κ χ) {next : demand.Answer → Exchange κ χ α}
      (hquiet : demand.isQuiet = true) (hnext : ∀ answer, Resends left (next answer)) :
      Resends left (.ask demand next)
  | again {left : Nat} (proxy : Url) (request : Request) (authorization : HeaderValue)
      {next : (Demand.send proxy request (some authorization) : Demand κ χ).Answer →
        Exchange κ χ α}
      (hnext : ∀ answer, Resends left (next answer)) :
      Resends (left + 1)
        (.ask (.count .retry) fun _ => .ask (.send proxy request (some authorization)) next)

theorem Resends.mono
    {program : Exchange κ χ α} {left more : Nat} (hprogram : Resends left program)
    (hmore : left ≤ more) :
    Resends more program := by
  induction hprogram generalizing more with
  | done left a => exact .done more a
  | quiet demand hquiet _ ih => exact .quiet demand hquiet fun answer => ih answer hmore
  | again proxy request authorization _ ih =>
      obtain ⟨fewer, rfl⟩ : ∃ fewer, more = fewer + 1 := ⟨more - 1, by omega⟩
      exact .again proxy request authorization fun answer => ih answer (by omega)

theorem Resends.bind
    {program : Exchange κ χ α} {next : α → Exchange κ χ β} {first second left : Nat}
    (hprogram : Resends first program) (hnext : ∀ a, Resends second (next a))
    (hleft : first + second ≤ left) :
    Resends left (program >>= next) := by
  suffices hbind : Resends (first + second) (program.bind next) from hbind.mono hleft
  clear hleft
  induction hprogram with
  | done left a => exact (hnext a).mono (Nat.le_add_left second left)
  | quiet demand hquiet _ ih => exact .quiet demand hquiet ih
  | @again left proxy request authorization _ _ ih =>
      rw [Nat.add_right_comm]
      exact .again proxy request authorization ih

theorem Resends.holding
    {lock : Lock} {body : Exchange κ χ α} {left : Nat} (hbody : Resends left body) :
    Resends left (.holding lock body) := by
  apply Resends.quiet (.take lock) rfl
  intro _
  refine hbody.bind (fun a => ?_) (Nat.le_refl (left + 0))
  exact .quiet (.release lock) rfl fun _ => .done 0 a

theorem Resends.inTurn
    {isReentrant : Bool} {proxy : Url} {body : Exchange κ χ α} {left : Nat}
    (hbody : Resends left body) :
    Resends left (.inTurn isReentrant proxy body) := by
  cases isReentrant with
  | true => exact hbody
  | false => exact hbody.holding

theorem resends_handleFor (proxyKey : String) (credentials : Credentials) :
    Resends 0 (handleFor proxyKey credentials : Exchange κ χ (Except NegotiateError κ)) := by
  apply Resends.holding
  apply Resends.quiet (.lookup proxyKey) rfl
  rintro ⟨since, _ | handle⟩
  · apply Resends.quiet (.acquire credentials) rfl
    intro answer
    cases answer with
    | error e => exact .done 0 _
    | ok acquired => exact .quiet (.store proxyKey since acquired) rfl fun _ => .done 0 _
  · exact .done 0 _

theorem resends_forgetHandle (proxyKey : String) :
    Resends 0 (forgetHandle proxyKey : Exchange κ χ Unit) :=
  .holding (.quiet (.forget proxyKey) rfl fun _ => .done 0 ())

theorem resends_verifyProxy (isStrict : Bool) (context : χ) (response : Response) :
    Resends 0
      (verifyProxy isStrict context response : Exchange κ χ (Except Failure Response)) := by
  unfold verifyProxy
  split
  · exact .done 0 _
  · cases isStrict <;> exact .done 0 _
  · next token _ =>
    apply Resends.quiet (.step context token) rfl
    intro answer
    rcases answer with e | ⟨_ | token⟩ | token <;> exact .done 0 _

theorem resends_refused (proxy : Url) (progress : Progress) (response : Response) :
    Resends 0
      (refused proxy progress response : Exchange κ χ (Except Failure Response)) := by
  unfold refused
  split
  · exact .done 0 _
  · exact (resends_forgetHandle proxy.proxyKey).bind (fun _ => .done 0 _) (Nat.le_refl 0)

theorem resends_resend
    (isStrict : Bool) (proxy : Url) (request : Request) (progress : Progress) (context : χ)
    (first : Step) :
    Resends 1
      (resend isStrict proxy request progress context first :
        Exchange κ χ (Except Failure Response)) := by
  unfold resend
  split
  · exact .done 1 _
  · split
    · exact .done 1 _
    · next header _ =>
      apply Resends.again proxy request header
      intro answer
      cases answer with
      | error cause => exact .done 0 _
      | ok response =>
          change Resends 0 (if response.isAuthRequired = true then _ else _)
          split
          · exact resends_refused proxy progress.beginRetry response
          · exact resends_verifyProxy isStrict context response

/-- What follows a challenge sends at most once. -/
theorem resends_negotiate
    (settings : Settings) (proxy : Url) (request : Request) (progress : Progress)
    (target : ServicePrincipal) :
    Resends 1
      (negotiate settings proxy request progress target :
        Exchange κ χ (Except Failure Response)) := by
  unfold negotiate
  refine (resends_handleFor proxy.proxyKey settings.credentials).bind (fun answer => ?_)
    (Nat.le_refl (0 + 1))
  cases answer with
  | error e => exact .done 1 _
  | ok handle =>
      apply Resends.quiet (.initiate handle target) rfl
      intro answer
      rcases answer with e | ⟨context, first⟩
      · cases e with
        | credential cause =>
            exact (resends_forgetHandle proxy.proxyKey).bind (fun _ => .done 0 _) (Nat.zero_le 1)
        | negotiation | invalidToken | invalidPrincipal => exact .done 1 _
      · refine (resends_resend settings.isStrict proxy request progress context first).bind
          (fun result => ?_) (Nat.le_refl (1 + 0))
        exact .quiet (.close context) rfl fun _ => .done 0 result

/-- A challenge is counted before anything else is done about it. -/
theorem challenged_eq
    (settings : Settings) (files : FileSystem) (isReentrant : Bool) (proxy : Url)
    (request : Request) (progress : Progress) :
    ∃ rest : Exchange κ χ (Except Failure Response),
      challenged settings files isReentrant proxy request progress =
        .ask (.count .challenge) (fun _ => rest) ∧
      Resends 1 rest := by
  refine ⟨_, rfl, ?_⟩
  cases settings.credentials.validate files with
  | error cause => exact .done 1 _
  | ok _ =>
      cases ServicePrincipal.ofProxy proxy settings.service with
      | error cause => exact .done 1 _
      | ok target =>
          exact (resends_negotiate settings proxy request progress target).inTurn

/-- What follows the first answer. -/
theorem converse_eq
    (settings : Settings) (files : FileSystem) (isReentrant : Bool) (proxy : Url)
    (request : Request) :
    ∃ next : Except TransportError Response → Exchange κ χ (Except Failure Response),
      converse settings files isReentrant proxy request =
        .ask (.send proxy request none) next ∧
      (∀ cause, next (.error cause) = .done (.error (.transport cause))) ∧
      ∀ response,
        next (.ok response) =
          if Progress.asksToNegotiate response then
            challenged settings files isReentrant proxy request
              (Progress.start.observe response)
          else .done (.ok response) :=
  ⟨_, rfl, fun _ => rfl, fun _ => rfl⟩

end Exchange

/-! ## Running such a program -/

namespace Session

variable (backend : Backend σ κ χ)

/-- Between two points of an exchange, at most `left` requests were sent, all with an authorization,
and as many retries and nothing else was counted. -/
def Resent (left : Nat) (before after : Session σ κ χ) : Prop :=
  ∃ calls retries,
    before.Grows after calls (List.replicate retries .retry) after.cache ∧
    retries ≤ left ∧ (sendings calls).length = retries ∧
    ∀ sending ∈ sendings calls, sending.authorization.isSome = true

theorem Resent.refl (left : Nat) (session : Session σ κ χ) : Resent left session session :=
  ⟨[], 0, .refl session, Nat.zero_le left, rfl, fun _ hmem => nomatch hmem⟩

theorem Resent.trans
    {first second left : Nat} {before between after : Session σ κ χ}
    (hfirst : Resent first before between) (hsecond : Resent second between after)
    (hleft : first + second ≤ left) :
    Resent left before after := by
  obtain ⟨calls, retries, hgrows, hfew, hlength, hauthorized⟩ := hfirst
  obtain ⟨later, more, hgrowsLater, hfewLater, hlengthLater, hauthorizedLater⟩ := hsecond
  refine ⟨calls ++ later, retries + more, ?_, by omega, ?_, ?_⟩
  · rw [← List.replicate_append_replicate]
    exact hgrows.trans hgrowsLater
  · rw [sendings_append, List.length_append, hlength, hlengthLater]
  · rw [sendings_append]
    exact List.forall_mem_append.mpr ⟨hauthorized, hauthorizedLater⟩

theorem resent_of_grows
    {before after : Session σ κ χ} {calls : List (Call κ χ)}
    (hgrows : before.Grows after calls [] after.cache) (hnone : sendings calls = []) :
    Resent 0 before after := by
  refine ⟨calls, 0, hgrows, Nat.le_refl 0, by rw [hnone]; rfl, ?_⟩
  rw [hnone]
  exact fun _ hmem => nomatch hmem

theorem resent_quiet
    {demand : Demand κ χ} (hquiet : demand.isQuiet = true) (session : Session σ κ χ) :
    Resent 0 session (session.perform backend demand).2 := by
  cases demand with
  | send | count => cases hquiet
  | initiate handle target =>
      obtain ⟨calls, hopening, hgrows⟩ := grows_initiate backend session handle target
      exact resent_of_grows ⟨hgrows.calls_eq, hgrows.counted_eq, rfl⟩ hopening.sendings_eq
  | acquire | step | close =>
      exact resent_of_grows ⟨rfl, (List.append_nil _).symm, rfl⟩ rfl
  | take | release | lookup | store | forget =>
      exact resent_of_grows ⟨(List.append_nil _).symm, (List.append_nil _).symm, rfl⟩ rfl

theorem resent_closeHeld (session : Session σ κ χ) (held : Option χ) :
    Resent 0 session (session.closeHeld backend held) := by
  cases held with
  | none => exact .refl 0 session
  | some context => exact resent_of_grows ⟨rfl, (List.append_nil _).symm, rfl⟩ rfl

theorem resent_again
    (session : Session σ κ χ) (proxy : Url) (request : Request) (authorization : HeaderValue) :
    Resent 1 session
      ((session.count .retry).send backend proxy request (some authorization)).2 := by
  refine ⟨_, 1, (grows_count session .retry).trans
    (grows_send backend (session.count .retry) proxy request (some authorization)),
    Nat.le_refl 1, rfl, ?_⟩
  exact List.forall_mem_singleton.mpr rfl

/-- A deadline does not come while something is counted. -/
theorem runWithin_count
    {limit elapsed : Nat} (hbegun : elapsed ≤ limit) (counter : Counter)
    (next : (Demand.count counter : Demand κ χ).Answer → Exchange κ χ α) (held : Option χ)
    (session : Session σ κ χ) :
    session.runWithin backend limit (.ask (.count counter) next) elapsed held =
      (session.count counter).runWithin backend limit (next ()) elapsed held := by
  have huncut :
      ¬ isCut limit elapsed
        (session.perform backend (.count counter : Demand κ χ)).1.2.nanoseconds
        (.count counter : Demand κ χ) = true := by
    change ¬ isCut limit elapsed 0 (.count counter : Demand κ χ) = true
    simpa [isCut, Demand.isLibraryCall] using hbegun
  rw [runWithin_ask, if_neg huncut]
  rfl

/-- Whenever the deadline comes, each request was counted before it was sent, and each that was counted
was sent. -/
theorem resent_runWithin
    {program : Exchange κ χ α} {left : Nat} (hprogram : program.Resends left)
    {limit elapsed : Nat} (hbegun : elapsed ≤ limit) (held : Option χ) (session : Session σ κ χ) :
    Resent left session (session.runWithin backend limit program elapsed held).2 := by
  have hintime {elapsed delay : Nat} {demand : Demand κ χ}
      (huncut : ¬ isCut limit elapsed delay demand = true) : elapsed + delay ≤ limit := by
    simp only [isCut, Bool.or_eq_true, decide_eq_true_eq] at huncut
    omega
  induction hprogram generalizing elapsed held session with
  | done left a => exact .refl left session
  | @quiet left demand next hquiet _ ih =>
      have hfirst := resent_quiet backend hquiet session
      rw [runWithin_ask]
      split
      · exact hfirst.trans (resent_closeHeld backend _ _) (Nat.zero_le left)
      · next huncut =>
        exact hfirst.trans (ih _ (hintime huncut) _ _) (by omega)
  | @again left proxy request authorization next _ ih =>
      have hfirst := resent_again backend session proxy request authorization
      rw [runWithin_count backend hbegun, runWithin_ask]
      split
      · exact hfirst.trans (resent_closeHeld backend _ _) (by omega)
      · next huncut =>
        exact hfirst.trans (ih _ (hintime huncut) _ _) (by omega)

/-! ## A single exchange -/

/-- What an exchange has sent and counted, but for its failure. -/
def Tallied (isValid isChallenged : Bool) (before after : Session σ κ χ) : Prop :=
  ∃ calls retries,
    before.Grows after calls
      ((if isChallenged then [.challenge] else []) ++ List.replicate retries .retry) after.cache ∧
    retries ≤ isChallenged.toNat ∧
    (sendings calls).length = isValid.toNat + retries ∧
    (sendings calls).countP (·.authorization.isSome) = retries

theorem tallied_refl (session : Session σ κ χ) : Tallied false false session session :=
  ⟨[], 0, .refl session, Nat.le_refl 0, rfl, rfl⟩

theorem tallied_send
    (session : Session σ κ χ) (proxy : Url) (request : Request) :
    Tallied true false session (session.send backend proxy request none).2 :=
  ⟨_, 0, grows_send backend session proxy request none, Nat.le_refl 0, rfl, rfl⟩

theorem tallied_of_resent
    {session after : Session σ κ χ} {proxy : Url} {request : Request}
    (hresent : Resent 1 ((session.send backend proxy request none).2.count .challenge) after) :
    Tallied true true session after := by
  obtain ⟨calls, retries, hgrows, hfew, hlength, hauthorized⟩ := hresent
  have hfirst := (grows_send backend session proxy request none).trans
    (grows_count (session.send backend proxy request none).2 .challenge)
  refine ⟨_, retries, hfirst.trans hgrows, hfew, ?_, ?_⟩
  · simp only [sendings_append, sendings_cons, sendings_nil, List.length_append, hlength,
      Call.sending?]
    rfl
  · have hcount : (sendings calls).countP (·.authorization.isSome) = retries := by
      rw [← hlength]
      exact List.countP_eq_length.mpr hauthorized
    simp [Call.sending?, hcount]

/-- The deadline comes while an answer is waited for, or not. -/
theorem runWithin_send_of_answer
    {proxy : Url} {request : Request} {authorization : Option HeaderValue} {session : Session σ κ χ}
    {answer : Except TransportError Response} {delay : Duration}
    (hanswer : (session.send backend proxy request authorization).1 = (answer, delay))
    (limit elapsed : Nat) (next : Except TransportError Response → Exchange κ χ α)
    (held : Option χ) :
    session.runWithin backend limit (.ask (.send proxy request authorization) next) elapsed held =
      if elapsed + delay.nanoseconds ≤ limit then
        (session.send backend proxy request authorization).2.runWithin backend limit (next answer)
          (elapsed + delay.nanoseconds) held
      else (none, (session.send backend proxy request authorization).2.closeHeld backend held) := by
  rw [runWithin_send, hanswer]
  by_cases hintime : elapsed + delay.nanoseconds ≤ limit
  · rw [if_pos hintime, if_neg (Nat.not_lt.mpr hintime)]
  · rw [if_neg hintime, if_pos (Nat.lt_of_not_le hintime)]

theorem tallied_converse
    (settings : Settings) (files : FileSystem) (isReentrant : Bool) {proxy : Url}
    {request : Request} {session : Session σ κ χ} {answer : Except TransportError Response}
    {delay : Duration}
    (hanswer : (session.send backend proxy request none).1 = (answer, delay)) (limit : Nat) :
    Tallied true
      (decide (delay.nanoseconds ≤ limit) && answer.toOption.any Progress.asksToNegotiate) session
      (session.runWithin backend limit
        (.converse settings files isReentrant proxy request) 0 none).2 := by
  obtain ⟨next, hprogram, hfailed, hanswered⟩ :=
    Exchange.converse_eq (κ := κ) (χ := χ) settings files isReentrant proxy request
  rw [hprogram, runWithin_send_of_answer backend hanswer, Nat.zero_add]
  by_cases hintime : delay.nanoseconds ≤ limit
  · rw [if_pos hintime, decide_eq_true hintime, Bool.true_and]
    cases answer with
    | error cause =>
        rw [hfailed]
        exact tallied_send backend session proxy request
    | ok response =>
        rw [hanswered]
        simp only [Except.toOption, Option.any_some]
        cases hasks : Progress.asksToNegotiate response with
        | false => exact tallied_send backend session proxy request
        | true =>
            obtain ⟨rest, hchallenged, hrest⟩ :=
              Exchange.challenged_eq (κ := κ) (χ := χ) settings files isReentrant proxy request
                (Progress.start.observe response)
            simp only [if_true, hchallenged]
            rw [runWithin_count backend hintime]
            exact tallied_of_resent backend
              (resent_runWithin backend hrest hintime none _)
  · rw [if_neg hintime, decide_eq_false hintime, Bool.false_and]
    exact tallied_send backend session proxy request

end Session

/-- One of several exchanges: how the session stood when it began, and what was to be sent. -/
structure Round (σ κ χ : Type) where
  session : Session σ κ χ
  files : FileSystem
  proxy : Url
  request : Request

/-- Whether the settings leave time for an answer that takes `delay`. -/
def Settings.awaits (settings : Settings) (delay : Duration) : Bool :=
  settings.timeout.all fun limit => delay.nanoseconds ≤ limit.nanoseconds

namespace Round

variable (backend : Backend σ κ χ) (settings : Settings) (round : Round σ κ χ)

def result : Except Failure Response :=
  (round.session.authenticate backend settings round.files round.proxy round.request).1

/-- Whether the proxy and the request pass validation. -/
def isValid : Bool :=
  (validateProxy round.proxy).isOk && round.request.validate.isOk

/-- The answer to the request without authorization, and how long it takes. -/
def firstAnswer : Except TransportError Response × Duration :=
  (backend.send round.proxy round.request.stripped none round.session.outside).1

/-- Whether the first response came in time and offers negotiation. -/
def isChallenged : Bool :=
  round.isValid && settings.awaits (round.firstAnswer backend).2 &&
    (round.firstAnswer backend).1.toOption.any Progress.asksToNegotiate

def failsWith (kind : FailureKind) : Bool :=
  match round.result backend settings with
  | .ok _ => false
  | .error failure => failure.kind = kind

end Round

namespace Session

variable (backend : Backend σ κ χ) (settings : Settings)

/-- The session when requests have been sent through their proxies, one after another; the files
need not stay the same. -/
def afterAll (session : Session σ κ χ) (requests : List (FileSystem × Url × Request)) :
    Session σ κ χ :=
  requests.foldl
    (fun session (files, proxy, request) =>
      (session.authenticate backend settings files proxy request).2)
    session

theorem authenticateAll_eq_afterAll
    (files : FileSystem) (requests : List (Url × Request)) (session : Session σ κ χ) :
    (session.authenticateAll backend settings files requests).2 =
      session.afterAll backend settings (requests.map (files, ·)) := by
  induction requests generalizing session with
  | nil => rfl
  | cons request rest ih => exact ih _

/-- The exchanges when requests are sent through their proxies, one after another. -/
def rounds : Session σ κ χ → List (FileSystem × Url × Request) → List (Round σ κ χ)
  | _, [] => []
  | session, (files, proxy, request) :: rest =>
    ⟨session, files, proxy, request⟩ ::
      rounds (session.authenticate backend settings files proxy request).2 rest

theorem handshake_eq
    (round : Round σ κ χ) (isReentrant : Bool) :
    (round.isValid = true ∧
      (Exchange.handshake settings round.files isReentrant round.proxy round.request :
          Exchange κ χ (Except Failure Response)) =
        .converse settings round.files isReentrant round.proxy round.request.stripped) ∨
    (round.isValid = false ∧
      ∃ failure : Failure,
        (Exchange.handshake settings round.files isReentrant round.proxy round.request :
          Exchange κ χ (Except Failure Response)) = .done (.error failure)) := by
  unfold Exchange.handshake Round.isValid
  cases validateProxy round.proxy with
  | error cause => exact .inr ⟨rfl, _, rfl⟩
  | ok =>
      cases round.request.validate with
      | error cause => exact .inr ⟨rfl, _, rfl⟩
      | ok => exact .inl ⟨rfl, rfl⟩

theorem tallied_handshake (round : Round σ κ χ) (limit : Nat) :
    Tallied round.isValid
      (round.isValid && decide ((round.firstAnswer backend).2.nanoseconds ≤ limit) &&
        (round.firstAnswer backend).1.toOption.any Progress.asksToNegotiate)
      round.session
      (round.session.runWithin backend limit
        (.handshake settings round.files backend.library.isReentrant round.proxy round.request)
        0 none).2 := by
  rcases handshake_eq settings round backend.library.isReentrant with
    ⟨hvalid, hprogram⟩ | ⟨hvalid, failure, hprogram⟩
  · rw [hvalid, hprogram]
    exact tallied_converse backend settings round.files backend.library.isReentrant rfl limit
  · rw [hvalid, hprogram]
    exact tallied_refl round.session

theorem firstAnswer_le_sendingTime (round : Round σ κ χ) (hvalid : round.isValid = true) :
    (round.firstAnswer backend).2.nanoseconds ≤
      round.session.sendingTime backend
        (.handshake settings round.files backend.library.isReentrant round.proxy
          round.request) := by
  rcases handshake_eq settings round backend.library.isReentrant with
    ⟨_, hprogram⟩ | ⟨hinvalid, _⟩
  · rw [hprogram]
    exact Nat.le_add_right _ _
  · rw [hvalid] at hinvalid
    cases hinvalid

/-- A deadline that the exchange does not reach is as good as none. -/
theorem tallied_authenticate (round : Round σ κ χ) :
    ∃ after : Session σ κ χ,
      (round.session.authenticate backend settings round.files round.proxy round.request).2 =
        after.countResult (round.result backend settings) ∧
      Tallied round.isValid (round.isChallenged backend settings) round.session after := by
  cases htimeout : settings.timeout with
  | some limit =>
      have hchallenged : round.isChallenged backend settings =
          (round.isValid && decide ((round.firstAnswer backend).2.nanoseconds ≤ limit.nanoseconds) &&
            (round.firstAnswer backend).1.toOption.any Progress.asksToNegotiate) := by
        simp [Round.isChallenged, Settings.awaits, htimeout]
      refine ⟨_, ?_, hchallenged ▸ tallied_handshake backend settings round limit.nanoseconds⟩
      simp only [Round.result, authenticate, htimeout]
  | none =>
      generalize htotal : round.session.sendingTime backend
        (.handshake settings round.files backend.library.isReentrant round.proxy round.request) =
          total
      have htallied := tallied_handshake backend settings round (total + 1)
      rw [runWithin_of_lt backend _ _ 0 none round.session (by omega)] at htallied
      have hchallenged : round.isChallenged backend settings =
          (round.isValid && decide ((round.firstAnswer backend).2.nanoseconds ≤ total + 1) &&
            (round.firstAnswer backend).1.toOption.any Progress.asksToNegotiate) := by
        cases hvalid : round.isValid with
        | false => simp [Round.isChallenged, hvalid]
        | true =>
            have htime := firstAnswer_le_sendingTime backend settings round hvalid
            rw [htotal] at htime
            have hintime : (round.firstAnswer backend).2.nanoseconds ≤ total + 1 := by omega
            simp [Round.isChallenged, Settings.awaits, htimeout, hvalid, hintime]
      refine ⟨_, ?_, hchallenged ▸ htallied⟩
      simp only [Round.result, authenticate, htimeout]

end Session

/-- The counters agree with what the exchanges met with, what they sent and how they ended. -/
structure Agrees (backend : Backend σ κ χ) (settings : Settings) (rounds : List (Round σ κ χ))
    (calls : List (Call κ χ)) (counted : List Counter) : Prop where
  challenges : counted.count .challenge = rounds.countP (·.isChallenged backend settings)
  retries : counted.count .retry = (sendings calls).countP (·.authorization.isSome)
  failures :
    ∀ kind, counted.count (.failure kind) = rounds.countP (·.failsWith backend settings kind)
  retries_le_challenges : counted.count .retry ≤ counted.count .challenge
  sends : (sendings calls).length = rounds.countP (·.isValid) + counted.count .retry

namespace Agrees

variable {backend : Backend σ κ χ} {settings : Settings}

theorem nil : Agrees backend settings ([] : List (Round σ κ χ)) [] [] :=
  ⟨rfl, rfl, fun _ => rfl, Nat.le_refl 0, rfl⟩

theorem append
    {rounds more : List (Round σ κ χ)} {calls later : List (Call κ χ)}
    {counted countedLater : List Counter} (hfirst : Agrees backend settings rounds calls counted)
    (hsecond : Agrees backend settings more later countedLater) :
    Agrees backend settings (rounds ++ more) (calls ++ later) (counted ++ countedLater) where
  challenges := by
    rw [List.count_append, List.countP_append, hfirst.challenges, hsecond.challenges]
  retries := by
    rw [List.count_append, sendings_append, List.countP_append, hfirst.retries, hsecond.retries]
  failures kind := by
    rw [List.count_append, List.countP_append, hfirst.failures, hsecond.failures]
  retries_le_challenges := by
    rw [List.count_append, List.count_append]
    exact Nat.add_le_add hfirst.retries_le_challenges hsecond.retries_le_challenges
  sends := by
    rw [sendings_append, List.length_append, List.countP_append, List.count_append, hfirst.sends,
      hsecond.sends]
    omega

end Agrees

namespace Session

variable (backend : Backend σ κ χ) (settings : Settings)

/-- What is counted when an exchange has ended. -/
def endCounted : Except Failure Response → List Counter
  | .ok _ => []
  | .error failure => [.failure failure.kind]

theorem counted_countResult (session : Session σ κ χ) (result : Except Failure Response) :
    (session.countResult result).counted = session.counted ++ endCounted result := by
  cases result with
  | ok response => exact (List.append_nil _).symm
  | error failure => rfl

/-- Nothing but a failure is counted at the end. -/
theorem count_endCounted {counter : Counter} (hcounter : ∀ kind, .failure kind ≠ counter)
    (result : Except Failure Response) :
    (endCounted result).count counter = 0 := by
  cases result with
  | ok response => rfl
  | error failure => exact List.count_singleton.trans (if_neg (by simpa using hcounter failure.kind))

theorem count_failure_endCounted (round : Round σ κ χ) (kind : FailureKind) :
    (endCounted (round.result backend settings)).count (.failure kind) =
      (round.failsWith backend settings kind).toNat := by
  unfold Round.failsWith
  cases round.result backend settings with
  | ok response => rfl
  | error failure =>
      by_cases hkind : failure.kind = kind
      · simp [endCounted, hkind]
      · simp [endCounted, hkind]

theorem countP_single (p : Round σ κ χ → Bool) (round : Round σ κ χ) :
    [round].countP p = (p round).toNat := by
  cases hround : p round <;> simp [hround]

theorem count_opening (isChallenged : Bool) (counter : Counter) :
    (if isChallenged then [Counter.challenge] else []).count counter =
      if counter = .challenge then isChallenged.toNat else 0 := by
  cases isChallenged with
  | false => simp
  | true => cases counter <;> rfl

theorem count_again (retries : Nat) (counter : Counter) :
    (List.replicate retries Counter.retry).count counter =
      if counter = .retry then retries else 0 := by
  rw [List.count_replicate]
  cases counter <;> rfl

theorem agrees_authenticate (round : Round σ κ χ) :
    ∃ calls counted,
      (round.session.authenticate backend settings round.files round.proxy round.request).2.calls =
        round.session.calls ++ calls ∧
      (round.session.authenticate backend settings round.files round.proxy
          round.request).2.counted =
        round.session.counted ++ counted ∧
      Agrees backend settings [round] calls counted := by
  obtain ⟨after, hafter, calls, retries, hgrows, hfew, hlength, hauthorized⟩ :=
    tallied_authenticate backend settings round
  rw [hafter, calls_countResult, counted_countResult, hgrows.counted_eq, List.append_assoc]
  refine ⟨calls, _, hgrows.calls_eq, rfl, ?_⟩
  have hchallenges : (endCounted (round.result backend settings)).count .challenge = 0 :=
    count_endCounted (fun _ => Counter.noConfusion) _
  have hretries : (endCounted (round.result backend settings)).count .retry = 0 :=
    count_endCounted (fun _ => Counter.noConfusion) _
  exact
    { challenges := by
        rw [countP_single]
        simp [count_opening, count_again, hchallenges]
      retries := by
        simp [count_opening, hretries, hauthorized]
      failures := by
        intro kind
        rw [countP_single]
        simp [count_opening, count_again, count_failure_endCounted]
      retries_le_challenges := by
        simp [count_opening, count_again, hchallenges, hretries, hfew]
      sends := by
        rw [countP_single]
        simp [count_opening, hretries, hlength] }

/-- Whatever the library, the proxies and the deadline do to exchanges that follow one another, every
challenge, every request that was sent again and every failure has been counted once, and nothing
else; so there are no more retries than challenges, and every request that was sent belongs to an
exchange that passed validation or to a retry. -/
theorem afterAll_counters (session : Session σ κ χ) (requests : List (FileSystem × Url × Request)) :
    ∃ calls counted,
      (session.afterAll backend settings requests).calls = session.calls ++ calls ∧
      (session.afterAll backend settings requests).counted = session.counted ++ counted ∧
      Agrees backend settings (session.rounds backend settings requests) calls counted := by
  induction requests generalizing session with
  | nil => exact ⟨[], [], (List.append_nil _).symm, (List.append_nil _).symm, .nil⟩
  | cons exchange rest ih =>
      obtain ⟨files, proxy, request⟩ := exchange
      obtain ⟨calls, counted, hcalls, hcounted, hagrees⟩ :=
        agrees_authenticate backend settings ⟨session, files, proxy, request⟩
      obtain ⟨later, countedLater, hlater, hcountedLater, hagreesLater⟩ :=
        ih (session.authenticate backend settings files proxy request).2
      refine ⟨calls ++ later, counted ++ countedLater, ?_, ?_, hagrees.append hagreesLater⟩
      · rw [← List.append_assoc, ← hcalls]
        exact hlater
      · rw [← List.append_assoc, ← hcounted]
        exact hcountedLater

end Session

end ProxyHandshake
