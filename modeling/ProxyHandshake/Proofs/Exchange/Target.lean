import ProxyHandshake.Proofs.Exchange.Alike
import ProxyHandshake.Proofs.Exchange.Answer
import ProxyHandshake.Proofs.Tunnel

/-!
# What the target can do to an exchange

Through a tunnel the status of a response is the target's and the challenges are the proxy's.  Two
targets behind the same tunnel make no difference to the exchange as long as both or neither of them
answer with the status by which a proxy refuses its client.  A target that answers with it while the
other does not is taken for the proxy, and that always shows.
-/

namespace ProxyHandshake

variable {σ κ χ : Type}

/-- Results of two exchanges that were answered with `first` and with `second`. -/
inductive ResultsAlike (first second : Response) :
    Except Failure Response → Except Failure Response → Prop
  | same (result : Except Failure Response) : ResultsAlike first second result result
  | own : ResultsAlike first second (.ok first) (.ok second)
  | failed {failure other : Failure} (hkind : failure.kind = other.kind) :
      ResultsAlike first second (.error failure) (.error other)

/-! ## Programs that hear the one or the other -/

namespace Exchange

section

variable {proxy : Url} {request : Request} {first second : Response}

theorem handleFor_alike (key : String) (credentials : Credentials) :
    Alike proxy request first second Eq
      (.handleFor key credentials : Exchange κ χ (Except NegotiateError κ))
      (.handleFor key credentials) := by
  refine Alike.holding _ (Alike.bind (.demand _) ?_)
  rintro ⟨since, found⟩ _ ⟨⟩
  cases found with
  | some handle => exact .pure rfl
  | none =>
      refine Alike.bind (.demand _) ?_
      rintro (e | acquired) _ ⟨⟩
      · exact .pure rfl
      · exact Alike.ask (.store key since acquired) fun _ _ _ => .pure rfl

theorem forgetHandle_alike (key : String) :
    Alike proxy request first second (fun _ _ => True)
      (.forgetHandle key : Exchange κ χ Unit) (.forgetHandle key) :=
  Alike.holding _ (.demand (.forget key))

theorem refused_alike
    (progress : Progress) (htoken : first.offeredToken? = second.offeredToken?)
    (hfirst : first.isAuthRequired = true) (hsecond : second.isAuthRequired = true) :
    Alike proxy request first second (ResultsAlike first second)
      (.refused proxy progress first : Exchange κ χ (Except Failure Response))
      (.refused proxy progress second) := by
  rw [refused_eq proxy progress hfirst, refused_eq proxy progress hsecond, htoken]
  cases second.offeredToken? with
  | some text => exact .pure (.same _)
  | none => exact Alike.bind (forgetHandle_alike _) fun _ _ _ => .pure (.same _)

theorem verifyProxy_alike
    (isStrict : Bool) (context : χ) (htoken : first.offeredToken? = second.offeredToken?) :
    Alike proxy request first second (ResultsAlike first second)
      (.verifyProxy isStrict context first : Exchange κ χ (Except Failure Response))
      (.verifyProxy isStrict context second) := by
  rw [verifyProxy_eq, verifyProxy_eq, htoken]
  cases second.offeredToken? with
  | none =>
      cases isStrict with
      | true => exact .pure (.failed rfl)
      | false => exact .pure .own
  | some text =>
      simp only
      cases Token.ofBase64 text with
      | error cause => exact .pure (.same _)
      | ok token =>
          refine Alike.bind (.demand _) ?_
          rintro answer _ ⟨⟩
          refine .pure ?_
          rcases answer with e | ⟨_ | token⟩ | token
          · exact .same _
          · exact .own
          · exact .same _
          · exact .same _

theorem resend_alike
    (isStrict : Bool) (progress : Progress) (context : χ) (opening : Step)
    (htoken : first.offeredToken? = second.offeredToken?)
    (hrequired : first.isAuthRequired = second.isAuthRequired) :
    Alike proxy request first second (ResultsAlike first second)
      (.resend isStrict proxy request progress context opening :
        Exchange κ χ (Except Failure Response))
      (.resend isStrict proxy request progress context opening) := by
  unfold resend
  cases opening.token? with
  | none => exact .pure (.same _)
  | some token =>
      simp only
      cases token.header with
      | error cause => exact .pure (.same _)
      | ok header =>
          refine Alike.ask (.count .retry) fun _ _ _ => ?_
          refine Alike.ask (.send proxy request (some header)) fun a b hanswers => ?_
          obtain ⟨rfl, rfl⟩ := hanswers rfl rfl
          change Alike proxy request first second (ResultsAlike first second)
            (if first.isAuthRequired then refused proxy progress.beginRetry first
              else verifyProxy isStrict context first)
            (if second.isAuthRequired then refused proxy progress.beginRetry second
              else verifyProxy isStrict context second)
          cases hsecond : second.isAuthRequired with
          | true =>
              rw [hsecond] at hrequired
              simp only [hrequired, if_true]
              exact refused_alike _ htoken hrequired hsecond
          | false =>
              rw [hsecond] at hrequired
              simp only [hrequired, Bool.false_eq_true, if_false]
              exact verifyProxy_alike _ _ htoken

theorem negotiate_alike
    (settings : Settings) (progress : Progress) (target : ServicePrincipal)
    (htoken : first.offeredToken? = second.offeredToken?)
    (hrequired : first.isAuthRequired = second.isAuthRequired) :
    Alike proxy request first second (ResultsAlike first second)
      (.negotiate settings proxy request progress target :
        Exchange κ χ (Except Failure Response))
      (.negotiate settings proxy request progress target) := by
  refine Alike.bind (handleFor_alike _ _) ?_
  rintro (e | handle) _ rfl
  · exact .pure (.same _)
  · refine Alike.bind (.demand _) ?_
    rintro (e | ⟨context, opening⟩) _ ⟨⟩
    · cases e with
      | credential cause =>
          exact Alike.bind (forgetHandle_alike _) fun _ _ _ => .pure (.same _)
      | negotiation | invalidToken | invalidPrincipal => exact .pure (.same _)
    · refine Alike.bind (resend_alike _ _ _ _ htoken hrequired) fun _ _ hresults => ?_
      exact Alike.ask (.close context) fun _ _ _ => .pure hresults

/-- The whole program goes the same way whether it hears the one response or the other, if both or
neither say that the proxy wants to know its client. -/
theorem handshake_alike
    (settings : Settings) (files : FileSystem) (isReentrant : Bool)
    (htoken : first.offeredToken? = second.offeredToken?)
    (hrequired : first.isAuthRequired = second.isAuthRequired) :
    Alike proxy request.stripped first second (ResultsAlike first second)
      (.handshake settings files isReentrant proxy request :
        Exchange κ χ (Except Failure Response))
      (.handshake settings files isReentrant proxy request) := by
  unfold handshake
  cases validateProxy proxy with
  | error cause => exact .pure (.same _)
  | ok =>
      simp only
      cases request.validate with
      | error cause => exact .pure (.same _)
      | ok =>
          refine Alike.bind (.demand _) ?_
          rintro (cause | response) _ ⟨⟩
          · exact .pure (.same _)
          · simp only
            split
            · refine Alike.ask (.count .challenge) fun _ _ _ => ?_
              cases settings.credentials.validate files with
              | error cause => exact .pure (.same _)
              | ok =>
                  simp only
                  cases ServicePrincipal.ofProxy proxy settings.service with
                  | error cause => exact .pure (.same _)
                  | ok target =>
                      exact (negotiate_alike _ _ _ htoken hrequired).inTurn isReentrant
            · exact .pure (.same _)

end
end Exchange

/-! ## Whole exchanges side by side -/

namespace Session

variable {proxy : Url} {request : Request} {first second : Response}
  {backend opposite : Backend σ κ χ} {session other : Session σ κ χ}

theorem Alike.countResult
    {result opposed : Except Failure Response} (hsessions : session.Alike other)
    (hresults : ResultsAlike first second result opposed) :
    (session.countResult result).Alike (other.countResult opposed) := by
  have hcounted (failure : Failure) :
      (session.count (.failure failure.kind)).Alike (other.count (.failure failure.kind)) :=
    ⟨hsessions.outside, hsessions.cache,
      congrArg (· ++ [Counter.failure failure.kind]) hsessions.counted, hsessions.steps⟩
  cases hresults with
  | same =>
      cases result with
      | ok => exact hsessions
      | error failure => exact hcounted failure
  | own => exact hsessions
  | @failed failure _ hkind =>
      simp only [Session.countResult]
      exact hkind ▸ hcounted failure

/-- Whether both or neither response says that the proxy wants to know its client is all that
matters to the exchange, with any deadline. -/
theorem Alike.authenticate
    (hbackends : backend.Alike proxy request.stripped first second opposite)
    (hsessions : session.Alike other)
    (htoken : first.offeredToken? = second.offeredToken?)
    (hrequired : first.isAuthRequired = second.isAuthRequired)
    (settings : Settings) (files : FileSystem) :
    ResultsAlike first second
        (session.authenticate backend settings files proxy request).1
        (other.authenticate opposite settings files proxy request).1 ∧
      (session.authenticate backend settings files proxy request).2.Alike
        (other.authenticate opposite settings files proxy request).2 := by
  unfold Session.authenticate
  rw [← hbackends.library]
  let program : Exchange κ χ (Except Failure Response) :=
    .handshake settings files backend.library.isReentrant proxy request
  have hprograms :
      program.Alike proxy request.stripped first second (ResultsAlike first second) program :=
    Exchange.handshake_alike settings files _ htoken hrequired
  cases settings.timeout with
  | none =>
      obtain ⟨hresults, hafter⟩ := Alike.run hbackends hprograms hsessions
      exact ⟨hresults, hafter.countResult hresults⟩
  | some limit =>
      obtain ⟨houtcomes, hafter⟩ :=
        Alike.runWithin hbackends hprograms hsessions limit.nanoseconds 0 none
      have hresults :
          ResultsAlike first second
            (resultWithin limit
              (session.runWithin backend limit.nanoseconds program 0 none).1)
            (resultWithin limit
              (other.runWithin opposite limit.nanoseconds program 0 none).1) := by
        generalize (session.runWithin backend limit.nanoseconds program 0 none).1 = outcome
          at houtcomes ⊢
        generalize (other.runWithin opposite limit.nanoseconds program 0 none).1 = opposed
          at houtcomes ⊢
        cases houtcomes with
        | none => exact .same _
        | some hresults => exact hresults
      exact ⟨hresults, hafter.countResult hresults⟩

end Session

/-! ## Whether the token was answered -/

theorem Session.Opening.stepped_notMem
    {handle : κ} {target : ServicePrincipal} {result : Except NegotiateError (χ × Step)}
    {calls : List (Call κ χ)} (hopening : Session.Opening handle target result calls)
    (context : χ) (token : Token) (answer : Except NegotiateError Step) :
    .stepped context (some token) answer ∉ calls := by
  cases hopening <;> simp

theorem stepped_notMem_acquisition
    (backend : Backend σ κ χ) (credentials : Credentials) (key : String) (cache : Cache κ)
    (outside : σ) (context : χ) (token : Token) (answer : Except NegotiateError Step) :
    .stepped context (some token) answer ∉
      backend.acquisition credentials key cache outside := by
  unfold Backend.acquisition
  split <;> simp

/-- The kinds of failures that speak of the answer to a token. -/
def FailureKind.isDenial : FailureKind → Bool
  | .authenticationFailed | .protocolViolation => true
  | .credential | .negotiation | .invalidRequest | .transport => false

theorem Failure.isDenial_ofNegotiate (e : NegotiateError) :
    (Failure.ofNegotiate e).kind.isDenial = false := by
  cases e <;> rfl

/-- An exchange whose token was answered, or one that shows no sign of an answer. -/
inductive Hearing (isStrict : Bool) (proxy : Url) (request : Request)
    (calls : List (Call κ χ)) (result : Except Failure Response) : Prop
  | unheard
      (hsent : ∀ through sent header answer,
        .sent through sent (some header) answer ∈ calls →
          through = proxy ∧ sent = request ∧ ∃ cause, answer = .error cause)
      (hstepped : ∀ context token answer, .stepped context (some token) answer ∉ calls)
      (hkind : ∀ failure, result = .error failure → failure.kind.isDenial = false)
  | heard {header : HeaderValue} {response : Response} {context : χ}
      {later : List (Call κ χ)} {rejected : Bool}
      (hsent : .sent proxy request (some header) (.ok response) ∈ calls)
      (hstepped : ∀ stepping token answer,
        .stepped stepping (some token) answer ∈ calls ↔
          .stepped stepping (some token) answer ∈ later)
      (hverdict : Verdict isStrict proxy context response later result rejected)

section

variable {backend : Backend σ κ χ} {settings : Settings} {files : FileSystem} {outside : σ}
  {cache cacheAfter : Cache κ} {proxy : Url} {request : Request} {target : ServicePrincipal}
  {handle : κ} {calls : List (Call κ χ)} {counted : List Counter}
  {result : Except Failure Response} {rejected isStrict : Bool}

theorem HandleUse.hearing
    (huse : HandleUse isStrict proxy request target handle calls counted result rejected) :
    Hearing isStrict proxy request calls result := by
  cases huse with
  | @unopened e _ hopening =>
      refine .unheard (fun _ _ _ _ hmem => ?_) hopening.stepped_notMem fun failure heq => ?_
      · exact absurd hmem (sent_notMem hopening.sendings_eq _ _ _ _)
      · cases heq
        exact Failure.isDenial_ofNegotiate e
  | tokenless hopening | unsendable hopening =>
      refine .unheard (fun _ _ _ _ hmem => ?_) (fun _ _ _ hmem => ?_) fun failure heq => ?_
      · simp [sent_notMem hopening.sendings_eq] at hmem
      · simp [hopening.stepped_notMem] at hmem
      · cases heq
        rfl
  | @unanswered _ _ _ _ cause _ hopening =>
      refine .unheard (fun _ _ _ _ hmem => ?_) (fun _ _ _ hmem => ?_) fun failure heq => ?_
      · simp only [List.mem_append, sent_notMem hopening.sendings_eq, List.mem_cons,
          Call.sent.injEq, List.not_mem_nil, reduceCtorEq, or_false, false_or] at hmem
        exact ⟨hmem.1, hmem.2.1, cause, hmem.2.2.2⟩
      · simp [hopening.stepped_notMem] at hmem
      · cases heq
        rfl
  | @answered context _ _ header response sooner later _ _ hopening _ _ hverdict =>
      have hsent :
          .sent proxy request (some header) (.ok response) ∈
            sooner ++ .sent proxy request (some header) (.ok response) ::
              (later ++ [.closed context]) :=
        List.mem_append_right _ List.mem_cons_self
      refine .heard hsent (fun _ _ _ => ?_) hverdict
      simp [hopening.stepped_notMem]

theorem Course.hearing
    (hcourse :
      Course backend settings files outside cache proxy request
        calls counted result cacheAfter) :
    Hearing settings.isStrict proxy request.stripped calls result := by
  cases hcourse with
  | invalidProxy | invalidRequest | unsent | unchallenged | unusable | nameless =>
      refine .unheard (by simp) (by simp) fun failure heq => ?_
      cases heq <;> rfl
  | @unacquired _ _ e =>
      refine .unheard (fun _ _ _ _ hmem => ?_) (fun _ _ _ hmem => ?_) fun failure heq => ?_
      · simp [sent_notMem (sendings_acquisition ..)] at hmem
      · simp [stepped_notMem_acquisition] at hmem
      · cases heq
        exact Failure.isDenial_ofNegotiate e
  | used _ _ _ huse =>
      cases huse.hearing with
      | unheard hsent hstepped hkind =>
          refine .unheard (fun _ _ header _ hmem => ?_) (fun _ _ _ hmem => ?_) hkind
          · refine hsent _ _ header _ ?_
            simpa [sent_notMem (sendings_acquisition ..)] using hmem
          · simp [stepped_notMem_acquisition, hstepped] at hmem
      | heard hsent hstepped hverdict =>
          refine .heard (List.mem_cons_of_mem _ (List.mem_append_right _ hsent))
            (fun _ _ _ => ?_) hverdict
          simp [stepped_notMem_acquisition, hstepped]

end

/-! ## Requests that are sent again on both sides -/

namespace Session

/-- Whether a request was sent with authorization on the way from one session to the next. -/
def Retried (session after : Session σ κ χ) : Prop :=
  ∃ calls, after.calls = session.calls ++ calls ∧
    ∃ proxy request header answer, .sent proxy request (some header) answer ∈ calls

section

variable {proxy : Url} {request : Request} {first second : Response}
  {backend opposite : Backend σ κ χ}

theorem perform_eq
    (hbackends : backend.Alike proxy request first second opposite)
    (session : Session σ κ χ) {demand : Demand κ χ}
    (hplain : ∀ through sent header, demand ≠ .send through sent (some header)) :
    session.perform backend demand = session.perform opposite demand := by
  cases demand with
  | send through sent authorization =>
      cases authorization with
      | none =>
          simp only [perform, send, hbackends.plain]
          rfl
      | some header => exact absurd rfl (hplain through sent header)
  | initiate handle target =>
      simp only [perform, initiate, step, close, hbackends.library]
  | acquire | step | close => simp only [perform, acquire, step, close, hbackends.library]
  | lookup key => simp only [perform, hbackends.now]
  | take | release | store | forget | count => rfl

/-- Until a request is sent with authorization, there is no difference. -/
theorem run_eq_or_retried
    {α : Type} (hbackends : backend.Alike proxy request first second opposite)
    (program : Exchange κ χ α) (session : Session σ κ χ) :
    session.run backend program = session.run opposite program ∨
      session.Retried (session.run opposite program).2 := by
  induction program generalizing session with
  | done a => exact .inl rfl
  | ask demand next ih =>
      by_cases hplain : ∀ through sent header, demand ≠ .send through sent (some header)
      · have hperform := perform_eq hbackends session hplain
        rw [run_ask, run_ask, hperform]
        refine (ih _ _).imp id fun ⟨calls, hcalls, hsent⟩ => ?_
        obtain ⟨sooner, hsooner, _⟩ := calls_perform opposite session demand
        obtain ⟨through, sent, header, answer, hmem⟩ := hsent
        exact ⟨sooner ++ calls, by rw [hcalls, hsooner, List.append_assoc],
          through, sent, header, answer, List.mem_append_right _ hmem⟩
      · -- From here on the two runs may differ, but the request is among the calls of both.
        right
        simp only [not_forall, ne_eq, not_not] at hplain
        obtain ⟨through, sent, header, rfl⟩ := hplain
        obtain ⟨calls, hcalls, _⟩ :=
          calls_run opposite (next (session.perform opposite (.send ..)).1.1)
            (session.perform opposite (.send through sent (some header))).2
        let answer := (opposite.send through sent (some header) session.outside).1.1
        refine ⟨.sent through sent (some header) answer :: calls, ?_,
          through, sent, header, answer, List.mem_cons_self⟩
        rw [run_ask, hcalls]
        exact List.append_assoc ..

end
end Session

/-! ## Responses on both sides -/

section

variable {isStrict : Bool} {proxy : Url} {context opposed : χ} {first second : Response}
  {later otherLater : List (Call κ χ)} {result other : Except Failure Response}
  {rejected otherRejected : Bool}

theorem Verdict.taken_eq
    (hverdict : Verdict isStrict proxy context first later result rejected)
    {taken : Response} (htaken : result = .ok taken) :
    taken = first := by
  cases hverdict with
  | checked answer =>
      have hcomplete := Response.eq_of_judged_eq_ok htaken
      rw [hcomplete] at htaken
      exact (Except.ok.inj htaken).symm
  | trusted => exact (Except.ok.inj htaken).symm
  | _ => cases htaken

/-- A response that refuses the client is never taken as one that does not. -/
theorem Verdict.differ
    (hverdict : Verdict isStrict proxy context first later result rejected)
    (hother : Verdict isStrict proxy opposed second otherLater other otherRejected)
    (hfirst : first.isAuthRequired = true) (hsecond : second.isAuthRequired = false)
    (hresults :
      (result = .ok first ∧ other = .ok second) ∨
        ∃ failure opposite, result = .error failure ∧ other = .error opposite ∧
          failure.kind = opposite.kind)
    (hsteps : ∀ stepping token answer,
      .stepped stepping (some token) answer ∈ later ↔
        .stepped stepping (some token) answer ∈ otherLater) :
    False := by
  have hdenied :
      later = [] ∧ ∃ failure, result = .error failure ∧ failure.kind.isDenial = true := by
    cases hverdict with
    | secondLeg | rejected => exact ⟨rfl, _, rfl, rfl⟩
    | unreadable hpassed | checked _ hpassed | unproved hpassed | trusted hpassed =>
        cases hfirst.symm.trans hpassed
  obtain ⟨rfl, failure, rfl, hdenial⟩ := hdenied
  obtain ⟨⟨⟩, _⟩ | ⟨_, opposite, ⟨⟩, rfl, hkind⟩ := hresults
  rw [hkind] at hdenial
  generalize hopposite : (Except.error opposite : Except Failure Response) = other at hother
  cases hother with
  | secondLeg hrequired | rejected hrequired => cases hsecond.symm.trans hrequired
  | unreadable | unproved =>
      cases hopposite
      cases hdenial
  | checked answer =>
      -- The token of the proxy is given to the context on one side only.
      have hstep := (hsteps _ _ _).mpr List.mem_cons_self
      cases hstep
  | trusted => cases hopposite

end

namespace Session

variable {proxy : Url} {request : Request} {first second : Response}
  {backend opposite : Backend σ κ χ} {settings : Settings} {files : FileSystem}
  {session : Session σ κ χ}

/-- An exchange that sent its request again heard the response that the backend has for it. -/
theorem verdict_of_retried
    (hfirst :
      ∀ header outside,
        (backend.send proxy request.stripped (some header) outside).1.1 = .ok first)
    (hended : session.isCutOff backend settings files proxy request = false)
    (hretried :
      session.Retried (session.authenticate backend settings files proxy request).2) :
    ∃ (calls : List (Call κ χ)) (context : χ) (later : List (Call κ χ)) (rejected : Bool),
      (session.authenticate backend settings files proxy request).2.calls =
        session.calls ++ calls ∧
      (∀ stepping token answer,
        .stepped stepping (some token) answer ∈ calls ↔
          .stepped stepping (some token) answer ∈ later) ∧
      Verdict settings.isStrict proxy context first later
        (session.authenticate backend settings files proxy request).1 rejected := by
  obtain ⟨calls, counted, result, cache, after, hrun, hcourse, hgrows⟩ :=
    run_handshake backend settings files backend.library.isReentrant proxy request session
  have hauthenticate := authenticate_of_ended backend hended hrun
  rw [hauthenticate] at hretried ⊢
  obtain ⟨sent, hsent, through, asked, header, answer, hmem⟩ := hretried
  obtain ⟨answered, hanswered, hanswers⟩ :=
    calls_run backend
      (.handshake settings files backend.library.isReentrant proxy request) session
  rw [calls_countResult, hgrows.calls_eq, List.append_cancel_left_eq] at hsent
  rw [hrun, hgrows.calls_eq, List.append_cancel_left_eq] at hanswered
  subst hsent hanswered
  simp only [calls_countResult, hgrows.calls_eq, List.append_cancel_left_eq]
  cases hcourse.hearing with
  | unheard hunheard =>
      obtain ⟨rfl, rfl, cause, rfl⟩ := hunheard _ _ _ _ hmem
      obtain ⟨outside, hanswer⟩ := hanswers _ _ _ _ hmem
      cases (hfirst header outside).symm.trans hanswer
  | heard hheard hstepped hverdict =>
      obtain ⟨outside, hanswer⟩ := hanswers _ _ _ _ hheard
      obtain rfl := Except.ok.inj ((hfirst _ outside).symm.trans hanswer)
      exact ⟨_, _, _, _, rfl, hstepped, hverdict⟩

theorem retried_opposite
    (hbackends : backend.Alike proxy request.stripped first second opposite)
    (hended : session.isCutOff backend settings files proxy request = false)
    (hopposite : session.isCutOff opposite settings files proxy request = false)
    (hretried :
      session.Retried (session.authenticate backend settings files proxy request).2) :
    session.Retried (session.authenticate opposite settings files proxy request).2 := by
  rw [authenticate_of_ended backend hended rfl, Retried, calls_countResult] at hretried
  rw [authenticate_of_ended opposite hopposite rfl, Retried, calls_countResult,
    ← hbackends.library]
  rcases run_eq_or_retried hbackends
    (.handshake settings files backend.library.isReentrant proxy request) session with
    hsame | hother
  · exact hsame ▸ hretried
  · exact hother

end Session

/-! ## Two targets behind one tunnel -/

/-- The backend whose requests with authorization go through `network`, in the time that they would
have taken. -/
def Backend.retryingOver (backend : Backend σ κ χ) (network : Network) : Backend σ κ χ :=
  { backend with
    send := fun proxy request authorization outside =>
      let answered := backend.send proxy request authorization outside
      match authorization with
      | none => answered
      | some header => ((network.send proxy request (some header), answered.1.2), answered.2) }

theorem Network.Accepts.alike
    {network : Network} {proxy : Url} {request : Request}
    {authorization : Option HeaderValue} {reply : ConnectReply}
    (haccepts : network.Accepts proxy request authorization reply)
    (backend : Backend σ κ χ) (target other : Response) :
    (backend.retryingOver (network.answering target)).Alike proxy request
      (target.behind reply) (other.behind reply)
      (backend.retryingOver (network.answering other)) where
  library := rfl
  now := rfl
  plain _ _ := rfl
  delay _ _ authorization _ := by cases authorization <;> rfl
  later _ _ authorization _ := by cases authorization <;> rfl
  first header _ := haccepts.send_answering target (some header)
  second header _ := haccepts.send_answering other (some header)

/-- Two exchanges that were answered with `first` and with `second` tell the same about the
proxy. -/
structure Agree (proxy : Url) (first second : Response)
    (exchange other : Except Failure Response × Session σ κ χ) : Prop where
  results :
    (exchange.1 = .ok first ∧ other.1 = .ok second) ∨
      ∃ failure opposite, exchange.1 = .error failure ∧ other.1 = .error opposite ∧
        failure.kind = opposite.kind
  steps : steps exchange.2.calls = steps other.2.calls
  kept : exchange.2.cache.get? proxy.proxyKey = other.2.cache.get? proxy.proxyKey

namespace Session

section

variable {proxy : Url} {request : Request} {first second : Response}
  {backend opposite : Backend σ κ χ} {settings : Settings} {files : FileSystem}
  {session : Session σ κ χ}

theorem Alike.agree
    (hbackends : backend.Alike proxy request.stripped first second opposite)
    (htoken : first.offeredToken? = second.offeredToken?)
    (hrequired : first.isAuthRequired = second.isAuthRequired)
    (hretried :
      session.Retried (session.authenticate backend settings files proxy request).2) :
    Agree proxy first second
      (session.authenticate backend settings files proxy request)
      (session.authenticate opposite settings files proxy request) := by
  obtain ⟨hresults, hafter⟩ :=
    Alike.authenticate hbackends (.refl session) htoken hrequired settings files
  refine ⟨?_, hafter.steps, congrArg (·.get? proxy.proxyKey) hafter.cache⟩
  generalize hexchange : (session.authenticate backend settings files proxy request).1 = result
    at hresults
  generalize hother : (session.authenticate opposite settings files proxy request).1 = opposed
    at hresults
  cases hresults with
  | own => exact .inl ⟨rfl, rfl⟩
  | failed hkind => exact .inr ⟨_, _, rfl, rfl, hkind⟩
  | same =>
      cases result with
      | error failure => exact .inr ⟨_, _, rfl, rfl, rfl⟩
      | ok taken =>
          have hended := ended_of_ok backend hexchange
          have hopposite := ended_of_ok opposite hother
          obtain ⟨_, _, _, _, _, _, hverdict⟩ :=
            verdict_of_retried hbackends.first hended hretried
          obtain ⟨_, _, _, _, _, _, hopposed⟩ :=
            verdict_of_retried hbackends.second hopposite
              (retried_opposite hbackends hended hopposite hretried)
          exact .inl
            ⟨congrArg _ (hverdict.taken_eq hexchange), congrArg _ (hopposed.taken_eq hother)⟩

/-- The steps with a token that are new are the same if all steps are. -/
theorem stepped_mem_iff
    {after other : Session σ κ χ} {calls otherCalls : List (Call κ χ)}
    (hcalls : after.calls = session.calls ++ calls)
    (hother : other.calls = session.calls ++ otherCalls)
    (hsteps : steps after.calls = steps other.calls)
    (context : χ) (token : Token) (answer : Except NegotiateError Step) :
    .stepped context (some token) answer ∈ calls ↔
      .stepped context (some token) answer ∈ otherCalls := by
  rw [hcalls, hother, steps_append, steps_append, List.append_cancel_left_eq] at hsteps
  have hmem (calls : List (Call κ χ)) :
      .stepped context (some token) answer ∈ steps calls ↔
        .stepped context (some token) answer ∈ calls := by
    simp [steps, Call.isStep]
  rw [← hmem calls, ← hmem otherCalls, hsteps]

theorem Agree.isAuthRequired_eq
    (hbackends : backend.Alike proxy request.stripped first second opposite)
    (hended : session.isCutOff backend settings files proxy request = false)
    (hopposite : session.isCutOff opposite settings files proxy request = false)
    (hretried :
      session.Retried (session.authenticate backend settings files proxy request).2)
    (hagree :
      Agree proxy first second
        (session.authenticate backend settings files proxy request)
        (session.authenticate opposite settings files proxy request)) :
    first.isAuthRequired = second.isAuthRequired := by
  obtain ⟨calls, context, later, rejected, hcalls, hstepped, hverdict⟩ :=
    verdict_of_retried hbackends.first hended hretried
  obtain ⟨otherCalls, opposed, otherLater, otherRejected, hotherCalls, hotherStepped, hother⟩ :=
    verdict_of_retried hbackends.second hopposite
      (retried_opposite hbackends hended hopposite hretried)
  have hsteps (stepping : χ) (token : Token) (answer : Except NegotiateError Step) :
      .stepped stepping (some token) answer ∈ later ↔
        .stepped stepping (some token) answer ∈ otherLater := by
    rw [← hstepped, ← hotherStepped]
    exact stepped_mem_iff hcalls hotherCalls hagree.steps stepping token answer
  cases hfirst : first.isAuthRequired with
  | true =>
      cases hsecond : second.isAuthRequired with
      | true => rfl
      | false => exact (hverdict.differ hother hfirst hsecond hagree.results hsteps).elim
  | false =>
      cases hsecond : second.isAuthRequired with
      | false => rfl
      | true =>
          refine (hother.differ hverdict hsecond hfirst ?_ fun _ _ _ =>
            (hsteps _ _ _).symm).elim
          exact hagree.results.imp And.symm fun ⟨failure, opposite, h, hopposite, hkind⟩ =>
            ⟨opposite, failure, hopposite, h, hkind.symm⟩

end

/-- Two targets behind the tunnel that the proxy has granted for the second request tell the same
about the proxy if both or neither of them answer with the status by which a proxy refuses its
client; and, unless a deadline comes in between, only then. -/
theorem authenticate_agree_iff
    (backend : Backend σ κ χ) (settings : Settings) (files : FileSystem)
    (session : Session σ κ χ) {network : Network} {proxy : Url} {request : Request}
    {authorization : Option HeaderValue} {reply : ConnectReply}
    (haccepts : network.Accepts proxy request.stripped authorization reply)
    (target other : Response)
    (hretried :
      session.Retried
        (session.authenticate (backend.retryingOver (network.answering target))
          settings files proxy request).2) :
    let one := backend.retryingOver (network.answering target)
    let two := backend.retryingOver (network.answering other)
    let agree :=
      Agree proxy (target.behind reply) (other.behind reply)
        (session.authenticate one settings files proxy request)
        (session.authenticate two settings files proxy request)
    ((target.status.code = 407 ↔ other.status.code = 407) → agree) ∧
    (session.isCutOff one settings files proxy request = false →
      session.isCutOff two settings files proxy request = false →
        agree → (target.status.code = 407 ↔ other.status.code = 407)) := by
  have hbackends := haccepts.alike backend target other
  have hstatus :
      (target.status.code = 407 ↔ other.status.code = 407) ↔
        (target.behind reply).isAuthRequired = (other.behind reply).isAuthRequired := by
    rw [Bool.eq_iff_iff, Response.isAuthRequired_iff, Response.isAuthRequired_iff]
    rfl
  refine ⟨fun hsame => ?_, fun hended hopposite hagree => ?_⟩
  · exact Alike.agree hbackends rfl (hstatus.mp hsame) hretried
  · exact hstatus.mpr (Agree.isAuthRequired_eq hbackends hended hopposite hretried hagree)

end Session

/-! ### A target that poses as the proxy -/

namespace Rehearsal

def securely : Request := .of .get { targetUrl with scheme := "https" }

def grant : Connect.Stream := ⟨Utf8.encode "HTTP/1.1 200 OK\r\n\r\n", none, none, []⟩

theorem establish_grant :
    (Connect.establish "target:443" none grant).1 = .ok ⟨.ok, .empty, []⟩ := by
  with_unfolding_all rfl

/-- A network whose proxy grants every tunnel. -/
def granting : Network :=
  { Network.unreachable with connect := fun _ => .ok grant }

theorem granting_accepts :
    granting.Accepts proxyUrl securely.stripped none ⟨.ok, .empty, []⟩ where
  tunnelled := by decide
  answered := ⟨"target:443", "proxy:3128", grant, rfl, rfl, rfl, establish_grant⟩
  granted := by decide
  asked := ⟨_, _, _, rfl, rfl⟩

def notFound : Status := ⟨404, by decide⟩

def answeringWith (status : Status) : Response := ⟨status, .empty, [], .empty⟩

/-- The proxy asks once and then grants a tunnel to a target that answers with `status`. -/
def tunnelling (status : Status) : Backend Stage Handle Context :=
  negotiating.retryingOver (granting.answering (answeringWith status))

def tunnelled (status : Status) : Except Failure Response × Session Stage Handle Context :=
  (Session.start .start).authenticate (tunnelling status) lenient noFiles proxyUrl securely

theorem negotiating_alike (status : Status) :
    negotiating.Alike proxyUrl securely.stripped (.ofProxy .ok .empty [])
      (answeringWith status) (tunnelling status) where
  library := rfl
  now := rfl
  plain _ _ := rfl
  delay _ _ authorization _ := by cases authorization <;> rfl
  later _ _ authorization _ := by cases authorization <;> rfl
  first _ _ := rfl
  second header _ := granting_accepts.send_answering (answeringWith status) (some header)

def letThrough : Except Failure Response × Session Stage Handle Context :=
  (Session.start .start).authenticate negotiating lenient noFiles proxyUrl securely

theorem letThrough_retried : (Session.start Stage.start).Retried letThrough.2 := by
  have hsent :
      letThrough.2.calls[4]? =
        some (.sent proxyUrl securely
          (some ⟨Utf8.encode "Negotiate SFRUUC9wcm94eXx8bGVnMQ==", rfl, true⟩)
          (.ok (.ofProxy .ok .empty []))) := by
    rfl
  exact ⟨_, rfl, _, _, _, _, List.mem_of_getElem? hsent⟩

theorem tunnelled_retried (status : Status) :
    (Session.start Stage.start).Retried (tunnelled status).2 :=
  Session.retried_opposite (negotiating_alike status) rfl rfl letThrough_retried

theorem targets_agree_and_disagree :
    Agree proxyUrl (answeringWith .ok) (answeringWith notFound)
        (tunnelled .ok) (tunnelled notFound) ∧
      ¬ Agree proxyUrl (answeringWith .ok) (answeringWith .proxyAuthenticationRequired)
        (tunnelled .ok) (tunnelled .proxyAuthenticationRequired) := by
  have hpair (status : Status) :=
    Session.authenticate_agree_iff negotiating lenient noFiles (.start .start)
      granting_accepts (answeringWith .ok) (answeringWith status) (tunnelled_retried .ok)
  refine ⟨(hpair _).1 (by decide), fun hagree => ?_⟩
  exact absurd ((hpair _).2 rfl rfl hagree) (by decide)

end Rehearsal
end ProxyHandshake
