import ProxyHandshake.Proofs.Exchange.Course

/-!
# The stages of an exchange

The program of an exchange, run in a session, goes in one of the ways of `Course`.  Each part of the
program has one lemma that says what running it adds to the session, and the lemma of the whole is
put together from these.
-/

namespace ProxyHandshake

variable {σ κ χ : Type}

/-! ## The checks, told by the text that the proxy sent -/

theorem wantsContinuation_observe
    (progress : Progress) {response : Response} (hrequired : response.isAuthRequired = true) :
    (progress.observe response).wantsContinuation = response.offeredToken?.isSome := by
  simp only [Progress.wantsContinuation, Progress.negotiate?, Progress.observe, hrequired,
    if_true, Response.offeredToken?]
  cases Challenge.firstNegotiate? response.challenges <;> rfl

theorem finalToken_eq (response : Response) :
    Exchange.finalToken response =
      match response.offeredToken? with
      | none => .ok none
      | some text => (Token.ofBase64 text).map some := by
  unfold Exchange.finalToken Response.offeredToken?
  cases hfirst : Challenge.firstNegotiate? response.challenges with
  | none => rfl
  | some challenge =>
      have hnegotiate : challenge.isNegotiate = true := List.find?_some hfirst
      change challenge.negotiateToken = _
      exact if_pos hnegotiate

/-- Checking the proxy, told by the text that it sent. -/
theorem verifyProxy_eq (isStrict : Bool) (context : χ) (response : Response) :
    (Exchange.verifyProxy isStrict context response :
        Exchange κ χ (Except Failure Response)) =
      match response.offeredToken? with
      | none =>
        if isStrict then pure (.error (.negotiation (.noMutualToken response.status)))
        else pure (.ok response)
      | some text =>
        match Token.ofBase64 text with
        | .error cause => pure (.error (.negotiation (.library (.invalidToken cause))))
        | .ok token =>
          Exchange.demand (.step context token) >>= fun answer =>
            pure (response.judged answer) := by
  unfold Exchange.verifyProxy
  rw [finalToken_eq]
  cases response.offeredToken? with
  | none => rfl
  | some text =>
      simp only
      cases Token.ofBase64 text with
      | error cause => rfl
      | ok token =>
          simp only [Except.map]
          congr 1
          funext answer
          rcases answer with e | ⟨_ | token⟩ | token <;> rfl

theorem refused_eq
    (proxy : Url) (progress : Progress) {response : Response}
    (hrequired : response.isAuthRequired = true) :
    (Exchange.refused proxy progress response :
        Exchange κ χ (Except Failure Response)) =
      match response.offeredToken? with
      | some _ => pure (.error (.protocolViolation .secondLeg))
      | none =>
        Exchange.forgetHandle proxy.proxyKey >>= fun _ =>
          pure (.error (.authenticationFailed proxy.text)) := by
  unfold Exchange.refused
  rw [wantsContinuation_observe progress hrequired]
  cases response.offeredToken? <;> rfl

/-! ## What a run adds -/

namespace Session

/-- What a run has added to a session, and the handles that are kept after it. -/
structure Grows (before after : Session σ κ χ) (calls : List (Call κ χ))
    (counted : List Counter) (cache : Cache κ) : Prop where
  calls_eq : after.calls = before.calls ++ calls
  counted_eq : after.counted = before.counted ++ counted
  cache_eq : after.cache = cache

theorem Grows.refl (session : Session σ κ χ) : session.Grows session [] [] session.cache :=
  ⟨(List.append_nil _).symm, (List.append_nil _).symm, rfl⟩

theorem Grows.trans
    {first second third : Session σ κ χ} {calls later : List (Call κ χ)}
    {counted countedLater : List Counter} {cache cacheLater : Cache κ}
    (h : first.Grows second calls counted cache)
    (hnext : second.Grows third later countedLater cacheLater) :
    first.Grows third (calls ++ later) (counted ++ countedLater) cacheLater := by
  refine ⟨?_, ?_, hnext.cache_eq⟩
  · rw [hnext.calls_eq, h.calls_eq, List.append_assoc]
  · rw [hnext.counted_eq, h.counted_eq, List.append_assoc]

variable (backend : Backend σ κ χ)

theorem grows_send
    (session : Session σ κ χ) (proxy : Url) (request : Request)
    (authorization : Option HeaderValue) :
    session.Grows (session.send backend proxy request authorization).2
      [.sent proxy request authorization
        (session.send backend proxy request authorization).1.1] [] session.cache :=
  ⟨rfl, (List.append_nil _).symm, rfl⟩

theorem acquire_answer (session : Session σ κ χ) (credentials : Credentials) :
    (session.acquire backend credentials).1 =
      (backend.library.acquire credentials session.outside).1 := rfl

theorem grows_step (session : Session σ κ χ) (context : χ) (input : Option Token) :
    session.Grows (session.step backend context input).2
      [.stepped context input (session.step backend context input).1] [] session.cache :=
  ⟨rfl, (List.append_nil _).symm, rfl⟩

theorem grows_close (session : Session σ κ χ) (context : χ) :
    session.Grows (session.close backend context) [.closed context] [] session.cache :=
  ⟨rfl, (List.append_nil _).symm, rfl⟩

theorem grows_count (session : Session σ κ χ) (counter : Counter) :
    session.Grows (session.count counter) [] [counter] session.cache :=
  ⟨(List.append_nil _).symm, rfl, rfl⟩

theorem grows_initiate (session : Session σ κ χ) (handle : κ) (target : ServicePrincipal) :
    ∃ calls,
      Opening handle target (session.initiate backend handle target).1 calls ∧
      session.Grows (session.initiate backend handle target).2 calls [] session.cache := by
  obtain ⟨answer, later, calls, hopening, hinitiate⟩ :=
    initiate_opening backend handle target session.outside
  rw [hinitiate session rfl]
  exact ⟨calls, hopening, rfl, (List.append_nil _).symm, rfl⟩

/-- The response of the proxy to the token is taken in one of the ways of `Verdict`. -/
theorem run_verdict
    (isStrict : Bool) (proxy : Url) (progress : Progress) (context : χ) (response : Response)
    (session : Session σ κ χ) :
    ∃ calls result rejected after,
      session.run backend
          (if response.isAuthRequired then .refused proxy progress response
            else .verifyProxy isStrict context response) =
        (result, after) ∧
      Verdict isStrict proxy context response calls result rejected ∧
      session.Grows after calls [] (session.cache.afterUse proxy.proxyKey rejected) := by
  cases hrequired : response.isAuthRequired with
  | true =>
      simp only [if_true]
      rw [refused_eq proxy progress hrequired]
      cases htoken : response.offeredToken? with
      | none =>
          refine ⟨[], _, true, _, rfl, .rejected hrequired htoken, ?_⟩
          exact ⟨(List.append_nil _).symm, (List.append_nil _).symm, rfl⟩
      | some text =>
          exact ⟨[], _, false, _, rfl, .secondLeg hrequired htoken, .refl session⟩
  | false =>
      simp only [Bool.false_eq_true, if_false]
      rw [verifyProxy_eq]
      cases htoken : response.offeredToken? with
      | none =>
          cases isStrict with
          | true =>
              exact ⟨[], _, false, _, rfl, .unproved hrequired htoken rfl,
                .refl session⟩
          | false =>
              exact ⟨[], _, false, _, rfl, .trusted hrequired htoken rfl,
                .refl session⟩
      | some text =>
          simp only
          cases hread : Token.ofBase64 text with
          | error cause =>
              exact ⟨[], _, false, _, rfl, .unreadable hrequired htoken hread,
                .refl session⟩
          | ok token =>
              exact ⟨_, _, false, _, rfl, .checked _ hrequired htoken hread,
                grows_step backend session context (some token)⟩

/-- Sending again is one of the ways of `HandleUse`, less the opening and the closing of the
context. -/
theorem run_resend
    {target : ServicePrincipal} {handle : κ} {context : χ} {first : Step}
    {opening : List (Call κ χ)}
    (hopening : Opening handle target (.ok (context, first)) opening)
    (isStrict : Bool) (proxy : Url) (request : Request) (progress : Progress)
    (session : Session σ κ χ) :
    ∃ calls counted result rejected after,
      session.run backend (.resend isStrict proxy request progress context first) =
        (result, after) ∧
      HandleUse isStrict proxy request target handle
        (opening ++ (calls ++ [.closed context])) counted result rejected ∧
      session.Grows after calls counted (session.cache.afterUse proxy.proxyKey rejected) := by
  unfold Exchange.resend
  cases htoken : first.token? with
  | none => exact ⟨[], [], _, false, _, rfl, .tokenless hopening htoken, .refl session⟩
  | some token =>
      simp only
      cases hheader : token.header with
      | error cause =>
          exact ⟨[], [], _, false, _, rfl, .unsendable hopening htoken hheader,
            .refl session⟩
      | ok header =>
          simp only [run_count_then, run_bind, run_demand, perform]
          have hsend :=
            (grows_count session .retry).trans
              (grows_send backend (session.count .retry) proxy request (some header))
          generalize (session.count .retry).send backend proxy request (some header) = sent
            at hsend ⊢
          rcases sent with ⟨⟨answer | response, delay⟩, sent⟩
          · exact ⟨_, _, _, false, _, rfl, .unanswered hopening htoken hheader, hsend⟩
          · obtain ⟨later, result, rejected, after, hrun, hverdict, hlater⟩ :=
              run_verdict backend isStrict proxy progress.beginRetry context response sent
            rw [hsend.cache_eq] at hlater
            exact ⟨_, _, result, rejected, after, hrun,
              .answered hopening htoken hheader hverdict, hsend.trans hlater⟩

/-! ## Handles -/

theorem run_handleFor (key : String) (credentials : Credentials) (session : Session σ κ χ) :
    ∃ after,
      session.run backend (.handleFor key credentials) =
        ((backend.slot credentials key session.cache session.outside).1, after) ∧
      session.Grows after (backend.acquisition credentials key session.cache session.outside)
        [] (backend.slot credentials key session.cache session.outside).2 := by
  simp only [Exchange.handleFor, run_holding, run_bind, run_demand, perform, Backend.slot,
    Backend.acquisition, Cache.getOrAcquire]
  rcases hlookup : session.cache.lookup key (backend.now session.outside) with ⟨found, cache⟩
  cases found with
  | some handle =>
      exact ⟨_, rfl, (List.append_nil _).symm, (List.append_nil _).symm, rfl⟩
  | none =>
      simp only [run_bind, run_demand, perform, acquire_answer]
      have hacquired :
          session.Grows (acquire backend { session with cache := cache } credentials).2
            [.acquired (backend.library.acquire credentials session.outside).1] [] cache :=
        ⟨rfl, (List.append_nil _).symm, rfl⟩
      cases hanswer : (backend.library.acquire credentials session.outside).1 with
      | error e =>
          rw [hanswer] at hacquired
          exact ⟨_, rfl, hacquired⟩
      | ok acquired =>
          rw [hanswer] at hacquired
          refine ⟨_, rfl, ?_⟩
          exact ⟨hacquired.calls_eq, hacquired.counted_eq, rfl⟩

/-- A negotiation with a handle goes in one of the ways of `HandleUse`. -/
theorem run_negotiate_of_handle
    {settings : Settings} {proxy : Url} {handle : κ} {session held : Session σ κ χ}
    (hhandle :
      session.run backend (.handleFor proxy.proxyKey settings.credentials) =
        (.ok handle, held))
    (request : Request) (progress : Progress) (target : ServicePrincipal) :
    ∃ calls counted result rejected after,
      session.run backend (.negotiate settings proxy request progress target) =
        (result, after) ∧
      HandleUse settings.isStrict proxy request target handle calls counted result rejected ∧
      held.Grows after calls counted (held.cache.afterUse proxy.proxyKey rejected) := by
  unfold Exchange.negotiate
  simp only [run_bind, run_demand, perform, hhandle]
  obtain ⟨opening, hopening, hopened⟩ := grows_initiate backend held handle target
  generalize held.initiate backend handle target = opened at hopening hopened ⊢
  rcases opened with ⟨e | ⟨context, first⟩, opened⟩
  · cases e with
    | credential cause =>
        refine ⟨opening, [], _, true, _, rfl, .unopened hopening, ?_⟩
        exact ⟨hopened.calls_eq, hopened.counted_eq, by rw [← hopened.cache_eq]; rfl⟩
    | negotiation | invalidToken | invalidPrincipal =>
        exact ⟨opening, [], _, false, _, rfl, .unopened hopening, hopened⟩
  · obtain ⟨calls, counted, result, rejected, sent, hrun, huse, hsent⟩ :=
      run_resend backend hopening settings.isStrict proxy request progress opened
    have hclosed := grows_close backend sent context
    rw [hsent.cache_eq, hopened.cache_eq] at hclosed
    simp only [run_bind, run_close_then, run_pure, hrun]
    refine ⟨_, _, result, rejected, _, rfl, huse, ?_⟩
    simpa using hopened.trans (hsent.trans hclosed)

/-- What follows a challenge, up to the end of the exchange. -/
theorem run_challenged
    {proxy : Url} {request : Request} {response : Response} {outside : σ}
    (settings : Settings) (files : FileSystem)
    (hproxy : validateProxy proxy = .ok ()) (hrequest : request.validate = .ok ())
    (hanswer : (backend.opening proxy request outside).1 = .ok response)
    (hasks : Progress.asksToNegotiate response = true)
    (isReentrant : Bool) (progress : Progress) (session : Session σ κ χ)
    (houtside : session.outside = (backend.opening proxy request outside).2) :
    ∃ calls counted result cache after,
      session.run backend
          (.challenged settings files isReentrant proxy request.stripped progress) =
        (result, after) ∧
      Course backend settings files outside session.cache proxy request
        (.sent proxy request.stripped none (.ok response) :: calls) counted result cache ∧
      session.Grows after calls counted cache := by
  unfold Exchange.challenged
  rw [run_count_then]
  have hcount := grows_count session .challenge
  generalize hcounted : session.count .challenge = counted at hcount ⊢
  cases husable : settings.credentials.validate files with
  | error cause =>
      exact ⟨[], _, _, _, _, rfl, .unusable hproxy hrequest hanswer hasks husable, hcount⟩
  | ok =>
      simp only
      cases hnamed : ServicePrincipal.ofProxy proxy settings.service with
      | error cause =>
          exact ⟨[], _, _, _, _, rfl,
            .nameless hproxy hrequest hanswer hasks hnamed, hcount⟩
      | ok target =>
          have hchallenged :
              Challenged backend settings files outside proxy request response target :=
            ⟨hproxy, hrequest, hanswer, hasks, husable, hnamed⟩
          simp only [run_inTurn]
          obtain ⟨held, hhandle, hheld⟩ :=
            run_handleFor backend proxy.proxyKey settings.credentials counted
          have hlater : counted.outside = (backend.opening proxy request outside).2 := by
            rw [← hcounted]
            exact houtside
          rw [hlater, hcount.cache_eq] at hhandle hheld
          have hreached := hcount.trans hheld
          cases hslot : (backend.slot settings.credentials proxy.proxyKey session.cache
              (backend.opening proxy request outside).2).1 with
          | error e =>
              rw [hslot] at hhandle
              refine ⟨_, _, _, _, held, ?_,
                .unacquired rfl hchallenged hslot, hreached⟩
              simp only [Exchange.negotiate, run_bind, hhandle, run_pure]
          | ok handle =>
              rw [hslot] at hhandle
              obtain ⟨calls, countedLater, result, rejected, after, hrun, huse, hgrows⟩ :=
                run_negotiate_of_handle backend hhandle request.stripped progress target
              rw [hheld.cache_eq] at hgrows
              exact ⟨_, _, result, _, after, hrun,
                .used rfl hchallenged hslot huse, hreached.trans hgrows⟩

theorem run_converse
    {proxy : Url} {request : Request}
    (settings : Settings) (files : FileSystem) (isReentrant : Bool)
    (hproxy : validateProxy proxy = .ok ()) (hrequest : request.validate = .ok ())
    (session : Session σ κ χ) :
    ∃ calls counted result cache after,
      session.run backend (.converse settings files isReentrant proxy request.stripped) =
        (result, after) ∧
      Course backend settings files session.outside session.cache proxy request
        calls counted result cache ∧
      session.Grows after calls counted cache := by
  simp only [Exchange.converse, run_bind, run_demand, perform]
  have hsent := grows_send backend session proxy request.stripped none
  have hlater :
      (session.send backend proxy request.stripped none).2.outside =
        (backend.opening proxy request session.outside).2 := rfl
  cases hanswer : (session.send backend proxy request.stripped none).1.1 with
  | error cause =>
      rw [hanswer] at hsent
      exact ⟨_, _, _, _, _, rfl, .unsent hproxy hrequest hanswer, hsent⟩
  | ok response =>
      rw [hanswer] at hsent
      simp only
      cases hasks : Progress.asksToNegotiate response with
      | false => exact ⟨_, _, _, _, _, rfl, .unchallenged hproxy hrequest hanswer hasks, hsent⟩
      | true =>
          obtain ⟨calls, counted, result, cache, after, hrun, hcourse, hgrows⟩ :=
            run_challenged backend settings files hproxy hrequest hanswer hasks isReentrant
              (Progress.start.observe response) _ hlater
          rw [hsent.cache_eq] at hcourse
          exact ⟨_, _, _, _, _, hrun, hcourse, hsent.trans hgrows⟩

/-- Every exchange goes in one of the ways of `Course`. -/
theorem run_handshake
    (settings : Settings) (files : FileSystem) (isReentrant : Bool) (proxy : Url)
    (request : Request) (session : Session σ κ χ) :
    ∃ calls counted result cache after,
      session.run backend (.handshake settings files isReentrant proxy request) =
        (result, after) ∧
      Course backend settings files session.outside session.cache proxy request
        calls counted result cache ∧
      session.Grows after calls counted cache := by
  unfold Exchange.handshake
  cases hproxy : validateProxy proxy with
  | error cause => exact ⟨[], [], _, _, _, rfl, .invalidProxy hproxy, .refl session⟩
  | ok =>
      simp only
      cases hrequest : request.validate with
      | error cause =>
          exact ⟨[], [], _, _, _, rfl, .invalidRequest hrequest, .refl session⟩
      | ok =>
          exact run_converse backend settings files isReentrant hproxy hrequest session

/-! ## Exchanges that are not cut off -/

/-- Whether the deadline ends an exchange. -/
def isCutOff (settings : Settings) (files : FileSystem) (session : Session σ κ χ) (proxy : Url)
    (request : Request) : Bool :=
  match settings.timeout with
  | none => false
  | some limit =>
    (session.runWithin backend limit.nanoseconds
      (.handshake settings files backend.library.isReentrant proxy request) 0 none).1.isNone

section

variable {settings : Settings} {files : FileSystem} {session : Session σ κ χ} {proxy : Url}
  {request : Request}

theorem authenticate_of_ended
    (hended : session.isCutOff backend settings files proxy request = false)
    {result : Except Failure Response} {after : Session σ κ χ}
    (hrun :
      session.run backend
          (.handshake settings files backend.library.isReentrant proxy request) =
        (result, after)) :
    session.authenticate backend settings files proxy request =
      (result, after.countResult result) := by
  unfold isCutOff at hended
  unfold authenticate
  cases htimeout : settings.timeout with
  | none => simp only [hrun]
  | some limit =>
      rw [htimeout] at hended
      simp only at hended ⊢
      have hcases :=
        runWithin_cases backend limit.nanoseconds
          (.handshake settings files backend.library.isReentrant proxy request) 0 none session
      generalize session.runWithin backend limit.nanoseconds _ 0 none = outcome at hended hcases ⊢
      cases hcases with
      | ended => simp only [hrun, resultWithin, Option.getD_some]
      | cut => cases hended

/-- An exchange that is not cut off goes its course. -/
theorem authenticate_course
    (hended : session.isCutOff backend settings files proxy request = false) :
    ∃ calls counted result cache after,
      session.authenticate backend settings files proxy request =
        (result, after.countResult result) ∧
      Course backend settings files session.outside session.cache proxy request
        calls counted result cache ∧
      session.Grows after calls counted cache := by
  obtain ⟨calls, counted, result, cache, after, hrun, hcourse, hgrows⟩ :=
    run_handshake backend settings files backend.library.isReentrant proxy request session
  exact ⟨calls, counted, result, cache, after, authenticate_of_ended backend hended hrun,
    hcourse, hgrows⟩

/-- A deadline never lets an exchange succeed. -/
theorem ended_of_ok
    {taken : Response}
    (htaken : (session.authenticate backend settings files proxy request).1 = .ok taken) :
    session.isCutOff backend settings files proxy request = false := by
  unfold authenticate at htaken
  unfold isCutOff
  cases htimeout : settings.timeout with
  | none => rfl
  | some limit =>
      rw [htimeout] at htaken
      simp only at htaken ⊢
      generalize session.runWithin backend limit.nanoseconds _ 0 none = outcome at htaken ⊢
      rcases outcome with ⟨_ | result, after⟩
      · cases htaken
      · rfl

end

@[simp] theorem calls_countResult
    (session : Session σ κ χ) (result : Except Failure Response) :
    (session.countResult result).calls = session.calls := by
  cases result <;> rfl

end Session
end ProxyHandshake
