import ProxyHandshake.Proofs.Exchange.Rehearsed
import ProxyHandshake.Proofs.Exchange.Sends
import Mathlib.Data.List.Basic

/-!
# The answer to a token

When the request has been sent again and answered, the result follows from the status of the
response, the token that came with its first challenge to negotiate, and what the context makes of
that token.  A strict client takes no response for good without such a token.
-/

namespace ProxyHandshake

variable {σ κ χ : Type}

/-! ## What a context makes of a token -/

theorem Response.judged_eq_ok_iff
    (response : Response) (answer : Except NegotiateError Step) :
    response.judged answer = .ok response ↔ answer = .ok (.complete none) := by
  rcases answer with e | ⟨_ | token⟩ | token <;> simp [Response.judged]

theorem Response.judged_eq_violation_iff
    (response : Response) (answer : Except NegotiateError Step) :
    (∃ cause, response.judged answer = .error (.protocolViolation cause)) ↔
      ∃ step, answer = .ok step ∧ step.token?.isSome := by
  rcases answer with e | ⟨_ | token⟩ | token
  · cases e <;> simp [Response.judged, Failure.ofNegotiate]
  · simp [Response.judged, Step.token?]
  · simp [Response.judged, Step.token?]
  · simp [Response.judged, Step.token?]

theorem Response.judged_error (response : Response) (e : NegotiateError) :
    response.judged (.error e) = .error (.ofNegotiate e) := rfl

theorem Response.eq_of_judged_eq_ok
    {response taken : Response} {answer : Except NegotiateError Step}
    (hjudged : response.judged answer = .ok taken) :
    answer = .ok (.complete none) := by
  rcases answer with e | ⟨_ | token⟩ | token <;> first | rfl | cases hjudged

/-! ## The response, told by what it says -/

/-- What follows a response to the token: `after` are the calls behind it. -/
structure Settled (isStrict : Bool) (proxy : Url) (context : χ) (response : Response)
    (after : List (Call κ χ)) (result : Except Failure Response) : Prop where
  /-- The proxy refuses again. -/
  refused :
    response.status.code = 407 →
      after = [.closed context] ∧
      result =
        .error (if response.offeredToken?.isSome then .protocolViolation .secondLeg
          else .authenticationFailed proxy.text)
  unreadable :
    response.status.code ≠ 407 → ∀ text cause, response.offeredToken? = some text →
      Token.ofBase64 text = .error cause →
        after = [.closed context] ∧
        result = .error (.negotiation (.library (.invalidToken cause)))
  checked :
    response.status.code ≠ 407 → ∀ text token, response.offeredToken? = some text →
      Token.ofBase64 text = .ok token →
        ∃ answer,
          after = [.stepped context (some token) answer, .closed context] ∧
          (result = .ok response ↔ answer = .ok (.complete none)) ∧
          ((∃ cause, result = .error (.protocolViolation cause)) ↔
            ∃ step, answer = .ok step ∧ step.token?.isSome) ∧
          ∀ e, answer = .error e → result = .error (.ofNegotiate e)
  tokenless :
    response.status.code ≠ 407 → response.offeredToken? = none →
      after = [.closed context] ∧
      result =
        if isStrict then .error (.negotiation (.noMutualToken response.status))
        else .ok response
  /-- A strict client that is content has seen the proxy prove itself. -/
  proved :
    isStrict = true → ∀ taken, result = .ok taken →
      ∃ text token, response.offeredToken? = some text ∧ Token.ofBase64 text = .ok token ∧
        .stepped context (some token) (.ok (.complete none)) ∈ after

theorem Response.isAuthRequired_eq_false_iff (response : Response) :
    response.isAuthRequired = false ↔ response.status.code ≠ 407 := by
  rw [← Bool.not_eq_true, response.isAuthRequired_iff]

theorem Verdict.settled
    {isStrict : Bool} {proxy : Url} {context : χ} {response : Response}
    {calls : List (Call κ χ)} {result : Except Failure Response} {rejected : Bool}
    (hverdict : Verdict isStrict proxy context response calls result rejected) :
    Settled isStrict proxy context response (calls ++ [.closed context]) result := by
  cases hverdict with
  | secondLeg hrequired htoken | rejected hrequired htoken =>
      rw [response.isAuthRequired_iff] at hrequired
      exact
        { refused := fun _ => ⟨rfl, by simp [htoken]⟩
          unreadable := fun hpassed => absurd hrequired hpassed
          checked := fun hpassed => absurd hrequired hpassed
          tokenless := fun hpassed => absurd hrequired hpassed
          proved := fun _ _ htaken => nomatch htaken }
  | unreadable hpassed htoken hread =>
      rw [response.isAuthRequired_eq_false_iff] at hpassed
      refine
        { refused := fun hrequired => absurd hrequired hpassed
          unreadable := fun _ text cause hsome herror => ?_
          checked := fun _ text token hsome hok => ?_
          tokenless := fun _ hnone => nomatch htoken.symm.trans hnone
          proved := fun _ _ htaken => nomatch htaken }
      · obtain rfl := Option.some.inj (htoken.symm.trans hsome)
        rw [Except.error.inj (hread.symm.trans herror)]
        exact ⟨rfl, rfl⟩
      · obtain rfl := Option.some.inj (htoken.symm.trans hsome)
        cases hread.symm.trans hok
  | checked answer hpassed htoken hread =>
      rw [response.isAuthRequired_eq_false_iff] at hpassed
      refine
        { refused := fun hrequired => absurd hrequired hpassed
          unreadable := fun _ text cause hsome herror => ?_
          checked := fun _ text token hsome hok => ?_
          tokenless := fun _ hnone => nomatch htoken.symm.trans hnone
          proved := fun _ taken htaken => ?_ }
      · obtain rfl := Option.some.inj (htoken.symm.trans hsome)
        cases hread.symm.trans herror
      · obtain rfl := Option.some.inj (htoken.symm.trans hsome)
        rw [Except.ok.inj (hread.symm.trans hok)]
        refine ⟨answer, rfl, response.judged_eq_ok_iff answer,
          response.judged_eq_violation_iff answer, fun e herror => ?_⟩
        rw [herror, response.judged_error]
      · refine ⟨_, _, htoken, hread, ?_⟩
        rw [Response.eq_of_judged_eq_ok htaken]
        exact List.mem_cons_self
  | unproved hpassed htoken hstrict =>
      rw [response.isAuthRequired_eq_false_iff] at hpassed
      exact
        { refused := fun hrequired => absurd hrequired hpassed
          unreadable := fun _ _ _ hsome => nomatch htoken.symm.trans hsome
          checked := fun _ _ _ hsome => nomatch htoken.symm.trans hsome
          tokenless := fun _ _ => ⟨rfl, by simp [hstrict]⟩
          proved := fun _ _ htaken => nomatch htaken }
  | trusted hpassed htoken hlenient =>
      rw [response.isAuthRequired_eq_false_iff] at hpassed
      exact
        { refused := fun hrequired => absurd hrequired hpassed
          unreadable := fun _ _ _ hsome => nomatch htoken.symm.trans hsome
          checked := fun _ _ _ hsome => nomatch htoken.symm.trans hsome
          tokenless := fun _ _ => ⟨rfl, by simp [hlenient]⟩
          proved := fun hstrict => nomatch hlenient.symm.trans hstrict }

/-! ## Whole exchanges -/

theorem sent_notMem
    {calls : List (Call κ χ)} (hsent : sendings calls = [])
    (proxy : Url) (request : Request) (authorization : Option HeaderValue)
    (result : Except TransportError Response) :
    .sent proxy request authorization result ∉ calls := by
  intro hmem
  have hsending : (⟨proxy, request, authorization, result⟩ : Sending) ∈ sendings calls :=
    List.mem_filterMap.mpr ⟨_, hmem, rfl⟩
  simp [hsent] at hsending

section

variable {backend : Backend σ κ χ} {settings : Settings} {files : FileSystem} {outside : σ}
  {cache cacheAfter : Cache κ} {proxy through : Url} {request sent : Request}
  {target : ServicePrincipal} {handle : κ} {header : HeaderValue} {response : Response}
  {calls before after : List (Call κ χ)} {counted : List Counter}
  {result : Except Failure Response} {rejected : Bool}

/-- What follows an answered token in the use of a handle. -/
theorem HandleUse.settled
    (huse :
      HandleUse settings.isStrict proxy request target handle calls counted result rejected)
    (hcalls : calls = before ++ .sent through sent (some header) (.ok response) :: after) :
    ∃ context opening,
      before =
        [.initiated handle target (.ok context), .stepped context none (.ok opening)] ∧
      Settled settings.isStrict proxy context response after result := by
  have hmem : .sent through sent (some header) (.ok response) ∈ calls := by simp [hcalls]
  cases huse with
  | unopened hopening => exact absurd hmem (sent_notMem hopening.sendings_eq _ _ _ _)
  | tokenless hopening | unsendable hopening =>
      simp [sent_notMem hopening.sendings_eq] at hmem
  | unanswered hopening => simp [sent_notMem hopening.sendings_eq] at hmem
  | answered hopening htoken hheader hverdict =>
      have hlater := sent_notMem hverdict.sendings_eq through sent (some header) (.ok response)
      obtain ⟨hbefore, hsame, hafter⟩ :=
        (List.append_cons_inj_of_notMem (sent_notMem hopening.sendings_eq _ _ _ _)
          (by simp [hlater])).mp hcalls
      subst hbefore hafter
      cases hsame
      cases hopening
      exact ⟨_, _, rfl, hverdict.settled⟩

theorem Course.settled
    (hcourse :
      Course backend settings files outside cache proxy request
        calls counted result cacheAfter)
    (hcalls : calls = before ++ .sent through sent (some header) (.ok response) :: after) :
    ∃ front handle target context opening,
      before =
        front ++
          [.initiated handle target (.ok context), .stepped context none (.ok opening)] ∧
      Settled settings.isStrict proxy context response after result := by
  have hmem : .sent through sent (some header) (.ok response) ∈ calls := by simp [hcalls]
  cases hcourse with
  | invalidProxy | invalidRequest | unsent | unchallenged | unusable | nameless =>
      simp at hmem
  | unacquired => simp [sent_notMem (sendings_acquisition ..)] at hmem
  | @used first target handle use _ _ _ later _ _ _ huse =>
      let front :=
        .sent proxy request.stripped none (.ok first) ::
          backend.acquisition settings.credentials proxy.proxyKey cache later
      have hsplit :
          front ++ use = before ++ .sent through sent (some header) (.ok response) :: after :=
        hcalls
      have hfront : .sent through sent (some header) (.ok response) ∉ front := by
        simp [front, sent_notMem (sendings_acquisition ..)]
      -- The token is answered in the use of the handle and not before it.
      rcases List.append_eq_append_iff.mp hsplit with
        ⟨rest, hbefore, huseCalls⟩ | ⟨rest, hfrontCalls, hrest⟩
      · obtain ⟨context, opening, hrest, hsettled⟩ := huse.settled huseCalls
        exact ⟨front, handle, target, context, opening, hrest ▸ hbefore, hsettled⟩
      · cases rest with
        | nil =>
            have huseCalls :
                use = [] ++ .sent through sent (some header) (.ok response) :: after :=
              hrest.symm
            obtain ⟨_, _, hopened, _⟩ := huse.settled huseCalls
            cases hopened
        | cons call rest =>
            rw [List.cons_append, List.cons.injEq] at hrest
            rw [hfrontCalls, ← hrest.1] at hfront
            simp at hfront

end

namespace Session

/-- When a request that was sent again has been answered, the result of the exchange and the calls
that follow are told by the response, by the settings and by the context that was opened for it. -/
theorem authenticate_settled
    {backend : Backend σ κ χ} {settings : Settings} {files : FileSystem}
    {session : Session σ κ χ} {proxy through : Url} {request sent : Request}
    {header : HeaderValue} {response : Response} {before after : List (Call κ χ)}
    (htimeout : settings.timeout = none)
    (hcalls :
      (session.authenticate backend settings files proxy request).2.calls =
        session.calls ++
          (before ++ .sent through sent (some header) (.ok response) :: after)) :
    ∃ front handle target context opening,
      before =
        front ++
          [.initiated handle target (.ok context), .stepped context none (.ok opening)] ∧
      Settled settings.isStrict proxy context response after
        (session.authenticate backend settings files proxy request).1 := by
  have hended : session.isCutOff backend settings files proxy request = false := by
    simp only [isCutOff, htimeout]
  obtain ⟨calls, counted, result, cache, last, hrun, hcourse, hgrows⟩ :=
    authenticate_course backend hended
  rw [hrun, calls_countResult, hgrows.calls_eq, List.append_cancel_left_eq] at hcalls
  rw [hrun]
  exact hcourse.settled hcalls

end Session

/-! ### A proxy that proves itself -/

namespace Rehearsal

def asking : Response := .ofProxy .proxyAuthenticationRequired challengeHeaders []

/-- A response with a token of one byte. -/
def proven : Response :=
  .ofProxy .ok ⟨[(.proxyAuthenticate, ⟨Utf8.encode "Negotiate AQ==", rfl, false⟩)]⟩ []

/-- The proxy asks once, and its token is the one that the context waits for. -/
def proving : Backend Stage Handle Context :=
  backend ⟨false, [], [.ok [.more .numbered, .accept [1]]]⟩
    (.answers [(.ok asking, ⟨0⟩), (.ok proven, ⟨0⟩)])

def strict : Settings := { lenient with isStrict := true }

/-- An exchange of a strict client with a proxy that proves itself. -/
def provenRun : Except Failure Response × Session Stage Handle Context :=
  (Session.start .start).authenticate proving strict noFiles proxyUrl (.of .get targetUrl)

theorem calls_provenRun :
    provenRun.2.calls =
      (Session.start Stage.start).calls ++
        (provenRun.2.calls.take 4 ++
          .sent proxyUrl (.of .get targetUrl)
            (some ⟨Utf8.encode "Negotiate SFRUUC9wcm94eXx8bGVnMQ==", rfl, true⟩)
            (.ok proven) ::
          provenRun.2.calls.drop 5) := by
  rfl

theorem authenticate_settled_provenRun :
    provenRun.1 = .ok proven ∧
      ∃ context : Context,
        Settled true proxyUrl context proven (provenRun.2.calls.drop 5) provenRun.1 := by
  obtain ⟨_, _, _, context, _, _, hsettled⟩ :=
    Session.authenticate_settled (by rfl) calls_provenRun
  exact ⟨by rfl, context, hsettled⟩

end Rehearsal
end ProxyHandshake
