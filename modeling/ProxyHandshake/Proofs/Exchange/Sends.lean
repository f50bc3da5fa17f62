import ProxyHandshake.Proofs.Exchange.Stages
import ProxyHandshake.Proofs.Header

/-!
# What an exchange sends

A request goes out without authorization, and at most once more: then with the first token of a
context that was opened for the proxy in the same exchange.  A deadline leaves out the end of what
would have been sent, and nothing else.
-/

namespace ProxyHandshake

variable {σ κ χ : Type}

/-! ## Requests among the calls -/

/-- A request that was sent, and what came back. -/
structure Sending where
  proxy : Url
  request : Request
  authorization : Option HeaderValue
  result : Except TransportError Response

def Sending.call (sending : Sending) : Call κ χ :=
  .sent sending.proxy sending.request sending.authorization sending.result

def Call.sending? : Call κ χ → Option Sending
  | .sent proxy request authorization result => some ⟨proxy, request, authorization, result⟩
  | .acquired _ | .initiated .. | .stepped .. | .closed _ => none

/-- What was sent, in order. -/
def sendings (calls : List (Call κ χ)) : List Sending :=
  calls.filterMap Call.sending?

@[simp] theorem sendings_nil : sendings ([] : List (Call κ χ)) = [] := rfl

@[simp] theorem sendings_append (calls later : List (Call κ χ)) :
    sendings (calls ++ later) = sendings calls ++ sendings later :=
  List.filterMap_append

@[simp] theorem sendings_cons (call : Call κ χ) (calls : List (Call κ χ)) :
    sendings (call :: calls) = call.sending?.toList ++ sendings calls := by
  cases call <;> rfl

@[simp] theorem Sending.sending?_call (sending : Sending) :
    (sending.call : Call κ χ).sending? = some sending := rfl

theorem sendings_mono {calls later : List (Call κ χ)} (hinitial : calls <+: later) :
    sendings calls <+: sendings later :=
  hinitial.filterMap Call.sending?

theorem Session.Opening.sendings_eq
    {handle : κ} {target : ServicePrincipal} {result : Except NegotiateError (χ × Step)}
    {calls : List (Call κ χ)} (hopening : Session.Opening handle target result calls) :
    sendings calls = [] := by
  cases hopening <;> rfl

theorem sendings_acquisition
    (backend : Backend σ κ χ) (credentials : Credentials) (key : String) (cache : Cache κ)
    (outside : σ) :
    sendings (backend.acquisition credentials key cache outside) = [] := by
  unfold Backend.acquisition
  split <;> rfl

theorem Verdict.sendings_eq
    {isStrict : Bool} {proxy : Url} {context : χ} {response : Response}
    {calls : List (Call κ χ)} {result : Except Failure Response} {rejected : Bool}
    (hverdict : Verdict isStrict proxy context response calls result rejected) :
    sendings calls = [] := by
  cases hverdict <;> rfl

theorem Token.bytes_header
    {token : Token} {header : HeaderValue} (hheader : token.header = .ok header) :
    token.bytes ≠ [] ∧
      header.bytes = Utf8.encode ("Negotiate " ++ Base64.encode token.bytes) := by
  unfold Token.header at hheader
  split at hheader
  · cases hheader
  · next hempty =>
    refine ⟨by simpa [Token.isEmpty] using hempty, ?_⟩
    split at hheader
    · next value hvalue =>
      cases hheader
      have hbytes : value.bytes = Utf8.encode token.headerText := HeaderValue.bytes_of_ofBytes? hvalue
      exact hbytes
    · cases hheader

/-! ## Sending again -/

/-- What a request that is sent again rests on. -/
structure Warranted (backend : Backend σ κ χ) (settings : Settings) (files : FileSystem)
    (session : Session σ κ χ) (proxy : Url) (request : Request) (calls : List (Call κ χ))
    (first second : Sending) : Prop where
  sameProxy : second.proxy = first.proxy
  sameRequest : second.request = first.request
  asked :
    ∃ response, first.result = .ok response ∧ response.status.code = 407 ∧
      (Challenge.firstNegotiate? response.challenges).isSome
  usable : settings.credentials.validate files = .ok ()
  opened :
    ∃ target handle context opening token header before after,
      ServicePrincipal.ofProxy proxy settings.service = .ok target ∧
      (backend.slot settings.credentials proxy.proxyKey session.cache
        (backend.opening proxy request session.outside).2).1 = .ok handle ∧
      calls =
        before ++ .initiated handle target (.ok context) ::
          .stepped context none (.ok opening) :: second.call :: after ∧
      opening.token? = some token ∧ token.bytes ≠ [] ∧
      second.authorization = some header ∧
      header.bytes = Utf8.encode ("Negotiate " ++ Base64.encode token.bytes)

/-- The ways in which an exchange has sent its request so far. -/
inductive Sends (backend : Backend σ κ χ) (settings : Settings) (files : FileSystem)
    (session : Session σ κ χ) (proxy : Url) (request : Request) (calls : List (Call κ χ)) :
    Prop
  | never (hsent : sendings calls = [])
  | once (result : Except TransportError Response)
      (hproxy : validateProxy proxy = .ok ()) (hrequest : request.validate = .ok ())
      (hsent : sendings calls = [⟨proxy, request.stripped, none, result⟩])
  | twice (result : Except TransportError Response) (second : Sending)
      (hproxy : validateProxy proxy = .ok ()) (hrequest : request.validate = .ok ())
      (hsent : sendings calls = [⟨proxy, request.stripped, none, result⟩, second])
      (hwarranted :
        Warranted backend settings files session proxy request calls
          ⟨proxy, request.stripped, none, result⟩ second)

section

variable {backend : Backend σ κ χ} {settings : Settings} {files : FileSystem}
  {session : Session σ κ χ} {proxy : Url} {request : Request} {calls : List (Call κ χ)}

/-- Calls that come before others and have sent as much end behind the same request. -/
theorem Warranted.of_initial
    {first second : Sending} {sooner : List (Call κ χ)}
    (hwarranted : Warranted backend settings files session proxy request calls first second)
    (hinitial : sooner <+: calls) (hall : (sendings calls).length ≤ (sendings sooner).length) :
    Warranted backend settings files session proxy request sooner first second := by
  obtain ⟨target, handle, context, opening, token, header, before, after, hnamed, hslot, hcalls,
    htoken, hbytes, hheader, htext⟩ := hwarranted.opened
  let early := before ++ [.initiated handle target (.ok context),
    .stepped context none (.ok opening)]
  have hsplit : calls = early ++ [second.call] ++ after := by
    simp [hcalls, early]
  have hreached : early ++ [second.call] <+: sooner := by
    rcases List.prefix_or_prefix_of_prefix (hsplit ▸ List.prefix_append _ after) hinitial with
      hlonger | hshorter
    · exact hlonger
    · rcases List.prefix_concat_iff.mp hshorter with heq | hearly
      · exact heq ▸ List.prefix_rfl
      · -- The second request would be missing.
        have hfewer := (sendings_mono hearly).length_le
        rw [hsplit] at hall
        simp only [sendings_append, sendings_cons, Sending.sending?_call, List.length_append,
          Option.toList_some, sendings_nil, List.length_cons, List.length_nil] at hall
        omega
  obtain ⟨rest, hrest⟩ := hreached
  exact
    { sameProxy := hwarranted.sameProxy
      sameRequest := hwarranted.sameRequest
      asked := hwarranted.asked
      usable := hwarranted.usable
      opened :=
        ⟨target, handle, context, opening, token, header, before, rest, hnamed, hslot,
          by simp [← hrest, early], htoken, hbytes, hheader, htext⟩ }

theorem Sends.of_initial
    {sooner : List (Call κ χ)}
    (hsends : Sends backend settings files session proxy request calls)
    (hinitial : sooner <+: calls) :
    Sends backend settings files session proxy request sooner := by
  have hsooner := sendings_mono hinitial
  cases hsends with
  | never hsent =>
      rw [hsent] at hsooner
      exact .never (List.prefix_nil.mp hsooner)
  | once result hproxy hrequest hsent =>
      rw [hsent] at hsooner
      rcases List.prefix_cons_iff.mp hsooner with hnone | ⟨rest, heq, hrest⟩
      · exact .never hnone
      · rw [List.prefix_nil.mp hrest] at heq
        exact .once result hproxy hrequest heq
  | twice result second hproxy hrequest hsent hwarranted =>
      have hlength := congrArg List.length hsent
      rw [hsent] at hsooner
      rcases List.prefix_cons_iff.mp hsooner with hnone | ⟨rest, heq, hrest⟩
      · exact .never hnone
      · rcases List.prefix_cons_iff.mp hrest with hone | ⟨more, hmore, hend⟩
        · rw [hone] at heq
          exact .once result hproxy hrequest heq
        · rw [List.prefix_nil.mp hend] at hmore
          rw [hmore] at heq
          refine .twice result second hproxy hrequest heq (hwarranted.of_initial hinitial ?_)
          simp [hlength, heq]

/-- Closing a context sends nothing. -/
theorem Sends.closed
    (hsends : Sends backend settings files session proxy request calls) (context : χ) :
    Sends backend settings files session proxy request (calls ++ [.closed context]) := by
  have hsame : sendings (calls ++ [.closed context]) = sendings calls := by
    simp [Call.sending?]
  cases hsends with
  | never hsent => exact .never (hsame.trans hsent)
  | once result hproxy hrequest hsent =>
      exact .once result hproxy hrequest (hsame.trans hsent)
  | twice result second hproxy hrequest hsent hwarranted =>
      refine .twice result second hproxy hrequest (hsame.trans hsent)
        { hwarranted with opened := ?_ }
      obtain ⟨target, handle, first, opening, token, header, before, after, hnamed, hslot,
        hcalls, hrest⟩ := hwarranted.opened
      exact
        ⟨target, handle, first, opening, token, header, before, after ++ [.closed context],
          hnamed, hslot, by simp [hcalls], hrest⟩

/-! ## Whole exchanges -/

/-- Once there is a handle, at most one request is sent, behind the opening of a context. -/
theorem HandleUse.sendings_cases
    {isStrict : Bool} {target : ServicePrincipal} {handle : κ} {counted : List Counter}
    {result : Except Failure Response} {rejected : Bool}
    (huse : HandleUse isStrict proxy request target handle calls counted result rejected) :
    sendings calls = [] ∨
      ∃ context opening token header answer later,
        calls =
          .initiated handle target (.ok context) :: .stepped context none (.ok opening) ::
            .sent proxy request (some header) answer :: later ∧
        opening.token? = some token ∧ token.header = .ok header ∧ sendings later = [] := by
  cases huse with
  | unopened hopening => exact .inl hopening.sendings_eq
  | tokenless hopening | unsendable hopening =>
      exact .inl (by simp [hopening.sendings_eq, Call.sending?])
  | unanswered hopening htoken hheader =>
      cases hopening
      exact .inr ⟨_, _, _, _, _, [.closed _], rfl, htoken, hheader, rfl⟩
  | answered hopening htoken hheader hverdict =>
      cases hopening
      refine .inr ⟨_, _, _, _, _, _, rfl, htoken, hheader, ?_⟩
      simp [hverdict.sendings_eq, Call.sending?]

theorem Challenged.offered
    {outside : σ} {response : Response} {target : ServicePrincipal}
    (hchallenged :
      Challenged backend settings files outside proxy request response target) :
    response.status.code = 407 ∧ (Challenge.firstNegotiate? response.challenges).isSome := by
  have hasked := hchallenged.asked
  simp only [Progress.asksToNegotiate, Response.isAuthRequired, Bool.and_eq_true,
    decide_eq_true_eq] at hasked
  exact ⟨by rw [hasked.1]; rfl, hasked.2⟩

/-- An exchange without a deadline sends in one of the ways of `Sends`. -/
theorem Course.sends
    {counted : List Counter} {result : Except Failure Response} {cache : Cache κ}
    (hcourse :
      Course backend settings files session.outside session.cache proxy request
        calls counted result cache) :
    Sends backend settings files session proxy request calls := by
  cases hcourse with
  | invalidProxy | invalidRequest => exact .never rfl
  | unsent hproxy hrequest | unchallenged hproxy hrequest | unusable hproxy hrequest
  | nameless hproxy hrequest => exact .once _ hproxy hrequest rfl
  | @unacquired response _ _ _ _ hchallenged =>
      refine .once (.ok response) hchallenged.validProxy hchallenged.validRequest ?_
      simp [sendings_acquisition, Call.sending?]
  | @used response target handle calls _ _ _ later hlater hchallenged hslot huse =>
      rcases huse.sendings_cases with hnone | ⟨context, opening, token, header, answer, rest,
        hcalls, htoken, hheader, hrest⟩
      · refine .once (.ok response) hchallenged.validProxy hchallenged.validRequest ?_
        simp [sendings_acquisition, Call.sending?, hnone]
      · refine .twice (.ok response) ⟨proxy, request.stripped, some header, answer⟩
          hchallenged.validProxy hchallenged.validRequest ?_ ?_
        · simp [sendings_acquisition, Call.sending?, hcalls, hrest]
        · exact
            { sameProxy := rfl
              sameRequest := rfl
              asked := ⟨response, rfl, hchallenged.offered⟩
              usable := hchallenged.usable
              opened :=
                ⟨target, handle, context, opening, token, header,
                  .sent proxy request.stripped none (.ok response) ::
                    backend.acquisition settings.credentials proxy.proxyKey session.cache later,
                  rest, hchallenged.named, hlater ▸ hslot, by simp [hcalls, Sending.call],
                  htoken, (Token.bytes_header hheader).1, rfl,
                  (Token.bytes_header hheader).2⟩ }

end

namespace Session

variable (backend : Backend σ κ χ)

/-- With any deadline, the calls of an exchange are the first of those that it makes without one,
and then perhaps the closing of its context. -/
theorem calls_authenticate
    (settings : Settings) (files : FileSystem) (session : Session σ κ χ) (proxy : Url)
    (request : Request) {calls : List (Call κ χ)}
    (hcalls :
      (session.run backend
        (.handshake settings files backend.library.isReentrant proxy request)).2.calls =
        session.calls ++ calls) :
    ∃ (sooner : List (Call κ χ)) (held : Option χ),
      sooner <+: calls ∧
      (session.authenticate backend settings files proxy request).2.calls =
        session.calls ++ (sooner ++ (held.map Call.closed).toList) := by
  unfold authenticate
  cases settings.timeout with
  | none => exact ⟨calls, none, List.prefix_rfl, by simp [hcalls]⟩
  | some limit =>
      simp only [calls_countResult]
      generalize hprogram :
        Exchange.handshake settings files backend.library.isReentrant proxy request = program
        at hcalls ⊢
      generalize hwithin :
        session.runWithin backend limit.nanoseconds program 0 none = outcome
      have hrun := hwithin ▸ runWithin_cases backend limit.nanoseconds program 0 none session
      cases hrun with
      | ended => exact ⟨calls, none, List.prefix_rfl, by simp [hcalls]⟩
      | cut here rest held hsooner hrest =>
          -- Going on from where the deadline came would have made the remaining calls.
          obtain ⟨sooner, hhere⟩ := hsooner
          have hlater := calls_prefix_run backend rest here
          rw [hrest, hcalls, ← hhere, List.prefix_append_right_inj] at hlater
          refine ⟨sooner, held, hlater, ?_⟩
          rw [calls_closeHeld, ← hhere, List.append_assoc]

theorem authenticate_sends
    (settings : Settings) (files : FileSystem) (session : Session σ κ χ) (proxy : Url)
    (request : Request) :
    ∃ calls,
      (session.authenticate backend settings files proxy request).2.calls =
        session.calls ++ calls ∧
      Sends backend settings files session proxy request calls := by
  obtain ⟨calls, _, _, _, after, hrun, hcourse, hgrows⟩ :=
    run_handshake backend settings files backend.library.isReentrant proxy request session
  obtain ⟨sooner, held, hinitial, hcalls⟩ :=
    calls_authenticate backend settings files session proxy request
      (by rw [hrun]; exact hgrows.calls_eq)
  have hsooner := hcourse.sends.of_initial hinitial
  refine ⟨_, hcalls, ?_⟩
  cases held with
  | none => simpa using hsooner
  | some context => exact hsooner.closed context

/-- Whatever the library and the proxy do, a request is sent at most twice: first without
authorization, and again only with the first token of a context for the proxy that was opened
after the proxy had asked to negotiate. -/
theorem authenticate_sends_at_most_twice
    (settings : Settings) (files : FileSystem) (session : Session σ κ χ) (proxy : Url)
    (request : Request) :
    ∃ calls,
      (session.authenticate backend settings files proxy request).2.calls =
        session.calls ++ calls ∧
      (sendings calls).length ≤ 2 ∧
      (validateProxy proxy ≠ .ok () ∨ request.validate ≠ .ok () → sendings calls = []) ∧
      (∀ first ∈ (sendings calls).head?,
        first.proxy = proxy ∧ first.request = request.stripped ∧
          first.authorization = none) ∧
      ∀ first second, sendings calls = [first, second] →
        Warranted backend settings files session proxy request calls first second := by
  obtain ⟨calls, hcalls, hsends⟩ :=
    authenticate_sends backend settings files session proxy request
  refine ⟨calls, hcalls, ?_⟩
  cases hsends with
  | never hsent => simp [hsent]
  | once result hproxy hrequest hsent => simp [hsent, hproxy, hrequest]
  | twice result second hproxy hrequest hsent hwarranted =>
      simp [hsent, hproxy, hrequest, hwarranted]

end Session
end ProxyHandshake
