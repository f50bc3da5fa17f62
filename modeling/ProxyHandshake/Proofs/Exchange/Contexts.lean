import ProxyHandshake.Proofs.Exchange.Holdings
import ProxyHandshake.Proofs.Exchange.Stages

/-!
# The life of a context

An exchange opens at most one context and steps it at most twice: first without input, and then only
with the token with which the proxy answered the request that was sent again.  It closes the context
once, and uses no other.

`Life` says which calls may follow one another in an exchange.  A program lives by it if, whatever it
is told, the calls with which its next demand is met may come next; the program of an exchange does,
and it ends with no context open.  So what has been called for it by then may be called at every point
of it, wherever it is cut off and whatever others do in between.
-/

namespace ProxyHandshake

variable {σ κ χ : Type}

/-- What has become of the context of an exchange. -/
inductive Life (χ : Type) where
  | unopened
  | opened (context : χ)
  /-- The first step has been taken. -/
  | begun (context : χ)
  /-- The proxy has answered the first token with one of its own. -/
  | offered (context : χ) (token : Token)
  | checked (context : χ)
  /-- The context has been closed, or could not be opened. -/
  | over

namespace Life

/-- The context that is open. -/
def context? : Life χ → Option χ
  | .opened context | .begun context | .offered context _ | .checked context => some context
  | .unopened | .over => none

/-- The calls that an exchange may make, and what becomes of its context. -/
inductive Step : Life χ → Call κ χ → Life χ → Prop
  | asked {proxy : Url} {request : Request} {result : Except TransportError Response} :
      Step .unopened (.sent proxy request none result) .unopened
  | acquired {result : Except NegotiateError (Acquired κ)} :
      Step .unopened (.acquired result) .unopened
  | denied {handle : κ} {target : ServicePrincipal} {e : NegotiateError} :
      Step .unopened (.initiated handle target (.error e)) .over
  | opened {handle : κ} {target : ServicePrincipal} {context : χ} :
      Step .unopened (.initiated handle target (.ok context)) (.opened context)
  | begun {context : χ} {answer : Except NegotiateError ProxyHandshake.Step} :
      Step (.opened context) (.stepped context none answer) (.begun context)
  | resent {context : χ} {proxy : Url} {request : Request} {header : HeaderValue}
      {result : Except TransportError Response} :
      Step (.begun context) (.sent proxy request (some header) result) (.begun context)
  | offered {context : χ} {proxy : Url} {request : Request} {header : HeaderValue}
      {response : Response} {text : String} {token : Token}
      (htoken : response.offeredToken? = some text)
      (hread : Token.ofBase64 text = .ok token) :
      Step (.begun context) (.sent proxy request (some header) (.ok response))
        (.offered context token)
  | checked {context : χ} {token : Token} {answer : Except NegotiateError ProxyHandshake.Step} :
      Step (.offered context token) (.stepped context (some token) answer) (.checked context)
  | closed {life : Life χ} {context : χ} (hopen : life.context? = some context) :
      Step life (.closed context) .over

inductive Goes : Life χ → List (Call κ χ) → Life χ → Prop
  | nil (life : Life χ) : Goes life [] life
  | cons {first second last : Life χ} {call : Call κ χ} {calls : List (Call κ χ)}
      (hstep : Step first call second) (hcalls : Goes second calls last) :
      Goes first (call :: calls) last

section

variable {first middle last : Life χ} {calls later : List (Call κ χ)}

theorem Goes.append (hcalls : Goes first calls middle) (hlater : Goes middle later last) :
    Goes first (calls ++ later) last := by
  induction hcalls with
  | nil life => exact hlater
  | cons hstep _ ih => exact .cons hstep (ih hlater)

/-! ## What follows from it -/

theorem Step.accounts {call : Call κ χ} (hstep : Step first call last) :
    Accounts first.context? [call] last.context? := by
  cases hstep with
  | asked | acquired | denied | opened | begun | resent | offered | checked => rfl
  | closed hopen =>
      rw [hopen]
      exact Accounts.close _

/-- Every context that was opened has been closed, but for the one that is open. -/
theorem Goes.accounts (hgoes : Goes first calls last) :
    Accounts first.context? calls last.context? := by
  induction hgoes with
  | nil life => exact .refl _
  | cons hstep _ ih => exact hstep.accounts.trans ih

/-- How many contexts may still be opened. -/
def opensLeft : Life χ → Nat
  | .unopened => 1
  | .opened _ | .begun _ | .offered _ _ | .checked _ | .over => 0

theorem Goes.opened_length (hgoes : Goes first calls last) :
    (ProxyHandshake.opened calls).length + last.opensLeft ≤ first.opensLeft := by
  induction hgoes with
  | nil life => exact Nat.le_of_eq (Nat.zero_add _)
  | @cons first second last call calls hstep _ ih =>
      have hcall :
          (ProxyHandshake.opened [call]).length + second.opensLeft ≤ first.opensLeft := by
        cases hstep with
        | denied | closed hopen => exact Nat.zero_le _
        | asked | acquired | opened | begun | resent | offered | checked =>
            exact Nat.le_refl _
      have hsplit :
          ProxyHandshake.opened (call :: calls) =
            ProxyHandshake.opened [call] ++ ProxyHandshake.opened calls :=
        opened_append [call] calls
      rw [hsplit, List.length_append]
      omega

end

end Life

/-- The input of a step. -/
def Call.stepInput? : Call κ χ → Option (Option Token)
  | .stepped _ input _ => some input
  | .sent .. | .acquired _ | .initiated .. | .closed _ => none

/-- The inputs of all steps, in order. -/
def stepInputs (calls : List (Call κ χ)) : List (Option Token) :=
  calls.filterMap Call.stepInput?

namespace Life

/-- The inputs that the context may still be given, `token` being what the proxy answers. -/
def inputs (token : Token) : Life χ → List (Option Token)
  | .unopened | .opened _ => [none, some token]
  | .begun _ => [some token]
  | .offered _ offer => [some offer]
  | .checked _ | .over => []

theorem Goes.stepInputs
    {first last : Life χ} {calls : List (Call κ χ)} (hgoes : Goes first calls last) :
    ∃ token, ProxyHandshake.stepInputs calls <+: first.inputs token := by
  induction hgoes with
  | nil life => exact ⟨⟨[]⟩, List.nil_prefix⟩
  | @cons first second last call calls hstep _ ih =>
      obtain ⟨token, hinputs⟩ := ih
      cases hstep with
      | asked | acquired | opened | resent => exact ⟨token, hinputs⟩
      | denied | closed hopen =>
          have hnone : ProxyHandshake.stepInputs calls = [] := List.prefix_nil.mp hinputs
          refine ⟨token, ?_⟩
          change ProxyHandshake.stepInputs calls <+: _
          rw [hnone]
          exact List.nil_prefix
      | begun => exact ⟨token, (List.prefix_cons_inj none).mpr hinputs⟩
      | @offered _ _ _ _ _ _ offer => exact ⟨offer, hinputs⟩
      | @checked _ offer => exact ⟨token, (List.prefix_cons_inj (some offer)).mpr hinputs⟩

end Life

/-! ## The calls with which a demand is met -/

/-- What comes of a context when it was opened and its first step was taken. -/
def Life.initiated : Except NegotiateError (χ × ProxyHandshake.Step) → Life χ
  | .ok (context, _) => .begun context
  | .error _ => .over

theorem Session.Opening.goes
    {handle : κ} {target : ServicePrincipal} {answer : Except NegotiateError (χ × Step)}
    {calls : List (Call κ χ)} (hopening : Session.Opening handle target answer calls) :
    Life.unopened.Goes calls (Life.initiated answer) := by
  cases hopening with
  | unopened e => exact .cons .denied (.nil _)
  | unstarted context e => exact .cons .opened (.cons .begun (.cons (.closed rfl) (.nil _)))
  | started context first => exact .cons .opened (.cons .begun (.nil _))

/-- What comes of a context when the request that carries its first token has been answered. -/
def Life.answered (context : χ) : Except TransportError Response → Life χ
  | .error _ => .begun context
  | .ok response =>
    match response.offeredToken?.bind fun text => (Token.ofBase64 text).toOption with
    | none => .begun context
    | some token => .offered context token

theorem Life.context?_answered (context : χ) (result : Except TransportError Response) :
    (Life.answered context result).context? = some context := by
  unfold answered
  split
  · rfl
  · split <;> rfl

theorem Life.goes_answered
    (context : χ) (proxy : Url) (request : Request) (header : HeaderValue)
    (result : Except TransportError Response) :
    (Life.begun context).Goes [(.sent proxy request (some header) result : Call κ χ)]
      (Life.answered context result) := by
  unfold answered
  split
  · exact .cons .resent (.nil _)
  · next response =>
    split
    · exact .cons .resent (.nil _)
    · next token hread =>
      obtain ⟨text, htext, htoken⟩ := Option.bind_eq_some_iff.mp hread
      cases hof : Token.ofBase64 text with
      | error cause =>
          rw [hof] at htoken
          cases htoken
      | ok other =>
          rw [hof] at htoken
          cases htoken
          exact .cons (.offered htext hof) (.nil _)

/-- The calls with which a demand is met, given the answer to it. -/
def Demand.Makes : (demand : Demand κ χ) → demand.Answer → List (Call κ χ) → Prop
  | .send proxy request authorization, result, calls =>
    calls = [.sent proxy request authorization result]
  | .acquire _, result, calls => calls = [.acquired result]
  | .initiate handle target, answer, calls => Session.Opening handle target answer calls
  | .step context token, answer, calls => calls = [.stepped context (some token) answer]
  | .close context, _, calls => calls = [.closed context]
  | .take _, _, calls | .release _, _, calls | .lookup _, _, calls | .store .., _, calls
  | .forget _, _, calls | .count _, _, calls => calls = []

theorem Session.makes_perform
    (backend : Backend σ κ χ) (session : Session σ κ χ) (demand : Demand κ χ) :
    ∃ calls,
      (session.perform backend demand).2.calls = session.calls ++ calls ∧
      demand.Makes (session.perform backend demand).1.1 calls := by
  cases demand with
  | initiate handle target =>
      obtain ⟨answer, later, calls, hopening, hinitiate⟩ :=
        initiate_opening backend handle target session.outside
      refine ⟨calls, ?_, ?_⟩
      · simp only [perform, hinitiate session rfl]
      · simp only [perform, hinitiate session rfl]
        exact hopening
  | send | acquire | step | close => exact ⟨[_], rfl, rfl⟩
  | take | release | lookup | store | forget | count =>
      exact ⟨[], (List.append_nil _).symm, rfl⟩

/-! ## Programs that live by it -/

namespace Exchange

/-- A program that makes only calls that may follow, and leaves its context as `last` says. -/
inductive Lives (last : Life χ → Prop) : Life χ → Exchange κ χ α → Prop
  | done {life : Life χ} (a : α) (hlast : last life) : Lives last life (.done a)
  | ask {life : Life χ} (demand : Demand κ χ) {next : demand.Answer → Exchange κ χ α}
      (later : demand.Answer → Life χ)
      (hgoes : ∀ answer calls, demand.Makes answer calls → life.Goes calls (later answer))
      (hheld : ∀ answer,
        (later answer).context? = Session.heldAfter life.context? demand answer)
      (hnext : ∀ answer, Lives last (later answer) (next answer)) :
      Lives last life (.ask demand next)

section

variable {last : Life χ → Prop} {life : Life χ}

theorem Lives.of_done {a : α} (hlives : Lives last life (.done a : Exchange κ χ α)) :
    last life := by
  cases hlives with
  | done _ hlast => exact hlast

theorem Lives.of_ask
    {demand : Demand κ χ} {next : demand.Answer → Exchange κ χ α}
    (hlives : Lives last life (.ask demand next)) {answer : demand.Answer}
    {calls : List (Call κ χ)} (hmakes : demand.Makes answer calls) :
    ∃ later, life.Goes calls later ∧
      later.context? = Session.heldAfter life.context? demand answer ∧
      Lives last later (next answer) := by
  cases hlives with
  | ask _ later hgoes hheld hnext =>
      exact ⟨later answer, hgoes answer calls hmakes, hheld answer, hnext answer⟩

theorem Lives.bind
    {middle : Life χ → Prop} {program : Exchange κ χ β} {next : β → Exchange κ χ α}
    (hprogram : Lives middle life program)
    (hnext : ∀ later b, middle later → Lives last later (next b)) :
    Lives last life (program >>= next) := by
  change Lives last life (program.bind next)
  induction hprogram with
  | done b hmiddle => exact hnext _ b hmiddle
  | ask demand later hgoes hheld _ ih => exact .ask demand later hgoes hheld ih

/-- A demand that is met without a call. -/
theorem Lives.silent
    (demand : Demand κ χ) {next : demand.Answer → Exchange κ χ α}
    (hcalls : ∀ answer calls, demand.Makes answer calls → calls = [])
    (hheld : ∀ answer, Session.heldAfter life.context? demand answer = life.context?)
    (hnext : ∀ answer, Lives last life (next answer)) : Lives last life (.ask demand next) := by
  refine .ask demand (fun _ => life) ?_ (fun answer => (hheld answer).symm) hnext
  intro answer calls hmakes
  rw [hcalls answer calls hmakes]
  exact .nil life

theorem Lives.close
    {context : χ} {next : Unit → Exchange κ χ α} (hopen : life.context? = some context)
    (hnext : Lives last .over (next ())) : Lives last life (.ask (.close context) next) := by
  refine .ask (.close context) (fun _ => .over) ?_ (fun _ => rfl) (fun _ => hnext)
  rintro _ _ rfl
  exact .cons (.closed hopen) (.nil _)

/-! ### The parts of an exchange -/

theorem lives_handleFor (key : String) (credentials : Credentials) :
    Lives (· = .unopened) .unopened
      (handleFor key credentials : Exchange κ χ (Except NegotiateError κ)) := by
  refine .silent (.take (.handle key)) (fun _ _ => id) (fun _ => rfl) fun _ => ?_
  refine .silent (.lookup key) (fun _ _ => id) (fun _ => rfl) fun found => ?_
  obtain ⟨since, _ | handle⟩ := found
  · refine .ask (.acquire credentials) (fun _ => .unopened) ?_ (fun _ => rfl) fun answer => ?_
    · rintro answer _ rfl
      exact .cons .acquired (.nil _)
    · cases answer with
      | error e =>
          refine .silent (.release (.handle key)) (fun _ _ => id) (fun _ => rfl) fun _ => ?_
          exact .done _ rfl
      | ok acquired =>
          refine .silent (.store key since acquired) (fun _ _ => id) (fun _ => rfl) fun _ => ?_
          refine .silent (.release (.handle key)) (fun _ _ => id) (fun _ => rfl) fun _ => ?_
          exact .done _ rfl
  · refine .silent (.release (.handle key)) (fun _ _ => id) (fun _ => rfl) fun _ => ?_
    exact .done _ rfl

theorem lives_forgetHandle (key : String) :
    Lives (· = life) life (forgetHandle key : Exchange κ χ Unit) := by
  refine .silent (.take (.handle key)) (fun _ _ => id) (fun _ => rfl) fun _ => ?_
  refine .silent (.forget key) (fun _ _ => id) (fun _ => rfl) fun _ => ?_
  refine .silent (.release (.handle key)) (fun _ _ => id) (fun _ => rfl) fun _ => ?_
  exact .done _ rfl

theorem lives_refused
    (hlast : last life) (proxy : Url) (progress : Progress) (response : Response) :
    Lives last life
      (refused proxy progress response : Exchange κ χ (Except Failure Response)) := by
  unfold refused
  split
  · exact .done _ hlast
  · apply (lives_forgetHandle proxy.proxyKey).bind
    rintro _ _ rfl
    exact .done _ hlast

theorem lives_verifyProxy (isStrict : Bool) (context : χ) (response : Response) :
    Lives (·.context? = some context) (Life.answered context (.ok response))
      (verifyProxy isStrict context response : Exchange κ χ (Except Failure Response)) := by
  have hopen := Life.context?_answered context (.ok response)
  rw [verifyProxy_eq]
  split
  · split <;> exact .done _ hopen
  · next text htext =>
    split
    · exact .done _ hopen
    · next token hread =>
      have hanswered : Life.answered context (.ok response) = .offered context token := by
        simp [Life.answered, htext, hread, Except.toOption]
      rw [hanswered]
      refine .ask (.step context token) (fun _ => .checked context) ?_ (fun _ => rfl) fun _ => ?_
      · rintro answer _ rfl
        exact .cons .checked (.nil _)
      · exact .done _ rfl

theorem lives_resend
    (isStrict : Bool) (proxy : Url) (request : Request) (progress : Progress) (context : χ)
    (first : Step) :
    Lives (·.context? = some context) (.begun context)
      (resend isStrict proxy request progress context first :
        Exchange κ χ (Except Failure Response)) := by
  unfold resend
  split
  · exact .done _ rfl
  · split
    · exact .done _ rfl
    · next header _ =>
      refine .silent (.count .retry) (fun _ _ => id) (fun _ => rfl) fun _ => ?_
      refine .ask (.send proxy request (some header)) (Life.answered context) ?_
        (Life.context?_answered context) fun answer => ?_
      · rintro result _ rfl
        exact Life.goes_answered context proxy request header result
      · cases answer with
        | error cause => exact .done _ rfl
        | ok response =>
            change Lives _ _
              (if response.isAuthRequired then refused proxy progress.beginRetry response
                else verifyProxy isStrict context response)
            split
            · have hopen := Life.context?_answered context (.ok response)
              exact lives_refused hopen proxy progress.beginRetry response
            · exact lives_verifyProxy isStrict context response

theorem lives_negotiate
    (settings : Settings) (proxy : Url) (request : Request) (progress : Progress)
    (target : ServicePrincipal) :
    Lives (·.context? = none) .unopened
      (negotiate settings proxy request progress target :
        Exchange κ χ (Except Failure Response)) := by
  have hforget :
      Lives (· = .over) (.over : Life χ) (forgetHandle proxy.proxyKey : Exchange κ χ Unit) :=
    lives_forgetHandle proxy.proxyKey
  unfold negotiate
  apply (lives_handleFor proxy.proxyKey settings.credentials).bind
  rintro _ answer rfl
  cases answer with
  | error e => exact .done _ rfl
  | ok handle =>
      refine .ask (.initiate handle target) Life.initiated (fun _ _ => Session.Opening.goes)
        ?_ ?_
      · intro answer
        rcases answer with e | ⟨context, opening⟩ <;> rfl
      · intro answer
        rcases answer with e | ⟨context, opening⟩
        · cases e with
          | credential cause =>
              apply hforget.bind
              rintro _ _ rfl
              exact .done _ rfl
          | negotiation | invalidToken | invalidPrincipal => exact .done _ rfl
        · apply (lives_resend settings.isStrict proxy request progress context opening).bind
          intro life result hopen
          exact .close hopen (.done result rfl)

theorem lives_inTurn
    (isReentrant : Bool) (proxy : Url) {body : Exchange κ χ α} (hbody : Lives last life body) :
    Lives last life (inTurn isReentrant proxy body) := by
  cases isReentrant with
  | true => exact hbody
  | false =>
      refine .silent (.take (.turn proxy.proxyKey)) (fun _ _ => id) (fun _ => rfl) fun _ => ?_
      apply hbody.bind
      intro later a hlast
      refine .silent (.release (.turn proxy.proxyKey)) (fun _ _ => id) (fun _ => rfl) fun _ => ?_
      exact .done a hlast

theorem lives_challenged
    (settings : Settings) (files : FileSystem) (isReentrant : Bool) (proxy : Url)
    (request : Request) (progress : Progress) :
    Lives (·.context? = none) .unopened
      (challenged settings files isReentrant proxy request progress :
        Exchange κ χ (Except Failure Response)) := by
  refine .silent (.count .challenge) (fun _ _ => id) (fun _ => rfl) fun _ => ?_
  split
  · exact .done _ rfl
  · split
    · exact .done _ rfl
    · next target _ =>
      exact lives_inTurn isReentrant proxy (lives_negotiate settings proxy request progress target)

end

/-- An exchange lives by it, and has no context open when it ends. -/
theorem lives_handshake
    (settings : Settings) (files : FileSystem) (isReentrant : Bool) (proxy : Url)
    (request : Request) :
    Lives (·.context? = none) .unopened
      (handshake settings files isReentrant proxy request :
        Exchange κ χ (Except Failure Response)) := by
  unfold handshake
  split
  · exact .done _ rfl
  · split
    · exact .done _ rfl
    · refine .ask (.send proxy request.stripped none) (fun _ => .unopened) ?_ (fun _ => rfl)
        fun answer => ?_
      · rintro result _ rfl
        exact .cons .asked (.nil _)
      · cases answer with
        | error cause => exact .done _ rfl
        | ok response =>
            change Lives _ _
              (if Progress.asksToNegotiate response then
                challenged settings files isReentrant proxy request.stripped
                  (Progress.start.observe response)
                else .done (.ok response))
            split
            · exact lives_challenged settings files isReentrant proxy request.stripped _
            · exact .done _ rfl

end Exchange
end ProxyHandshake
