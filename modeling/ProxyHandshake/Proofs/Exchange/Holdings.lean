import ProxyHandshake.Exchange.Together
import ProxyHandshake.Proofs.Exchange.Run

/-!
# What an exchange holds

An exchange takes locks and opens contexts, and gives all of them back.  What it holds at a point of
its program follows from the demands that it has put until then.

A program is orderly if it opens a context only while it holds none, uses and closes no other than
the one that it holds, and takes no lock twice.  Where the library serves one negotiation at a time,
an orderly program negotiates only in its turn, and ends its turn without a context.  The program of
an exchange is orderly, and whatever runs an orderly program finds every context that was opened
closed or still held.
-/

namespace ProxyHandshake

variable {σ κ χ α β : Type}

/-! ## Holdings -/

structure Holdings (χ : Type) where
  locks : List Lock
  context : Option χ

namespace Holdings

def empty : Holdings χ := ⟨[], none⟩

/-- What is held when a demand has been met. -/
def after (holdings : Holdings χ) (demand : Demand κ χ) (answer : demand.Answer) :
    Holdings χ :=
  ⟨Task.locksAfter holdings.locks demand, Session.heldAfter holdings.context demand answer⟩

def HasTurn (isReentrant : Bool) (key : String) (holdings : Holdings χ) : Prop :=
  isReentrant = false → Lock.turn key ∈ holdings.locks

/-- Whether a demand is in order for an exchange that holds so much. -/
def Allows (isReentrant : Bool) (key : String) (holdings : Holdings χ) : Demand κ χ → Prop
  | .initiate _ _ => holdings.context = none ∧ holdings.HasTurn isReentrant key
  | .step context _ => holdings.context = some context ∧ holdings.HasTurn isReentrant key
  | .close context => holdings.context = some context
  | .take lock => lock ∉ holdings.locks
  | .release lock => lock = .turn key → holdings.context = none
  | .send .. | .acquire .. | .lookup .. | .store .. | .forget .. | .count .. => True

end Holdings

/-! ## Orderly programs -/

namespace Exchange

/-- A program that puts demands in order and ends with `last` in its hands. -/
inductive Orderly (isReentrant : Bool) (key : String) (last : Holdings χ) :
    Holdings χ → Exchange κ χ α → Prop
  | done (a : α) : Orderly isReentrant key last last (.done a)
  | ask {holdings : Holdings χ} (demand : Demand κ χ)
      {next : demand.Answer → Exchange κ χ α}
      (hallowed : holdings.Allows isReentrant key demand)
      (hnext : ∀ answer,
        Orderly isReentrant key last (holdings.after demand answer) (next answer)) :
      Orderly isReentrant key last holdings (.ask demand next)

section

variable {isReentrant : Bool} {key : String} {first middle last holdings : Holdings χ}

theorem Orderly.eq_of_done
    {a : α} (horderly : Orderly isReentrant key last holdings (.done a : Exchange κ χ α)) :
    holdings = last := by
  cases horderly
  rfl

theorem Orderly.of_ask
    {demand : Demand κ χ} {next : demand.Answer → Exchange κ χ α}
    (horderly : Orderly isReentrant key last holdings (.ask demand next)) :
    holdings.Allows isReentrant key demand ∧
      ∀ answer, Orderly isReentrant key last (holdings.after demand answer) (next answer) := by
  cases horderly with
  | ask _ hallowed hnext => exact ⟨hallowed, hnext⟩

theorem Orderly.bind
    {program : Exchange κ χ α} {next : α → Exchange κ χ β}
    (hprogram : Orderly isReentrant key middle first program)
    (hnext : ∀ a, Orderly isReentrant key last middle (next a)) :
    Orderly isReentrant key last first (program >>= next) := by
  change Orderly isReentrant key last first (program.bind next)
  induction hprogram with
  | done a => exact hnext a
  | ask demand hallowed _ ih => exact .ask demand hallowed ih

/-- A demand that leaves the holdings as they are. -/
theorem Orderly.demand_bind
    (demand : Demand κ χ) {next : demand.Answer → Exchange κ χ α}
    (hallowed : holdings.Allows isReentrant key demand)
    (hsame : ∀ answer, holdings.after demand answer = holdings)
    (hnext : ∀ answer, Orderly isReentrant key last holdings (next answer)) :
    Orderly isReentrant key last holdings (Exchange.demand demand >>= next) := by
  apply Orderly.ask demand hallowed
  intro answer
  rw [hsame answer]
  exact hnext answer

theorem Orderly.holding
    {lock : Lock} {body : Exchange κ χ α} {locks : List Lock} {held heldAfter : Option χ}
    (hfree : lock ∉ locks) (hturn : lock = .turn key → heldAfter = none)
    (hbody : Orderly isReentrant key ⟨lock :: locks, heldAfter⟩ ⟨lock :: locks, held⟩ body) :
    Orderly isReentrant key ⟨locks, heldAfter⟩ ⟨locks, held⟩ (.holding lock body) := by
  have hallowed :
      Holdings.Allows isReentrant key ⟨locks, held⟩ (.take lock : Demand κ χ) := hfree
  have hreleased :
      Holdings.Allows isReentrant key ⟨lock :: locks, heldAfter⟩
        (.release lock : Demand κ χ) := hturn
  have hback : (lock :: locks).filter (· ≠ lock) = locks := by
    rw [List.filter_cons_of_neg (by simp)]
    apply List.filter_eq_self.mpr
    intro other hother
    have hne : other ≠ lock := fun heq => hfree (heq ▸ hother)
    simpa using hne
  apply Orderly.ask (.take lock) hallowed
  intro _
  apply hbody.bind
  intro a
  apply Orderly.ask (.release lock) hreleased
  intro _
  change Orderly isReentrant key _ ⟨(lock :: locks).filter (· ≠ lock), heldAfter⟩ _
  rw [hback]
  exact .done a

/-! ## The parts of an exchange -/

theorem orderly_handleFor
    (credentials : Credentials) (hfree : Lock.handle key ∉ holdings.locks) :
    Orderly isReentrant key holdings holdings
      (handleFor key credentials : Exchange κ χ (Except NegotiateError κ)) := by
  unfold handleFor
  apply Orderly.holding hfree (fun hlock => nomatch hlock)
  apply Orderly.demand_bind (.lookup key) trivial (fun _ => rfl)
  intro found
  obtain ⟨since, _ | handle⟩ := found
  · apply Orderly.demand_bind (.acquire credentials) trivial (fun _ => rfl)
    intro answer
    cases answer with
    | error e => exact .done _
    | ok acquired =>
        apply Orderly.demand_bind (.store key since acquired) trivial (fun _ => rfl)
        intro _
        exact .done _
  · exact .done _

theorem orderly_forgetHandle (hfree : Lock.handle key ∉ holdings.locks) :
    Orderly isReentrant key holdings holdings (forgetHandle key : Exchange κ χ Unit) := by
  unfold forgetHandle
  apply Orderly.holding hfree (fun hlock => nomatch hlock)
  apply Orderly.ask (.forget key) trivial
  intro _
  exact .done _

theorem orderly_verifyProxy
    {context : χ} (hcontext : holdings.context = some context)
    (hturn : holdings.HasTurn isReentrant key) (isStrict : Bool) (response : Response) :
    Orderly isReentrant key holdings holdings
      (verifyProxy isStrict context response : Exchange κ χ (Except Failure Response)) := by
  unfold verifyProxy
  split
  · exact .done _
  · cases isStrict with
    | true => exact .done _
    | false => exact .done _
  · next token _ =>
    have hallowed :
        holdings.Allows isReentrant key (.step context token : Demand κ χ) :=
      ⟨hcontext, hturn⟩
    apply Orderly.demand_bind (.step context token) hallowed (fun _ => rfl)
    intro answer
    rcases answer with e | ⟨_ | token⟩ | token
    all_goals exact .done _

theorem orderly_refused
    {proxy : Url} (hfree : Lock.handle proxy.proxyKey ∉ holdings.locks) (progress : Progress)
    (response : Response) :
    Orderly isReentrant proxy.proxyKey holdings holdings
      (refused proxy progress response : Exchange κ χ (Except Failure Response)) := by
  unfold refused
  split
  · exact .done _
  · apply (orderly_forgetHandle hfree).bind
    intro _
    exact .done _

theorem orderly_resend
    {proxy : Url} {context : χ} (hcontext : holdings.context = some context)
    (hturn : holdings.HasTurn isReentrant proxy.proxyKey)
    (hfree : Lock.handle proxy.proxyKey ∉ holdings.locks) (isStrict : Bool)
    (request : Request) (progress : Progress) (opening : Step) :
    Orderly isReentrant proxy.proxyKey holdings holdings
      (resend isStrict proxy request progress context opening :
        Exchange κ χ (Except Failure Response)) := by
  unfold resend
  split
  · exact .done _
  · split
    · exact .done _
    · next header _ =>
      apply Orderly.demand_bind (.count .retry) trivial (fun _ => rfl)
      intro _
      apply Orderly.demand_bind (.send proxy request (some header)) trivial
        (fun _ => rfl)
      intro answer
      cases answer with
      | error cause => exact .done _
      | ok response =>
          by_cases hrequired : response.isAuthRequired = true
          · simp only [hrequired, if_true]
            exact orderly_refused hfree progress.beginRetry response
          · simp only [hrequired]
            exact orderly_verifyProxy hcontext hturn isStrict response

theorem orderly_negotiate
    {proxy : Url} {locks : List Lock}
    (hturn : isReentrant = false → Lock.turn proxy.proxyKey ∈ locks)
    (hfree : Lock.handle proxy.proxyKey ∉ locks) (settings : Settings) (request : Request)
    (progress : Progress) (target : ServicePrincipal) :
    Orderly isReentrant proxy.proxyKey ⟨locks, none⟩ ⟨locks, none⟩
      (negotiate settings proxy request progress target :
        Exchange κ χ (Except Failure Response)) := by
  have hforget :
      Orderly isReentrant proxy.proxyKey ⟨locks, none⟩ ⟨locks, none⟩
        (forgetHandle proxy.proxyKey : Exchange κ χ Unit) :=
    orderly_forgetHandle hfree
  have hhandle :
      Orderly isReentrant proxy.proxyKey ⟨locks, none⟩ ⟨locks, none⟩
        (handleFor proxy.proxyKey settings.credentials :
          Exchange κ χ (Except NegotiateError κ)) :=
    orderly_handleFor settings.credentials hfree
  have hresend (context : χ) (opening : Step) :
      Orderly isReentrant proxy.proxyKey ⟨locks, some context⟩ ⟨locks, some context⟩
        (resend settings.isStrict proxy request progress context opening :
          Exchange κ χ (Except Failure Response)) := by
    have hheld :
        Holdings.HasTurn isReentrant proxy.proxyKey ⟨locks, some context⟩ := hturn
    exact orderly_resend rfl hheld hfree settings.isStrict request progress opening
  unfold negotiate
  apply hhandle.bind
  intro answer
  cases answer with
  | error e => exact .done _
  | ok handle =>
      have hinitiate :
          Holdings.Allows isReentrant proxy.proxyKey ⟨locks, none⟩
            (.initiate handle target : Demand κ χ) := ⟨rfl, hturn⟩
      apply Orderly.ask (.initiate handle target) hinitiate
      intro answer
      rcases answer with e | ⟨context, opening⟩
      · cases e with
        | credential cause =>
            apply hforget.bind
            intro _
            exact .done _
        | negotiation | invalidToken | invalidPrincipal => exact .done _
      · have hclose :
            Holdings.Allows isReentrant proxy.proxyKey ⟨locks, some context⟩
              (.close context : Demand κ χ) := rfl
        apply (hresend context opening).bind
        intro result
        apply Orderly.ask (.close context) hclose
        intro _
        exact .done result

theorem orderly_inTurn
    {proxy : Url} {body : Exchange κ χ α}
    (hbody : ∀ locks, (isReentrant = false → Lock.turn proxy.proxyKey ∈ locks) →
      Lock.handle proxy.proxyKey ∉ locks →
      Orderly isReentrant proxy.proxyKey ⟨locks, none⟩ ⟨locks, none⟩ body) :
    Orderly isReentrant proxy.proxyKey .empty .empty (inTurn isReentrant proxy body) := by
  cases isReentrant with
  | true => exact hbody [] (fun halone => nomatch halone) List.not_mem_nil
  | false =>
      have hturn := hbody [.turn proxy.proxyKey] (fun _ => List.mem_cons_self) (by simp)
      exact Orderly.holding List.not_mem_nil (fun _ => rfl) hturn

theorem orderly_challenged
    (settings : Settings) (files : FileSystem) (proxy : Url) (request : Request)
    (progress : Progress) :
    Orderly isReentrant proxy.proxyKey .empty .empty
      (challenged settings files isReentrant proxy request progress :
        Exchange κ χ (Except Failure Response)) := by
  unfold challenged
  apply Orderly.demand_bind (.count .challenge) trivial (fun _ => rfl)
  intro _
  split
  · exact .done _
  · split
    · exact .done _
    · next target _ =>
      apply orderly_inTurn
      intro locks hturn hfree
      exact orderly_negotiate hturn hfree settings request progress target

end

/-- An exchange is orderly, and its hands are empty at the end. -/
theorem orderly_handshake
    (settings : Settings) (files : FileSystem) (isReentrant : Bool) (proxy : Url)
    (request : Request) :
    Orderly isReentrant proxy.proxyKey .empty .empty
      (handshake settings files isReentrant proxy request :
        Exchange κ χ (Except Failure Response)) := by
  unfold handshake
  split
  · exact .done _
  · split
    · exact .done _
    · unfold converse
      apply Orderly.demand_bind (.send proxy request.stripped none) trivial
        (fun _ => rfl)
      intro answer
      cases answer with
      | error cause => exact .done _
      | ok response =>
          by_cases hasks : Progress.asksToNegotiate response = true
          · simp only [hasks, if_true]
            exact orderly_challenged settings files proxy request.stripped _
          · simp only [hasks]
            exact .done _

end Exchange

/-! ## Contexts among the calls -/

def Call.opened? : Call κ χ → Option χ
  | .initiated _ _ (.ok context) => some context
  | .initiated _ _ (.error _) | .sent .. | .acquired _ | .stepped .. | .closed _ => none

def Call.closed? : Call κ χ → Option χ
  | .closed context => some context
  | .sent .. | .acquired _ | .initiated .. | .stepped .. => none

/-- The contexts that were opened, in order. -/
def opened (calls : List (Call κ χ)) : List χ :=
  calls.filterMap Call.opened?

/-- The contexts that were closed, in order. -/
def closed (calls : List (Call κ χ)) : List χ :=
  calls.filterMap Call.closed?

@[simp] theorem opened_append (calls later : List (Call κ χ)) :
    opened (calls ++ later) = opened calls ++ opened later :=
  List.filterMap_append

@[simp] theorem closed_append (calls later : List (Call κ χ)) :
    closed (calls ++ later) = closed calls ++ closed later :=
  List.filterMap_append

/-- All contexts that were held before some calls or opened by them have been closed, in the same
order, but for the one that is held after them. -/
def Accounts (before : Option χ) (calls : List (Call κ χ)) (after : Option χ) : Prop :=
  before.toList ++ opened calls = closed calls ++ after.toList

theorem Accounts.refl (held : Option χ) : Accounts held ([] : List (Call κ χ)) held := by
  change held.toList ++ [] = [] ++ held.toList
  simp

theorem Accounts.trans
    {first second third : Option χ} {calls later : List (Call κ χ)}
    (hcalls : Accounts first calls second) (hlater : Accounts second later third) :
    Accounts first (calls ++ later) third := by
  unfold Accounts at *
  calc
    first.toList ++ opened (calls ++ later) =
        (first.toList ++ opened calls) ++ opened later := by simp
    _ = closed calls ++ (second.toList ++ opened later) := by rw [hcalls, List.append_assoc]
    _ = closed (calls ++ later) ++ third.toList := by simp [hlater]

theorem Accounts.close (held : Option χ) :
    Accounts held ((held.map (Call.closed : χ → Call κ χ)).toList) none := by
  cases held with
  | none => rfl
  | some context => rfl

namespace Session

variable (backend : Backend σ κ χ) {isReentrant : Bool} {key : String}
  {holdings : Holdings χ}

theorem Opening.accounts
    {handle : κ} {target : ServicePrincipal} {answer : Except NegotiateError (χ × Step)}
    {calls : List (Call κ χ)} (hopening : Opening handle target answer calls) :
    Accounts none calls (heldAfter none (.initiate handle target : Demand κ χ) answer) := by
  cases hopening with
  | unopened e => rfl
  | unstarted context e => rfl
  | started context first => rfl

/-- Meeting a demand that is in order loses no context. -/
theorem perform_accounts
    {demand : Demand κ χ} (hallowed : holdings.Allows isReentrant key demand)
    (session : Session σ κ χ) :
    ∃ calls,
      (session.perform backend demand).2.calls = session.calls ++ calls ∧
      Accounts holdings.context calls
        (heldAfter holdings.context demand (session.perform backend demand).1.1) := by
  cases demand with
  | initiate handle target =>
      have hnone : holdings.context = none := hallowed.1
      obtain ⟨answer, later, calls, hopening, hinitiate⟩ :=
        initiate_opening backend handle target session.outside
      refine ⟨calls, ?_, ?_⟩
      · simp only [perform, hinitiate session rfl]
      · have haccounts := hopening.accounts
        simp only [perform, hinitiate session rfl, hnone]
        exact haccounts
  | close context =>
      have hheld : holdings.context = some context := hallowed
      refine ⟨[.closed context], rfl, ?_⟩
      rw [hheld]
      exact Accounts.close (some context)
  | send | acquire | step =>
      refine ⟨[_], rfl, ?_⟩
      change holdings.context.toList ++ [] = [] ++ holdings.context.toList
      simp
  | take | release | lookup | store | forget | count =>
      exact ⟨[], (List.append_nil _).symm, .refl _⟩

theorem closeHeld_accounts (session : Session σ κ χ) (held : Option χ) :
    ∃ calls,
      (session.closeHeld backend held).calls = session.calls ++ calls ∧
      Accounts held calls none :=
  ⟨_, calls_closeHeld backend session held, .close held⟩

end Session
end ProxyHandshake
