import ProxyHandshake.Proofs.Exchange.Holdings
import ProxyHandshake.Proofs.Exchange.Rehearsed

/-!
# Deadlines

Only the answers to requests take time.  If they take less than the limit, a deadline changes
nothing; if they take more, it cuts the exchange off in the midst of a demand of the run without a
deadline, one that began no later than the deadline and is not met before it.  What was done up to
the end of that demand stays done, nothing behind it happens, and the context that is held there is
closed.
-/

namespace ProxyHandshake

variable {σ κ χ α : Type}

def Demand.isSending : Demand κ χ → Bool
  | .send .. => true
  | _ => false

namespace Session

/-! ## Points of a run -/

/-- A point of a run: what is still to be done, and what the session and the exchange have come
to. -/
structure Point (σ κ χ α : Type) where
  rest : Exchange κ χ α
  session : Session σ κ χ
  held : Option χ
  elapsed : Nat

variable (backend : Backend σ κ χ)

/-- The point behind a demand. -/
def Point.behind (demand : Demand κ χ) (next : demand.Answer → Exchange κ χ α)
    (session : Session σ κ χ) (held : Option χ) (elapsed : Nat) : Point σ κ χ α :=
  let ((answer, delay), session) := session.perform backend demand
  ⟨next answer, session, heldAfter held demand answer, elapsed + delay.nanoseconds⟩

/-- The point behind the next demand, if the run has not ended. -/
def Point.next? (point : Point σ κ χ α) : Option (Point σ κ χ α) :=
  match point.rest with
  | .done _ => none
  | .ask demand next =>
    some (.behind backend demand next point.session point.held point.elapsed)

/-- A run that has come to one point comes to another. -/
inductive Leads : Point σ κ χ α → Point σ κ χ α → Prop
  | refl (point : Point σ κ χ α) : Leads point point
  | step {demand : Demand κ χ} {next : demand.Answer → Exchange κ χ α}
      {session : Session σ κ χ} {held : Option χ} {elapsed : Nat} {last : Point σ κ χ α}
      (hlater : Leads (Point.behind backend demand next session held elapsed) last) :
      Leads ⟨.ask demand next, session, held, elapsed⟩ last

section

variable {backend}

theorem Leads.next
    {first last point : Point σ κ χ α} (hleads : Leads backend first last)
    (hnext : last.next? backend = some point) : Leads backend first point := by
  induction hleads with
  | refl last =>
      obtain ⟨rest, session, held, elapsed⟩ := last
      cases rest with
      | done a => cases hnext
      | ask demand next =>
          cases hnext
          exact .step (.refl _)
  | step _ ih => exact .step (ih hnext)

theorem Leads.run_eq {first last : Point σ κ χ α} (hleads : Leads backend first last) :
    last.session.run backend last.rest = first.session.run backend first.rest := by
  induction hleads with
  | refl point => rfl
  | step _ ih => exact ih

theorem Leads.accounts
    {isReentrant : Bool} {key : String} {holdings final : Holdings χ}
    {first last : Point σ κ χ α} (hleads : Leads backend first last)
    (horderly : first.rest.Orderly isReentrant key final holdings)
    (hheld : first.held = holdings.context) :
    ∃ calls,
      last.session.calls = first.session.calls ++ calls ∧
      Accounts first.held calls last.held := by
  induction hleads generalizing holdings with
  | refl point => exact ⟨[], (List.append_nil _).symm, .refl _⟩
  | @step demand next session held elapsed last hlater ih =>
      cases horderly with
      | ask _ hallowed hnext =>
          obtain ⟨calls, hcalls, haccounts⟩ := perform_accounts backend hallowed session
          have hafter := hnext (session.perform backend demand).1.1
          have hheldAfter :
              (Point.behind backend demand next session held elapsed).held =
                (holdings.after demand (session.perform backend demand).1.1).context := by
            subst hheld
            rfl
          obtain ⟨later, hlaterCalls, hlaterAccounts⟩ := ih hafter hheldAfter
          subst hheld
          refine ⟨calls ++ later, ?_, haccounts.trans hlaterAccounts⟩
          rw [hlaterCalls, ← List.append_assoc, ← hcalls]
          rfl

end

/-! ## The counters only grow -/

theorem counted_prefix_perform (session : Session σ κ χ) (demand : Demand κ χ) :
    session.counted <+: (session.perform backend demand).2.counted := by
  cases demand with
  | initiate handle target =>
      obtain ⟨answer, later, calls, _, hinitiate⟩ :=
        initiate_opening backend handle target session.outside
      simp only [perform, hinitiate session rfl]
      exact List.prefix_rfl
  | count counter => exact List.prefix_append _ _
  | send | acquire | step | close | take | release | lookup | store | forget =>
      exact List.prefix_rfl

theorem counted_prefix_run (program : Exchange κ χ α) (session : Session σ κ χ) :
    session.counted <+: (session.run backend program).2.counted := by
  induction program generalizing session with
  | done a => exact List.prefix_rfl
  | ask demand next ih =>
      have hfirst := counted_prefix_perform backend session demand
      exact hfirst.trans (ih _ _)

/-! ## The time that a run takes -/

/-- How long a run waits for the answers to its requests. -/
def sendingTime : Exchange κ χ α → Session σ κ χ → Nat
  | .done _, _ => 0
  | .ask demand next, session =>
    let ((answer, delay), session) := session.perform backend demand
    (if demand.isSending then delay.nanoseconds else 0) + sendingTime (next answer) session

theorem delay_perform
    (session : Session σ κ χ) (demand : Demand κ χ) :
    (session.perform backend demand).1.2.nanoseconds =
      if demand.isSending then (session.perform backend demand).1.2.nanoseconds else 0 := by
  cases demand <;> rfl

theorem sendingTime_ask
    (demand : Demand κ χ) (next : demand.Answer → Exchange κ χ α) (session : Session σ κ χ) :
    sendingTime backend (.ask demand next) session =
      (session.perform backend demand).1.2.nanoseconds +
        sendingTime backend (next (session.perform backend demand).1.1)
          (session.perform backend demand).2 := by
  rw [delay_perform]
  rfl

/-- Time enough: the deadline does not come. -/
theorem runWithin_of_lt
    (limit : Nat) (program : Exchange κ χ α) (elapsed : Nat) (held : Option χ)
    (session : Session σ κ χ)
    (htime : elapsed + sendingTime backend program session < limit) :
    session.runWithin backend limit program elapsed held =
      (some (session.run backend program).1, (session.run backend program).2) := by
  induction program generalizing elapsed held session with
  | done a => rfl
  | ask demand next ih =>
      rw [sendingTime_ask, ← Nat.add_assoc] at htime
      have huncut :
          isCut limit elapsed (session.perform backend demand).1.2.nanoseconds demand =
            false := by
        have hsum :
            ¬ limit < elapsed + (session.perform backend demand).1.2.nanoseconds := by omega
        have helapsed : ¬ limit ≤ elapsed := by omega
        simp [isCut, hsum, helapsed]
      rw [runWithin_ask, huncut]
      exact ih _ _ _ _ htime

/-- Time too short: the run is cut off in the midst of a demand that began no later than the deadline
and is not met before it. -/
theorem runWithin_of_gt
    (limit : Nat) (program : Exchange κ χ α) (elapsed : Nat) (held : Option χ)
    (session : Session σ κ χ) (hbegun : elapsed ≤ limit)
    (htime : limit < elapsed + sendingTime backend program session) :
    ∃ last point,
      Leads backend ⟨program, session, held, elapsed⟩ last ∧
      last.elapsed ≤ limit ∧
      last.next? backend = some point ∧
      limit ≤ point.elapsed ∧
      session.runWithin backend limit program elapsed held =
        (none, point.session.closeHeld backend point.held) := by
  induction program generalizing elapsed held session with
  | done a =>
      have hzero : sendingTime backend (.done a) session = 0 := rfl
      omega
  | ask demand next ih =>
      rw [sendingTime_ask, ← Nat.add_assoc] at htime
      rw [runWithin_ask]
      by_cases hcut :
        isCut limit elapsed (session.perform backend demand).1.2.nanoseconds demand = true
      · refine ⟨_, Point.behind backend demand next session held elapsed, .refl _, hbegun, rfl,
          ?_, ?_⟩
        · have hover :
              limit ≤ elapsed + (session.perform backend demand).1.2.nanoseconds := by
            simp only [isCut, Bool.or_eq_true, Bool.and_eq_true, decide_eq_true_eq] at hcut
            omega
          exact hover
        · simp only [hcut, if_true]
          rfl
      · have hleft :
            elapsed + (session.perform backend demand).1.2.nanoseconds ≤ limit := by
          simp only [isCut, Bool.or_eq_true, Bool.and_eq_true, decide_eq_true_eq] at hcut
          omega
        obtain ⟨last, point, hleads, hlast, hnext, hover, hrun⟩ :=
          ih _ _ (heldAfter held demand (session.perform backend demand).1.1) _ hleft htime
        refine ⟨last, point, .step hleads, hlast, hnext, hover, ?_⟩
        simp only [hcut]
        exact hrun

/-! ## Exchanges -/

theorem counted_prefix_countResult
    (session : Session σ κ χ) (result : Except Failure Response) :
    session.counted <+: (session.countResult result).counted := by
  cases result with
  | ok response => exact List.prefix_rfl
  | error failure => exact List.prefix_append _ _

/-- How an exchange that is cut off between two points, the first of which comes no later than the
deadline and the second no sooner, compares with the one that goes on. -/
structure CutOff (limit : Duration) (free bounded : Except Failure Response × Session σ κ χ)
    (last point : Point σ κ χ (Except Failure Response)) : Prop where
  begun : last.elapsed ≤ limit.nanoseconds
  late : limit.nanoseconds ≤ point.elapsed
  result : bounded.1 = .error (.transport (.timeout limit))
  calls_sooner : point.session.calls <+: free.2.calls
  counted_sooner : point.session.counted <+: free.2.counted
  calls_eq : bounded.2.calls = point.session.calls ++ (point.held.map Call.closed).toList
  counted_eq : bounded.2.counted = point.session.counted ++ [.failure .transport]
  cache_eq : bounded.2.cache = point.session.cache

section

variable (settings : Settings) (files : FileSystem) (session : Session σ κ χ) (proxy : Url)
  (request : Request) (limit : Duration)

theorem authenticate_free :
    session.authenticate backend { settings with timeout := none } files proxy request =
      ((session.run backend
          (.handshake settings files backend.library.isReentrant proxy request)).1,
        (session.run backend
          (.handshake settings files backend.library.isReentrant proxy request)).2.countResult
          (session.run backend
            (.handshake settings files backend.library.isReentrant proxy request)).1) := rfl

theorem authenticate_bounded
    {outcome : Option (Except Failure Response)} {after : Session σ κ χ}
    (hwithin :
      session.runWithin backend limit.nanoseconds
          (.handshake settings files backend.library.isReentrant proxy request) 0 none =
        (outcome, after)) :
    session.authenticate backend { settings with timeout := some limit } files proxy request =
      (resultWithin limit outcome, after.countResult (resultWithin limit outcome)) := by
  have hbounded :
      session.authenticate backend { settings with timeout := some limit } files proxy request =
        (resultWithin limit
            (session.runWithin backend limit.nanoseconds
              (.handshake settings files backend.library.isReentrant proxy request) 0 none).1,
          (session.runWithin backend limit.nanoseconds
              (.handshake settings files backend.library.isReentrant proxy request) 0
              none).2.countResult
            (resultWithin limit
              (session.runWithin backend limit.nanoseconds
                (.handshake settings files backend.library.isReentrant proxy request) 0
                none).1)) := rfl
  rw [hbounded, hwithin]

/-- An exchange that is cut off has done what it would have done up to that point. -/
theorem cutOff_authenticate
    {last point : Point σ κ χ (Except Failure Response)}
    (hleads :
      Leads backend
        ⟨.handshake settings files backend.library.isReentrant proxy request, session, none, 0⟩
        point)
    (hbegun : last.elapsed ≤ limit.nanoseconds) (hlate : limit.nanoseconds ≤ point.elapsed)
    (hwithin :
      session.runWithin backend limit.nanoseconds
          (.handshake settings files backend.library.isReentrant proxy request) 0 none =
        (none, point.session.closeHeld backend point.held)) :
    CutOff limit
      (session.authenticate backend { settings with timeout := none } files proxy request)
      (session.authenticate backend { settings with timeout := some limit } files proxy request)
      last point := by
  have hend :
      point.session.run backend point.rest =
        session.run backend
          (.handshake settings files backend.library.isReentrant proxy request) :=
    hleads.run_eq
  have hcalls := calls_prefix_run backend point.rest point.session
  have hcounted := counted_prefix_run backend point.rest point.session
  rw [hend] at hcalls hcounted
  rw [authenticate_bounded backend settings files session proxy request limit hwithin,
    authenticate_free]
  obtain ⟨rest, after, held, elapsed⟩ := point
  exact
    { begun := hbegun
      late := hlate
      result := rfl
      calls_sooner := by rw [calls_countResult]; exact hcalls
      counted_sooner := hcounted.trans (counted_prefix_countResult _ _)
      calls_eq := by rw [calls_countResult, calls_closeHeld]
      counted_eq := by cases held <;> rfl
      cache_eq := by cases held <;> rfl }

/-- With more time than its requests take, an exchange does what it does without a deadline.  With
less it fails, and what it has done is what it would have done up to the end of one demand, which
began no later than the deadline and was not met before it; the context that it holds there is
closed. -/
theorem authenticate_within :
    let program : Exchange κ χ (Except Failure Response) :=
      .handshake settings files backend.library.isReentrant proxy request
    let free :=
      session.authenticate backend { settings with timeout := none } files proxy request
    let bounded :=
      session.authenticate backend { settings with timeout := some limit } files proxy request
    let total := session.sendingTime backend program
    (total < limit.nanoseconds → bounded = free) ∧
    (limit.nanoseconds < total →
      ∃ (last point : Point σ κ χ (Except Failure Response)) (calls : List (Call κ χ)),
        Leads backend ⟨program, session, none, 0⟩ last ∧
        last.next? backend = some point ∧
        point.session.calls = session.calls ++ calls ∧
        opened calls = closed calls ++ point.held.toList ∧
        CutOff limit free bounded last point) := by
  intro program free bounded total
  constructor
  · intro htime
    have hwithin :=
      runWithin_of_lt backend limit.nanoseconds program 0 none session
        (by rw [Nat.zero_add]; exact htime)
    exact authenticate_bounded backend settings files session proxy request limit hwithin
  · intro htime
    obtain ⟨last, point, hleads, hbegun, hnext, hlate, hwithin⟩ :=
      runWithin_of_gt backend limit.nanoseconds program 0 none session (Nat.zero_le _)
        (by rw [Nat.zero_add]; exact htime)
    have horderly :
        program.Orderly backend.library.isReentrant proxy.proxyKey .empty .empty :=
      Exchange.orderly_handshake settings files backend.library.isReentrant proxy request
    have hthere := hleads.next hnext
    obtain ⟨calls, hcalls, haccounts⟩ := hthere.accounts horderly rfl
    exact
      ⟨last, point, calls, hleads, hnext, hcalls, haccounts,
        cutOff_authenticate backend settings files session proxy request limit hthere hbegun hlate
          hwithin⟩

end

end Session

/-! ### A slow proxy -/

namespace Rehearsal

/-- A proxy that asks once, and takes two seconds for every answer. -/
def slow : Backend Stage Handle Context :=
  backend ⟨false, [], []⟩ (.negotiating (.ofSeconds 2))

def slowRun (timeout : Option Duration) :
    Except Failure Response × Session Stage Handle Context :=
  (Session.start .start).authenticate slow { lenient with timeout := timeout } noFiles proxyUrl
    (.of .get targetUrl)

/-- Five seconds are enough; after three, the context has been opened and is closed again. -/
theorem authenticate_within_slow :
    slowRun (some (.ofSeconds 5)) = slowRun none ∧
      (slowRun (some (.ofSeconds 3))).1 = .error (.transport (.timeout (.ofSeconds 3))) ∧
      ∃ context,
        opened (slowRun (some (.ofSeconds 3))).2.calls = [context] ∧
        closed (slowRun (some (.ofSeconds 3))).2.calls = [context] := by
  have htotal :
      (Session.start Stage.start).sendingTime slow
          (.handshake lenient noFiles false proxyUrl (.of .get targetUrl)) =
        4000000000 := by rfl
  have henough : (4000000000 : Nat) < (Duration.ofSeconds 5).nanoseconds := by decide
  have hshort : (Duration.ofSeconds 3).nanoseconds < (4000000000 : Nat) := by decide
  rw [← htotal] at henough hshort
  obtain ⟨hsame, _⟩ :=
    Session.authenticate_within slow lenient noFiles (.start .start) proxyUrl
      (.of .get targetUrl) (.ofSeconds 5)
  obtain ⟨_, hcut⟩ :=
    Session.authenticate_within slow lenient noFiles (.start .start) proxyUrl
      (.of .get targetUrl) (.ofSeconds 3)
  obtain ⟨_, point, calls, _, _, hcalls, haccounts, hcutOff⟩ := hcut hshort
  refine ⟨hsame henough, hcutOff.result, ⟨1, ⟨1, none⟩, ⟨"HTTP", "proxy"⟩, []⟩, rfl, ?_⟩
  have hopened :
      opened (slowRun (some (.ofSeconds 3))).2.calls =
        [⟨1, ⟨1, none⟩, ⟨"HTTP", "proxy"⟩, []⟩] := rfl
  have hboth :
      opened (slowRun (some (.ofSeconds 3))).2.calls =
        closed (slowRun (some (.ofSeconds 3))).2.calls := by
    have hclosed : Accounts none (calls ++ (point.held.map Call.closed).toList) none :=
      Accounts.trans haccounts (.close point.held)
    have hbounded := hcutOff.calls_eq
    rw [hcalls] at hbounded
    have hall :
        (slowRun (some (.ofSeconds 3))).2.calls =
          calls ++ (point.held.map Call.closed).toList := hbounded
    rw [hall]
    simpa [Accounts] using hclosed
  exact hboth.symm.trans hopened

end Rehearsal
end ProxyHandshake
