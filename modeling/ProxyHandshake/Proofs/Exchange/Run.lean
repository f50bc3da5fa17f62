import ProxyHandshake.Exchange.Session

/-!
# Running exchanges

A session meets the demands of a program one after the other, so a program that is put together
from parts runs part by part.  Locks are free in a session, and holding one changes nothing.

A deadline only ever cuts a run short: what an exchange does within a limit is what it does without
one, up to some point, after which the context that it holds is closed.
-/

namespace ProxyHandshake

/-- The responses among the calls are those that the backend gives. -/
def Backend.Answers {σ κ χ : Type} (backend : Backend σ κ χ) (calls : List (Call κ χ)) : Prop :=
  ∀ proxy request authorization result, .sent proxy request authorization result ∈ calls →
    ∃ outside, (backend.send proxy request authorization outside).1.1 = result

namespace Session

variable {σ κ χ α β : Type} (backend : Backend σ κ χ)

/-! ## Programs in parts -/

@[simp] theorem run_pure (a : α) (session : Session σ κ χ) :
    session.run backend (pure a) = (a, session) := rfl

theorem run_ask
    (demand : Demand κ χ) (next : demand.Answer → Exchange κ χ α) (session : Session σ κ χ) :
    session.run backend (.ask demand next) =
      (session.perform backend demand).2.run backend
        (next (session.perform backend demand).1.1) := rfl

@[simp] theorem run_demand (demand : Demand κ χ) (session : Session σ κ χ) :
    session.run backend (.demand demand) =
      ((session.perform backend demand).1.1, (session.perform backend demand).2) := rfl

@[simp] theorem run_bind
    (program : Exchange κ χ α) (next : α → Exchange κ χ β) (session : Session σ κ χ) :
    session.run backend (program >>= next) =
      (session.run backend program).2.run backend (next (session.run backend program).1) := by
  change session.run backend (program.bind next) = _
  induction program generalizing session with
  | done a => rfl
  | ask demand rest ih => exact ih _ _

@[simp] theorem run_holding
    (lock : Lock) (body : Exchange κ χ α) (session : Session σ κ χ) :
    session.run backend (.holding lock body) = session.run backend body := by
  change session.run backend (body >>= fun a => .ask (.release lock) fun _ => .done a) = _
  rw [run_bind]
  rfl

@[simp] theorem run_inTurn
    (isReentrant : Bool) (proxy : Url) (body : Exchange κ χ α) (session : Session σ κ χ) :
    session.run backend (.inTurn isReentrant proxy body) = session.run backend body := by
  cases isReentrant with
  | true => rfl
  | false => exact run_holding backend _ body session

-- The type of the answer to such a demand has to be computed before `run_bind` applies.

@[simp] theorem run_count_then
    (counter : Counter) (program : Exchange κ χ α) (session : Session σ κ χ) :
    session.run backend (do Exchange.demand (.count counter); program) =
      (session.count counter).run backend program := rfl

@[simp] theorem run_close_then
    (context : χ) (program : Exchange κ χ α) (session : Session σ κ χ) :
    session.run backend (do Exchange.demand (.close context); program) =
      (session.close backend context).run backend program := rfl

/-! ## Opening a context -/

/-- The outcomes of opening a context, each with the calls that are made. -/
inductive Opening (handle : κ) (target : ServicePrincipal) :
    Except NegotiateError (χ × Step) → List (Call κ χ) → Prop
  | unopened (e : NegotiateError) :
      Opening handle target (.error e) [.initiated handle target (.error e)]
  /-- The first step fails, and the context is closed. -/
  | unstarted (context : χ) (e : NegotiateError) :
      Opening handle target (.error e)
        [.initiated handle target (.ok context), .stepped context none (.error e),
          .closed context]
  | started (context : χ) (first : Step) :
      Opening handle target (.ok (context, first))
        [.initiated handle target (.ok context), .stepped context none (.ok first)]

/-- Opening a context adds the calls of `Opening`; which, depends on the state outside only. -/
theorem initiate_opening (handle : κ) (target : ServicePrincipal) (outside : σ) :
    ∃ answer later calls,
      Opening handle target answer calls ∧
      ∀ session : Session σ κ χ, session.outside = outside →
        session.initiate backend handle target =
          (answer, { session with outside := later, calls := session.calls ++ calls }) := by
  rcases hopened : backend.library.initiate handle target true outside with ⟨opened, later⟩
  cases opened with
  | error e =>
      refine ⟨_, later, _, .unopened e, fun session houtside => ?_⟩
      simp only [initiate, houtside, hopened]
      rfl
  | ok context =>
      rcases hstep : backend.library.step context none later with ⟨answer, last⟩
      cases answer with
      | error e =>
          refine ⟨_, backend.library.close context last, _, .unstarted context e,
            fun session houtside => ?_⟩
          simp [initiate, houtside, hopened, step, note, hstep, close]
      | ok first =>
          refine ⟨_, last, _, .started context first, fun session houtside => ?_⟩
          simp [initiate, houtside, hopened, step, note, hstep]

/-! ## The record of calls only grows -/

theorem Opening.answers
    {handle : κ} {target : ServicePrincipal} {result : Except NegotiateError (χ × Step)}
    {calls : List (Call κ χ)} (hopening : Opening handle target result calls) :
    backend.Answers calls := by
  intro proxy request authorization result hmem
  cases hopening <;> simp at hmem

theorem calls_perform (session : Session σ κ χ) (demand : Demand κ χ) :
    ∃ calls,
      (session.perform backend demand).2.calls = session.calls ++ calls ∧
      backend.Answers calls := by
  cases demand with
  | send through sent withHeader =>
      refine ⟨_, rfl, ?_⟩
      intro proxy request authorization result hmem
      obtain ⟨rfl, rfl, rfl, rfl⟩ : _ ∧ _ ∧ _ ∧ _ := by simpa using hmem
      exact ⟨session.outside, rfl⟩
  | initiate handle target =>
      obtain ⟨answer, later, calls, hopening, hinitiate⟩ :=
        initiate_opening backend handle target session.outside
      refine ⟨calls, ?_, hopening.answers backend⟩
      simp only [perform, hinitiate session rfl]
  | acquire credentials | step context token | close context =>
      exact ⟨[_], rfl, fun _ _ _ _ hmem => by simp at hmem⟩
  | take | release | lookup | store | forget | count =>
      exact ⟨[], (List.append_nil _).symm, fun _ _ _ _ hmem => nomatch hmem⟩

theorem calls_run (program : Exchange κ χ α) (session : Session σ κ χ) :
    ∃ calls,
      (session.run backend program).2.calls = session.calls ++ calls ∧
      backend.Answers calls := by
  induction program generalizing session with
  | done a => exact ⟨[], (List.append_nil _).symm, fun _ _ _ _ hmem => nomatch hmem⟩
  | ask demand next ih =>
      obtain ⟨calls, hcalls, hanswers⟩ := calls_perform backend session demand
      obtain ⟨later, hlater, hlaterAnswers⟩ :=
        ih (session.perform backend demand).1.1 (session.perform backend demand).2
      refine ⟨calls ++ later, ?_, ?_⟩
      · rw [run_ask, hlater, hcalls, List.append_assoc]
      · intro proxy request authorization result hmem
        rcases List.mem_append.mp hmem with hsooner | hlast
        · exact hanswers _ _ _ _ hsooner
        · exact hlaterAnswers _ _ _ _ hlast

theorem calls_prefix_run (program : Exchange κ χ α) (session : Session σ κ χ) :
    session.calls <+: (session.run backend program).2.calls := by
  obtain ⟨calls, hcalls, _⟩ := calls_run backend program session
  exact ⟨calls, hcalls.symm⟩

/-! ## Deadlines -/

theorem calls_closeHeld (session : Session σ κ χ) (held : Option χ) :
    (session.closeHeld backend held).calls =
      session.calls ++ (held.map Call.closed).toList := by
  cases held with
  | none => exact (List.append_nil _).symm
  | some context => rfl

theorem runWithin_ask
    (limit : Nat) (demand : Demand κ χ) (next : demand.Answer → Exchange κ χ α) (elapsed : Nat)
    (held : Option χ) (session : Session σ κ χ) :
    session.runWithin backend limit (.ask demand next) elapsed held =
      if isCut limit elapsed (session.perform backend demand).1.2.nanoseconds demand then
        (none,
          (session.perform backend demand).2.closeHeld backend
            (heldAfter held demand (session.perform backend demand).1.1))
      else
        (session.perform backend demand).2.runWithin backend limit
          (next (session.perform backend demand).1.1)
          (elapsed + (session.perform backend demand).1.2.nanoseconds)
          (heldAfter held demand (session.perform backend demand).1.1) := rfl

/-- Where a run within a limit leaves the session, compared with the run without one. -/
inductive RunWithin (program : Exchange κ χ α) (session : Session σ κ χ) :
    Option α × Session σ κ χ → Prop
  /-- The time was enough. -/
  | ended :
      RunWithin program session
        (some (session.run backend program).1, (session.run backend program).2)
  /-- The run was cut off at a point from which it would have gone on with `rest`. -/
  | cut (here : Session σ κ χ) (rest : Exchange κ χ α) (held : Option χ)
      (hcalls : session.calls <+: here.calls)
      (hrest : here.run backend rest = session.run backend program) :
      RunWithin program session (none, here.closeHeld backend held)

theorem runWithin_cases
    (limit : Nat) (program : Exchange κ χ α) (elapsed : Nat) (held : Option χ)
    (session : Session σ κ χ) :
    RunWithin backend program session
      (session.runWithin backend limit program elapsed held) := by
  induction program generalizing elapsed held session with
  | done a => exact .ended
  | ask demand next ih =>
      have hgrow : session.calls <+: (session.perform backend demand).2.calls := by
        obtain ⟨calls, hcalls, _⟩ := calls_perform backend session demand
        exact ⟨calls, hcalls.symm⟩
      simp only [runWithin]
      split
      · exact .cut _ (next (session.perform backend demand).1.1) _ hgrow rfl
      · have hrun := run_ask backend demand next session
        generalize hwithin :
          (session.perform backend demand).2.runWithin backend limit
            (next (session.perform backend demand).1.1) _ _ = outcome
        have hnext := hwithin ▸ ih _ _ _ _
        cases hnext with
        | ended => exact hrun ▸ .ended
        | cut here rest heldThere hcalls hrest =>
            exact .cut here rest heldThere (hgrow.trans hcalls) (hrest.trans hrun.symm)

end Session
end ProxyHandshake
