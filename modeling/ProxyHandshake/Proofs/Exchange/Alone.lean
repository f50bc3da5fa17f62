import ProxyHandshake.Proofs.Exchange.Succession

/-!
# An exchange by itself

An exchange that begins when all before it have returned finds every lock free.  If each call of the
library ends before anything else is done, its moves leave behind what a session says of it, with a
deadline and without one.  So what holds of a session holds of one of the ways in which exchanges
follow one another.
-/

namespace ProxyHandshake

variable {σ κ χ α : Type}

namespace System

/-! ## The last of several tasks -/

section

variable {backend : Backend σ κ χ} {session : Session σ κ χ} {clock : Nat}
  {front : List (Task κ χ α)} {task next : Task κ χ α}

theorem move_last
    {m : Move} {after : Session σ κ χ}
    (hmake : make backend ⟨session, clock, front ++ [task]⟩ task m = some (next, after)) :
    move backend ⟨session, clock, front ++ [task]⟩ front.length m =
      some ⟨after, clock, front ++ [next]⟩ := by
  have hset : (front ++ [task]).set front.length next = front ++ [next] := by simp
  rw [move_eq_some_iff]
  exact ⟨task, next, after, by simp, hmake, by rw [hset]⟩

variable {isReentrant : Bool} {key : String} {demand : Demand κ χ}
  {rest : demand.Answer → Exchange κ χ α}

/-- A task that takes no lock twice waits for none if nobody else has any. -/
theorem isBlocked_last
    (hfree : ∀ other ∈ front, other.locks = [])
    (hallowed : task.holdings.Allows isReentrant key demand)
    (hphase : task.phase = .running (.ask demand rest)) :
    isBlocked ⟨session, clock, front ++ [task]⟩ task = false := by
  unfold isBlocked
  rw [hphase]
  cases demand with
  | take lock =>
      have hothers : ∀ other ∈ front, other.holds lock = false := by
        intro other hmem
        simp [Task.holds, hfree other hmem]
      have hnew : lock ∉ task.locks := hallowed
      have hself : task.holds lock = false := by simpa [Task.holds] using hnew
      simpa [isFree, hself] using hothers
  | send | acquire | initiate | step | close | release | lookup | store | forget | count => rfl

theorem delay_perform_of_not_isCall
    (backend : Backend σ κ χ) (session : Session σ κ χ) (demand : Demand κ χ)
    (hquick : Task.isCall demand = false) : (session.perform backend demand).1.2 = ⟨0⟩ := by
  cases demand with
  | send | acquire | initiate | step => cases hquick
  | close | take | release | lookup | store | forget | count => rfl

theorem isLibraryCall_of_not_isCall (hquick : Task.isCall demand = false) :
    demand.isLibraryCall = false := by
  cases demand with
  | send | acquire | initiate | step => cases hquick
  | close | take | release | lookup | store | forget | count => rfl

end

/-! ## One demand -/

section

variable {backend : Backend σ κ χ} {settings : Settings} {origin session : Session σ κ χ}
  {made : List (Nat × Call κ χ)} {clock : Nat}
  {front : List (Task κ χ (Except Failure Response))}
  {task : Task κ χ (Except Failure Response)} {isReentrant : Bool} {key : String}
  {demand : Demand κ χ} {rest : demand.Answer → Exchange κ χ (Except Failure Response)}

/-- The last exchange puts its next demand. -/
theorem Succession.ask
    (hsuccession : Succession backend settings origin made ⟨session, clock, front ++ [task]⟩)
    (hfree : ∀ other ∈ front, other.locks = [])
    (hallowed : task.holdings.Allows isReentrant key demand)
    (hphase : task.phase = .running (.ask demand rest)) :
    ∃ later next,
      Succession backend settings origin (made ++ later)
        ⟨(session.perform backend demand).2, clock, front ++ [next]⟩ ∧
      next.deadline = task.deadline ∧
      next.holdings = task.holdings.after demand (session.perform backend demand).1.1 ∧
      next.phase =
        if Task.isCall demand then .calling demand (session.perform backend demand).1.1 rest
        else .running (rest (session.perform backend demand).1.1) := by
  have hblocked : isBlocked ⟨session, clock, front ++ [task]⟩ task = false :=
    isBlocked_last hfree hallowed hphase
  let asked : Task κ χ (Except Failure Response) :=
    { task with
      since := clock + (session.perform backend demand).1.2.nanoseconds
      locks := Task.locksAfter task.locks demand
      held := Session.heldAfter task.held demand (session.perform backend demand).1.1
      phase :=
        if Task.isCall demand then .calling demand (session.perform backend demand).1.1 rest
        else .running (rest (session.perform backend demand).1.1) }
  have hmake :
      make backend ⟨session, clock, front ++ [task]⟩ task .proceed =
        some (asked, (session.perform backend demand).2) := by
    change proceed backend _ task = _
    unfold proceed
    simp only [hphase, hblocked]
    cases hcall : Task.isCall demand <;> simp [asked, hcall]
  have hnext :=
    hsuccession.move clock front.length .proceed (Nat.le_refl _) (by intro h; cases h)
      (move_last hmake)
  exact ⟨_, asked, hnext, rfl, rfl, rfl⟩

/-- The last exchange takes the answer to its call, at any later time. -/
theorem Succession.answer
    {answer : demand.Answer}
    (hsuccession : Succession backend settings origin made ⟨session, clock, front ++ [task]⟩)
    (hphase : task.phase = .calling demand answer rest) {later : Nat} (hlater : clock ≤ later) :
    ∃ more next,
      Succession backend settings origin (made ++ more) ⟨session, later, front ++ [next]⟩ ∧
      next.deadline = task.deadline ∧ next.holdings = task.holdings ∧
      next.phase = .running (rest answer) := by
  have hmake :
      make backend ⟨session, later, front ++ [task]⟩ task .deliver =
        some ({ task with phase := .running (rest answer) }, session) := by
    change deliver backend _ task = _
    unfold deliver
    simp only [hphase]
  have hnext :=
    hsuccession.move later front.length .deliver hlater (by intro h; cases h) (move_last hmake)
  exact ⟨_, _, hnext, rfl, rfl, rfl⟩

/-- The last exchange is cut off in the midst of a call, and the call ends if it has to. -/
theorem Succession.cut
    {answer : demand.Answer} {deadline : Nat}
    (hsuccession : Succession backend settings origin made ⟨session, clock, front ++ [task]⟩)
    (hphase : task.phase = .calling demand answer rest) (hdeadline : task.deadline = some deadline)
    {later : Nat} (hlater : clock ≤ later) (hover : deadline ≤ later) :
    ∃ more next,
      Succession backend settings origin (made ++ more)
        ⟨session.closeHeld backend task.held, later, front ++ [next]⟩ ∧
      next.phase = .abandoned := by
  have hdue :
      Move.abandon = .abandon → ∃ found deadline, (front ++ [task])[front.length]? = some found ∧
        found.deadline = some deadline ∧ deadline ≤ later :=
    fun _ => ⟨task, deadline, by simp, hdeadline, hover⟩
  cases hcall : demand.isLibraryCall with
  | false =>
      have hmake :
          make backend ⟨session, later, front ++ [task]⟩ task .abandon =
            some ({ task with phase := .abandoned, locks := [], held := none },
              session.closeHeld backend task.held) := by
        change abandon backend _ task = _
        unfold abandon
        simp [hphase, hcall]
      have hnext := hsuccession.move later front.length .abandon hlater hdue (move_last hmake)
      exact ⟨_, _, hnext, rfl⟩
  | true =>
      have habandon :
          make backend ⟨session, later, front ++ [task]⟩ task .abandon =
            some ({ task with phase := .leaving demand answer, locks := [] }, session) := by
        change abandon backend _ task = _
        unfold abandon
        simp [hphase, hcall]
      have hleft := hsuccession.move later front.length .abandon hlater hdue (move_last habandon)
      have hended :=
        hleft.move later front.length .deliver (Nat.le_refl _) (by intro h; cases h)
          (move_last rfl)
      rw [List.append_assoc] at hended
      exact ⟨_, _, hended, rfl⟩

/-- The next demand of the last exchange is met, and if it is a call, that has ended. -/
theorem Succession.meet
    (hsuccession : Succession backend settings origin made ⟨session, clock, front ++ [task]⟩)
    (hfree : ∀ other ∈ front, other.locks = [])
    (hallowed : task.holdings.Allows isReentrant key demand)
    (hphase : task.phase = .running (.ask demand rest)) :
    ∃ later next,
      Succession backend settings origin (made ++ later)
        ⟨(session.perform backend demand).2,
          clock + (session.perform backend demand).1.2.nanoseconds, front ++ [next]⟩ ∧
      next.deadline = task.deadline ∧
      next.holdings = task.holdings.after demand (session.perform backend demand).1.1 ∧
      next.phase = .running (rest (session.perform backend demand).1.1) := by
  obtain ⟨later, asked, hasked, hdeadline, hholdings, hphaseAsked⟩ :=
    hsuccession.ask hfree hallowed hphase
  cases hcall : Task.isCall demand with
  | false =>
      rw [delay_perform_of_not_isCall backend session demand hcall]
      exact ⟨later, asked, hasked, hdeadline, hholdings, by simpa [hcall] using hphaseAsked⟩
  | true =>
      obtain ⟨more, next, hnext, hsameDeadline, hsameHoldings, hphaseNext⟩ :=
        hasked.answer (by simpa [hcall] using hphaseAsked)
          (Nat.le_add_right clock (session.perform backend demand).1.2.nanoseconds)
      rw [List.append_assoc] at hnext
      exact ⟨_, next, hnext, hsameDeadline.trans hdeadline, hsameHoldings.trans hholdings,
        hphaseNext⟩

theorem Succession.finish
    {a : Except Failure Response}
    (hsuccession : Succession backend settings origin made ⟨session, clock, front ++ [task]⟩)
    (hphase : task.phase = .running (.done a)) :
    ∃ later next,
      Succession backend settings origin (made ++ later) ⟨session, clock, front ++ [next]⟩ ∧
      next.phase = .finished a := by
  have hmake :
      make backend ⟨session, clock, front ++ [task]⟩ task .proceed =
        some ({ task with phase := .finished a, since := clock }, session) := by
    change proceed backend _ task = _
    unfold proceed
    simp only [hphase]
  have hnext :=
    hsuccession.move clock front.length .proceed (Nat.le_refl _) (by intro h; cases h)
      (move_last hmake)
  exact ⟨_, _, hnext, rfl⟩

/-! ## A whole program -/

variable {last : Holdings χ}

/-- Without a deadline, the last exchange does what a session says of it. -/
theorem Succession.exists_run
    {program : Exchange κ χ (Except Failure Response)} {holdings : Holdings χ}
    (horderly : program.Orderly isReentrant key last holdings)
    (hsuccession : Succession backend settings origin made ⟨session, clock, front ++ [task]⟩)
    (hfree : ∀ other ∈ front, other.locks = []) (hholdings : task.holdings = holdings)
    (hphase : task.phase = .running program) :
    ∃ later clock next,
      Succession backend settings origin (made ++ later)
        ⟨(session.run backend program).2, clock, front ++ [next]⟩ ∧
      next.phase = .finished (session.run backend program).1 := by
  induction horderly generalizing made session clock task with
  | done a =>
      obtain ⟨later, next, hnext, hfinished⟩ := hsuccession.finish hphase
      exact ⟨later, clock, next, hnext, hfinished⟩
  | @ask holdings demand rest hallowed _ ih =>
      subst hholdings
      obtain ⟨later, next, hnext, _, hafter, hrunning⟩ := hsuccession.meet hfree hallowed hphase
      obtain ⟨more, clock, final, hfinal, hfinished⟩ := ih _ hnext hafter hrunning
      rw [List.append_assoc] at hfinal
      exact ⟨_, clock, final, hfinal, hfinished⟩

/-- With a deadline, the last exchange does what a session says of it if each of its calls of the
library ends before anything else is done. -/
theorem Succession.exists_runWithin
    {limit start elapsed : Nat} {program : Exchange κ χ (Except Failure Response)}
    {holdings : Holdings χ} (horderly : program.Orderly isReentrant key last holdings)
    (hsuccession :
      Succession backend settings origin made ⟨session, start + elapsed, front ++ [task]⟩)
    (hfree : ∀ other ∈ front, other.locks = []) (hholdings : task.holdings = holdings)
    (hphase : task.phase = .running program) (hdeadline : task.deadline = some (start + limit))
    (hbegun : elapsed ≤ limit) :
    ∃ later clock next,
      Succession backend settings origin (made ++ later)
        ⟨(session.runWithin backend limit program elapsed holdings.context).2, clock,
          front ++ [next]⟩ ∧
      next.phase =
        (session.runWithin backend limit program elapsed holdings.context).1.elim .abandoned
          .finished := by
  induction horderly generalizing made session elapsed task with
  | done a =>
      obtain ⟨later, next, hnext, hfinished⟩ := hsuccession.finish hphase
      exact ⟨later, _, next, hnext, hfinished⟩
  | @ask holdings demand rest hallowed _ ih =>
      subst hholdings
      rw [Session.runWithin_ask]
      cases hcut :
        Session.isCut limit elapsed (session.perform backend demand).1.2.nanoseconds demand with
      | true =>
          have hcall : Task.isCall demand = true := by
            by_contra hquick
            rw [Bool.not_eq_true] at hquick
            rw [delay_perform_of_not_isCall backend session demand hquick] at hcut
            simp [Session.isCut, isLibraryCall_of_not_isCall hquick] at hcut
            omega
          obtain ⟨later, asked, hasked, hsameDeadline, hafter, hcalling⟩ :=
            hsuccession.ask hfree hallowed hphase
          have hheld :
              asked.held =
                Session.heldAfter task.held demand (session.perform backend demand).1.1 :=
            congrArg Holdings.context hafter
          obtain ⟨more, next, hnext, habandoned⟩ :=
            hasked.cut (by simpa [hcall] using hcalling) (hsameDeadline.trans hdeadline)
              (Nat.add_le_add_left hbegun start) (Nat.le_refl _)
          rw [hheld, List.append_assoc] at hnext
          exact ⟨_, _, next, hnext, habandoned⟩
      | false =>
          have hleft :
              elapsed + (session.perform backend demand).1.2.nanoseconds ≤ limit := by
            simp only [Session.isCut, Bool.or_eq_false_iff, decide_eq_false_iff_not] at hcut
            omega
          obtain ⟨later, next, hnext, hsameDeadline, hafter, hrunning⟩ :=
            hsuccession.meet hfree hallowed hphase
          rw [Nat.add_assoc] at hnext
          obtain ⟨more, clock, final, hfinal, hended⟩ :=
            ih _ hnext hafter hrunning (hsameDeadline.trans hdeadline) hleft
          rw [List.append_assoc] at hfinal
          exact ⟨_, clock, final, hfinal, hended⟩

end

/-! ## A whole exchange -/

section

variable {backend : Backend σ κ χ} {settings : Settings} {origin : Session σ κ χ}
  {made : List (Nat × Call κ χ)} {system : System σ κ χ (Except Failure Response)}

theorem Succession.exists_inOrder
    (hsuccession : Succession backend settings origin made system) :
    ∀ task ∈ system.tasks, ∃ key, task.InOrder backend.library.isReentrant key := by
  induction hsuccession with
  | start =>
      intro task hmem
      cases hmem
  | begin _ _ files proxy request ih =>
      intro task hmem
      rcases List.mem_append.mp hmem with hsooner | hlast
      · exact ih task hsooner
      · rw [List.mem_singleton.mp hlast]
        refine ⟨proxy.proxyKey, ?_, ?_⟩
        · exact
            Exchange.orderly_handshake settings files backend.library.isReentrant proxy request
        · intro _ hnever
          cases hnever
  | pass _ _ ih => exact ih
  | move _ _ index _ _ _ hmove ih =>
      obtain ⟨moved, next, session, hmoved, hmade, rfl⟩ := exists_of_move hmove
      intro task hmem
      rcases List.mem_or_eq_of_mem_set hmem with hother | rfl
      · exact ih task hother
      · obtain ⟨key, hinOrder⟩ := ih moved (List.mem_of_getElem? hmoved)
        exact ⟨key, (hmade key hinOrder).1⟩

theorem locks_of_hasReturned
    {task : Task κ χ α} {isReentrant : Bool} {key : String} (hinOrder : task.InOrder isReentrant key)
    (hreturned : task.hasReturned = true) : task.locks = [] := by
  have hrest := hinOrder.rest
  obtain ⟨phase, since, deadline, locks, held⟩ := task
  cases phase with
  | running | calling => cases hreturned
  | leaving => exact hrest
  | finished | abandoned => exact congrArg Holdings.locks hrest

/-- An exchange that begins when all before it have returned may go as a session says: with the same
result, the same calls and all else that the session keeps. -/
theorem Succession.exists_authenticate
    (hsuccession : Succession backend settings origin made system)
    (hreturned : ∀ task ∈ system.tasks, task.hasReturned = true)
    (files : FileSystem) (proxy : Url) (request : Request) :
    ∃ later after last,
      Succession backend settings origin (made ++ later) after ∧
      after.tasks = system.tasks ++ [last] ∧
      Session.taskResult? settings.timeout last =
        some (system.session.authenticate backend settings files proxy request).1 ∧
      (system.session.authenticate backend settings files proxy request).2 =
        after.session.countResult
          (system.session.authenticate backend settings files proxy request).1 := by
  have hfree : ∀ task ∈ system.tasks, task.locks = [] := by
    intro task hmem
    obtain ⟨key, hinOrder⟩ := hsuccession.exists_inOrder task hmem
    exact locks_of_hasReturned hinOrder (hreturned task hmem)
  have horderly :=
    Exchange.orderly_handshake (κ := κ) (χ := χ) settings files backend.library.isReentrant proxy
      request
  have hbegun := hsuccession.begin hreturned files proxy request
  cases htimeout : settings.timeout with
  | none =>
      obtain ⟨later, clock, last, hlast, hfinished⟩ :=
        Succession.exists_run horderly hbegun hfree rfl rfl
      refine ⟨later, _, last, hlast, rfl, ?_, ?_⟩
      · simp [Session.taskResult?, hfinished, Session.authenticate, htimeout]
      · simp [Session.authenticate, htimeout]
  | some limit =>
      let task : Task κ χ (Except Failure Response) :=
        { Task.start (some (system.clock + limit.nanoseconds))
            (.handshake settings files backend.library.isReentrant proxy request) with
          since := system.clock }
      have htask :
          system.begun backend settings files proxy request =
            ⟨system.session, system.clock + 0, system.tasks ++ [task]⟩ := by
        simp [System.begun, htimeout, task]
      rw [htask] at hbegun
      obtain ⟨later, clock, last, hlast, hended⟩ :=
        Succession.exists_runWithin horderly hbegun hfree rfl rfl rfl (Nat.zero_le _)
      have hempty : (Holdings.empty : Holdings χ).context = none := rfl
      rw [hempty] at hlast hended
      rcases hwithin :
        system.session.runWithin backend limit.nanoseconds
          (.handshake settings files backend.library.isReentrant proxy request) 0 none with
        ⟨outcome, after⟩
      rw [hwithin] at hlast hended
      refine ⟨later, _, last, hlast, rfl, ?_, ?_⟩
      · cases outcome with
        | none => simp [Session.taskResult?, hended, Session.authenticate, htimeout, hwithin]
        | some result =>
            simp [Session.taskResult?, hended, Session.authenticate, htimeout, hwithin,
              Session.resultWithin]
      · simp [Session.authenticate, htimeout, hwithin]

end

end System
end ProxyHandshake
