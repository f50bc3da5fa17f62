import ProxyHandshake.Proofs.Exchange.Holdings
import ProxyHandshake.Proofs.Exchange.Rehearsed
import Mathlib.Data.List.Perm.Basic

/-!
# Who negotiates at the same time

Where the library serves one negotiation at a time, exchanges through the same proxy negotiate in
turn, whatever the order of their moves.  An exchange that is abandoned gives its turn back at once,
while its call goes on and keeps its context: then, and only then, another exchange may be found
negotiating beside it.

Every move of one exchange keeps it in order and takes only locks that are free, so no two exchanges
ever hold the same lock; and every context that was opened is closed or held by one of them.
-/

namespace ProxyHandshake

variable {σ κ χ α : Type}

/-! ## Negotiating -/

/-- Whether a context is opened or stepped. -/
def Demand.isNegotiation : Demand κ χ → Bool
  | .initiate .. | .step .. => true
  | _ => false

namespace Task

def holdings (task : Task κ χ α) : Holdings χ := ⟨task.locks, task.held⟩

/-- Whether a task has a context, or a call is going on that opens or steps one. -/
def negotiates (task : Task κ χ α) : Bool :=
  task.held.isSome ||
    match task.phase with
    | .calling demand _ _ | .leaving demand _ => demand.isNegotiation
    | .running _ | .finished _ | .abandoned => false

/-- Whether a task was abandoned and its call is still going on. -/
def isLeaving (task : Task κ χ α) : Bool :=
  match task.phase with
  | .leaving _ _ => true
  | .running _ | .calling .. | .finished _ | .abandoned => false

/-- A task whose remaining program is orderly, and which negotiates in its turn. -/
structure InOrder (isReentrant : Bool) (key : String) (task : Task κ χ α) : Prop where
  rest :
    match task.phase with
    | .running program => program.Orderly isReentrant key .empty task.holdings
    | .calling _ answer next => (next answer).Orderly isReentrant key .empty task.holdings
    | .leaving _ _ => task.locks = []
    | .finished _ | .abandoned => task.holdings = .empty
  inTurn :
    task.isLeaving = false → task.negotiates = true → task.holdings.HasTurn isReentrant key

end Task

section

variable {isReentrant : Bool} {key : String} {holdings last : Holdings χ}

/-- After a demand in order, who negotiates has the turn. -/
theorem Holdings.hasTurn_after
    {demand : Demand κ χ} (hallowed : holdings.Allows isReentrant key demand)
    (hinTurn : holdings.context.isSome = true → holdings.HasTurn isReentrant key)
    (answer : demand.Answer)
    (hnegotiates :
      (holdings.after demand answer).context.isSome = true ∨ demand.isNegotiation = true) :
    (holdings.after demand answer).HasTurn isReentrant key := by
  intro halone
  cases demand with
  | initiate handle target => exact hallowed.2 halone
  | step context token => exact hallowed.2 halone
  | close context =>
      rcases hnegotiates with hnever | hnever
      · cases hnever
      · cases hnever
  | take lock =>
      rcases hnegotiates with hcontext | hnever
      · exact List.mem_cons_of_mem lock (hinTurn hcontext halone)
      · cases hnever
  | release lock =>
      rcases hnegotiates with hcontext | hnever
      · have hkept : Lock.turn key ≠ lock := by
          intro heq
          have hnone : holdings.context = none := hallowed heq.symm
          have hsome : holdings.context.isSome = true := hcontext
          rw [hnone] at hsome
          cases hsome
        exact List.mem_filter.mpr ⟨hinTurn hcontext halone, by simpa using hkept⟩
      · cases hnever
  | send | acquire | lookup | store | forget | count =>
      rcases hnegotiates with hcontext | hnever
      · exact hinTurn hcontext halone
      · cases hnever

end

/-! ## One move -/

namespace System

variable {system : System σ κ χ α} {task next : Task κ χ α} {session : Session σ κ χ}

/-- The task and the session after a move of the task. -/
def make (backend : Backend σ κ χ) (system : System σ κ χ α) (task : Task κ χ α) :
    Move → Option (Task κ χ α × Session σ κ χ)
  | .proceed => system.proceed backend task
  | .deliver => system.deliver backend task
  | .abandon => system.abandon backend task

theorem move_eq_some_iff
    {backend : Backend σ κ χ} {i : Nat} {m : Move} {after : System σ κ χ α} :
    system.move backend i m = some after ↔
      ∃ task next session,
        system.tasks[i]? = some task ∧
        system.make backend task m = some (next, session) ∧
        after = { system with session := session, tasks := system.tasks.set i next } := by
  unfold System.move
  cases m with
  | proceed | deliver | abandon =>
      simp only [Option.bind_eq_bind, Option.bind_eq_some_iff]
      constructor
      · rintro ⟨task, htask, ⟨next, session⟩, hmade, hafter⟩
        cases hafter
        exact ⟨task, next, session, htask, hmade, rfl⟩
      · rintro ⟨task, next, session, htask, hmade, rfl⟩
        exact ⟨task, htask, ⟨next, session⟩, hmade, rfl⟩

/-- What a move of a task adds to the session, and which locks it takes. -/
structure Moved (system : System σ κ χ α) (task next : Task κ χ α) (session : Session σ κ χ) :
    Prop where
  accounts :
    ∃ calls, session.calls = system.session.calls ++ calls ∧
      Accounts task.held calls next.held
  free : ∀ lock ∈ next.locks, lock ∈ task.locks ∨ system.isFree lock = true

variable {backend : Backend σ κ χ} {isReentrant : Bool} {key : String}

theorem free_of_proceed
    {demand : Demand κ χ} {rest : demand.Answer → Exchange κ χ α}
    (hphase : task.phase = .running (.ask demand rest))
    (hblocked : system.isBlocked task = false) {lock : Lock}
    (hlock : lock ∈ Task.locksAfter task.locks demand) :
    lock ∈ task.locks ∨ system.isFree lock = true := by
  cases demand with
  | take taken =>
      rcases List.mem_cons.mp hlock with rfl | hsooner
      · right
        simpa [isBlocked, hphase] using hblocked
      · exact .inl hsooner
  | release released => exact .inl (List.mem_filter.mp hlock).1
  | send | acquire | initiate | step | close | lookup | store | forget | count =>
      exact .inl hlock

theorem proceed_inOrder
    (hinOrder : task.InOrder isReentrant key)
    (hproceed : system.proceed backend task = some (next, session)) :
    next.InOrder isReentrant key ∧ system.Moved task next session := by
  obtain ⟨hrest, hinTurn⟩ := hinOrder
  unfold proceed at hproceed
  split at hproceed
  · next a hphase =>
    cases hproceed
    rw [hphase] at hrest
    have hempty : task.holdings = .empty := Exchange.Orderly.eq_of_done hrest
    have hheld : task.held = none := congrArg Holdings.context hempty
    refine ⟨⟨hempty, ?_⟩, ⟨⟨[], (List.append_nil _).symm, .refl _⟩, fun _ => .inl⟩⟩
    intro _ hnegotiates
    simp [Task.negotiates, hheld] at hnegotiates
  · next demand rest hphase =>
    rw [hphase] at hrest
    obtain ⟨hallowed, horderly⟩ := Exchange.Orderly.of_ask hrest
    split at hproceed
    · cases hproceed
    · next hunblocked =>
      have hblocked : system.isBlocked task = false := by simpa using hunblocked
      have haccounts := Session.perform_accounts backend hallowed system.session
      have hcontext :
          task.holdings.context.isSome = true → task.holdings.HasTurn isReentrant key := by
        intro hheld
        have hsome : task.held.isSome = true := hheld
        exact hinTurn (by simp [Task.isLeaving, hphase]) (by simp [Task.negotiates, hsome])
      have hturn :=
        Holdings.hasTurn_after hallowed hcontext
          (system.session.perform backend demand).1.1
      have hmoved :
          ∀ lock ∈ Task.locksAfter task.locks demand,
            lock ∈ task.locks ∨ system.isFree lock = true :=
        fun _ => free_of_proceed hphase hblocked
      simp only at hproceed
      split at hproceed
      · cases hproceed
        refine ⟨⟨horderly _, ?_⟩, ⟨haccounts, hmoved⟩⟩
        intro _ hnegotiates
        rcases (Bool.or_eq_true _ _).mp hnegotiates with hheld | hcall
        · exact hturn (.inl hheld)
        · exact hturn (.inr hcall)
      · cases hproceed
        refine ⟨⟨horderly _, ?_⟩, ⟨haccounts, hmoved⟩⟩
        intro _ hnegotiates
        rcases (Bool.or_eq_true _ _).mp hnegotiates with hheld | hnever
        · exact hturn (.inl hheld)
        · cases hnever
  · cases hproceed

theorem deliver_inOrder
    (hinOrder : task.InOrder isReentrant key)
    (hdeliver : system.deliver backend task = some (next, session)) :
    next.InOrder isReentrant key ∧ system.Moved task next session := by
  obtain ⟨hrest, hinTurn⟩ := hinOrder
  unfold deliver at hdeliver
  split at hdeliver
  · next demand answer rest hphase =>
    cases hdeliver
    rw [hphase] at hrest
    refine ⟨⟨hrest, ?_⟩, ⟨⟨[], (List.append_nil _).symm, .refl _⟩, fun _ => .inl⟩⟩
    intro _ hnegotiates
    rcases (Bool.or_eq_true _ _).mp hnegotiates with hheld | hnever
    · have hsome : task.held.isSome = true := hheld
      exact hinTurn (by simp [Task.isLeaving, hphase]) (by simp [Task.negotiates, hsome])
    · cases hnever
  · next demand answer hphase =>
    cases hdeliver
    rw [hphase] at hrest
    have hlocks : task.locks = [] := hrest
    have hempty : (⟨task.locks, none⟩ : Holdings χ) = .empty := by rw [hlocks]; rfl
    refine ⟨⟨hempty, ?_⟩, ⟨Session.closeHeld_accounts backend system.session task.held, fun _ => .inl⟩⟩
    intro _ hnegotiates
    cases hnegotiates
  · cases hdeliver

theorem abandon_inOrder
    (habandon : system.abandon backend task = some (next, session)) :
    next.InOrder isReentrant key ∧ system.Moved task next session := by
  have hgone :
      ∀ since deadline,
        (⟨.abandoned, since, deadline, [], none⟩ : Task κ χ α).InOrder isReentrant key :=
    fun _ _ => ⟨rfl, fun _ hnegotiates => nomatch hnegotiates⟩
  have hclosed := Session.closeHeld_accounts backend system.session task.held
  unfold abandon at habandon
  simp only at habandon
  split at habandon
  · cases habandon
    exact ⟨hgone _ _, ⟨hclosed, fun _ hnever => nomatch hnever⟩⟩
  · next demand answer rest hphase =>
    split at habandon
    · cases habandon
      refine ⟨⟨rfl, fun hnever => nomatch hnever⟩, ⟨⟨[], (List.append_nil _).symm, .refl _⟩, ?_⟩⟩
      exact fun _ hnever => nomatch hnever
    · cases habandon
      exact ⟨hgone _ _, ⟨hclosed, fun _ hnever => nomatch hnever⟩⟩
  · cases habandon

/-! ## All tasks -/

/-- The tasks of a system are in order, hold no lock together, and hold every context that was
opened and not closed since `origin`. -/
structure Sound (isReentrant : Bool) (keys : List String) (origin : Session σ κ χ)
    (system : System σ κ χ α) : Prop where
  inOrder :
    ∀ (i : Nat) (task : Task κ χ α), system.tasks[i]? = some task →
      ∃ key, keys[i]? = some key ∧ task.InOrder isReentrant key
  apart :
    ∀ (i j : Nat) (first second : Task κ χ α) (lock : Lock),
      system.tasks[i]? = some first → system.tasks[j]? = some second →
      lock ∈ first.locks → lock ∈ second.locks → i = j
  accounts :
    ∃ calls, system.session.calls = origin.calls ++ calls ∧
      (opened calls).Perm (closed calls ++ system.tasks.filterMap Task.held)

theorem not_mem_of_isFree
    {lock : Lock} (hfree : system.isFree lock = true) {i : Nat}
    (htask : system.tasks[i]? = some task) : lock ∉ task.locks := by
  intro hmem
  have hany : system.tasks.any (·.holds lock) = true :=
    List.any_eq_true.mpr ⟨task, List.mem_of_getElem? htask, by simpa [Task.holds] using hmem⟩
  simp [isFree, hany] at hfree

theorem filterMap_held_cons (task : Task κ χ α) (tasks : List (Task κ χ α)) :
    (task :: tasks).filterMap Task.held =
      task.held.toList ++ tasks.filterMap Task.held := by
  cases hheld : task.held <;> simp [hheld]

theorem getElem?_set_cases
    {tasks : List (Task κ χ α)} {i j : Nat} {found : Task κ χ α}
    (hfound : (tasks.set i next)[j]? = some found) :
    i = j ∧ found = next ∨ i ≠ j ∧ tasks[j]? = some found := by
  by_cases hij : i = j
  · subst hij
    left
    refine ⟨rfl, ?_⟩
    rw [List.getElem?_set_self'] at hfound
    obtain ⟨_, _, hnext⟩ := Option.map_eq_some_iff.mp hfound
    exact hnext.symm
  · right
    rw [List.getElem?_set_ne hij] at hfound
    exact ⟨hij, hfound⟩

/-- No two tasks hold the same lock. -/
def Apart (tasks : List (Task κ χ α)) : Prop :=
  ∀ (i j : Nat) (first second : Task κ χ α) (lock : Lock),
    tasks[i]? = some first → tasks[j]? = some second →
    lock ∈ first.locks → lock ∈ second.locks → i = j

/-- A task that takes only locks that are free stays apart from all others. -/
theorem Apart.set
    (hapart : Apart system.tasks) {i : Nat} (htask : system.tasks[i]? = some task)
    (hfree : ∀ lock ∈ next.locks, lock ∈ task.locks ∨ system.isFree lock = true) :
    Apart (system.tasks.set i next) := by
  have hothers :
      ∀ (j : Nat) (other : Task κ χ α) (lock : Lock), system.tasks[j]? = some other →
        lock ∈ next.locks → lock ∈ other.locks → i = j := by
    intro j other lock hother hlock hheld
    rcases hfree lock hlock with hsooner | hfree
    · exact hapart i j task other lock htask hother hsooner hheld
    · exact absurd hheld (not_mem_of_isFree hfree hother)
  intro j k first second lock hfirst hsecond hlock hheld
  rcases getElem?_set_cases hfirst with ⟨rfl, rfl⟩ | ⟨_, hone⟩
  · rcases getElem?_set_cases hsecond with ⟨hik, _⟩ | ⟨_, hother⟩
    · exact hik
    · exact hothers k second lock hother hlock hheld
  · rcases getElem?_set_cases hsecond with ⟨rfl, rfl⟩ | ⟨_, hother⟩
    · exact (hothers j first lock hone hheld hlock).symm
    · exact hapart j k first second lock hone hother hlock hheld

/-- The contexts that are open are held by the tasks, also when one of them has made calls. -/
theorem balance_set
    {tasks : List (Task κ χ α)} {i : Nat} (htask : tasks[i]? = some task)
    {calls later : List (Call κ χ)}
    (hbalance : (opened calls).Perm (closed calls ++ tasks.filterMap Task.held))
    (haccounts : Accounts task.held later next.held) :
    (opened (calls ++ later)).Perm
      (closed (calls ++ later) ++ (tasks.set i next).filterMap Task.held) := by
  obtain ⟨hbound, hget⟩ := List.getElem?_eq_some_iff.mp htask
  let others := (tasks.eraseIdx i).filterMap Task.held
  have hbefore : (tasks.filterMap Task.held).Perm (task.held.toList ++ others) := by
    have hperm := (List.getElem_cons_eraseIdx_perm hbound).symm.filterMap Task.held
    rwa [hget, filterMap_held_cons] at hperm
  have hafter : ((tasks.set i next).filterMap Task.held).Perm (next.held.toList ++ others) := by
    have hperm := (List.set_perm_cons_eraseIdx hbound next).filterMap Task.held
    rwa [filterMap_held_cons] at hperm
  have haccount : task.held.toList ++ opened later = closed later ++ next.held.toList :=
    haccounts
  rw [opened_append, closed_append]
  calc
    (opened calls ++ opened later).Perm
        (closed calls ++ (task.held.toList ++ others) ++ opened later) :=
      (hbalance.trans (hbefore.append_left _)).append_right _
    _ = closed calls ++ (task.held.toList ++ (others ++ opened later)) := by
      simp only [List.append_assoc]
    List.Perm _ (closed calls ++ (task.held.toList ++ (opened later ++ others))) :=
      (List.perm_append_comm.append_left _).append_left _
    _ = closed calls ++ closed later ++ (next.held.toList ++ others) := by
      rw [← List.append_assoc task.held.toList, haccount]
      simp only [List.append_assoc]
    List.Perm _ (closed calls ++ closed later ++ (tasks.set i next).filterMap Task.held) :=
      hafter.symm.append_left _

/-- A move of one task keeps a system sound. -/
theorem Sound.set
    {keys : List String} {origin : Session σ κ χ} (hsound : system.Sound isReentrant keys origin)
    {i : Nat} (htask : system.tasks[i]? = some task)
    (hmade :
      ∀ key, task.InOrder isReentrant key →
        next.InOrder isReentrant key ∧ system.Moved task next session) :
    ({ system with session := session, tasks := system.tasks.set i next } :
      System σ κ χ α).Sound isReentrant keys origin := by
  obtain ⟨taskKey, htaskKey, htaskInOrder⟩ := hsound.inOrder i task htask
  obtain ⟨hnext, hmoved⟩ := hmade taskKey htaskInOrder
  constructor
  · intro j found hfound
    rcases getElem?_set_cases hfound with ⟨rfl, rfl⟩ | ⟨_, hsame⟩
    · exact ⟨taskKey, htaskKey, hnext⟩
    · exact hsound.inOrder j found hsame
  · exact Apart.set hsound.apart htask hmoved.free
  · obtain ⟨calls, hcalls, hbalance⟩ := hsound.accounts
    obtain ⟨later, hlater, haccounts⟩ := hmoved.accounts
    refine ⟨calls ++ later, by rw [hlater, hcalls, List.append_assoc], ?_⟩
    exact balance_set htask hbalance haccounts

theorem exists_of_move
    {i : Nat} {m : Move} {after : System σ κ χ α}
    (hmove : system.move backend i m = some after) :
    ∃ task next session,
      system.tasks[i]? = some task ∧
      (∀ key, task.InOrder isReentrant key →
        next.InOrder isReentrant key ∧ system.Moved task next session) ∧
      after = { system with session := session, tasks := system.tasks.set i next } := by
  obtain ⟨task, next, session, htask, hmade, hafter⟩ := move_eq_some_iff.mp hmove
  refine ⟨task, next, session, htask, ?_, hafter⟩
  intro key hinOrder
  cases m with
  | proceed => exact proceed_inOrder hinOrder hmade
  | deliver => exact deliver_inOrder hinOrder hmade
  | abandon => exact abandon_inOrder hmade

theorem Sound.move
    {keys : List String} {origin : Session σ κ χ} (hsound : system.Sound isReentrant keys origin)
    {i : Nat} {m : Move} {after : System σ κ χ α}
    (hmove : system.move backend i m = some after) : after.Sound isReentrant keys origin := by
  obtain ⟨task, next, session, htask, hmade, rfl⟩ := exists_of_move hmove
  exact hsound.set htask hmade

/-! ## Whatever the order of the moves -/

/-- A system that can come about by moves of its tasks, in any order and at any time. -/
inductive Reaches (backend : Backend σ κ χ) (first : System σ κ χ α) :
    System σ κ χ α → Prop
  | refl : Reaches backend first first
  | move {system after : System σ κ χ α} (hreaches : Reaches backend first system)
      (clock : Nat) (i : Nat) (m : Move)
      (hmove : ({ system with clock := clock }).move backend i m = some after) :
      Reaches backend first after

theorem Reaches.sound
    {first : System σ κ χ α} (hreaches : first.Reaches backend system)
    {keys : List String} {origin : Session σ κ χ}
    (hsound : first.Sound isReentrant keys origin) : system.Sound isReentrant keys origin := by
  induction hreaches with
  | refl => exact hsound
  | @move system after _ clock i m hmove ih =>
      have hclock :
          ({ system with clock := clock } : System σ κ χ α).Sound isReentrant keys origin :=
        ⟨ih.inOrder, ih.apart, ih.accounts⟩
      exact hclock.move hmove

/-- Exchanges that have not begun. -/
def opening (backend : Backend σ κ χ) (settings : Settings) (files : FileSystem)
    (session : Session σ κ χ) (requests : List (Url × Request)) :
    System σ κ χ (Except Failure Response) where
  session := session
  clock := 0
  tasks := requests.map fun (proxy, request) =>
    Task.start (settings.timeout.map Duration.nanoseconds)
      (.handshake settings files backend.library.isReentrant proxy request)

/-- A schedule is one of the orders in which the tasks may move. -/
theorem reaches_runFuel
    {first : System σ κ χ α} (fuel : Nat) (hreaches : first.Reaches backend system) :
    first.Reaches backend (system.runFuel backend fuel) := by
  induction fuel generalizing system with
  | zero => exact hreaches
  | succ fuel ih =>
      unfold runFuel
      split
      · exact hreaches
      · next choice _ =>
        split
        · exact hreaches
        · next after hmove => exact ih (hreaches.move choice.moment choice.index choice.move hmove)

theorem getElem?_opening
    {settings : Settings} {files : FileSystem} {requests : List (Url × Request)}
    {session : Session σ κ χ} {i : Nat} {task : Task κ χ (Except Failure Response)}
    (htask : (opening backend settings files session requests).tasks[i]? = some task) :
    ∃ proxy request, requests[i]? = some (proxy, request) ∧
      task = Task.start (settings.timeout.map Duration.nanoseconds)
        (.handshake settings files backend.library.isReentrant proxy request) := by
  simp only [opening, List.getElem?_map, Option.map_eq_some_iff] at htask
  obtain ⟨⟨proxy, request⟩, hrequest, rfl⟩ := htask
  exact ⟨proxy, request, hrequest, rfl⟩

theorem sound_opening
    (backend : Backend σ κ χ) (settings : Settings) (files : FileSystem)
    (session : Session σ κ χ) (requests : List (Url × Request)) :
    (opening backend settings files session requests).Sound backend.library.isReentrant
      (requests.map fun (proxy, _) => proxy.proxyKey) session := by
  constructor
  · intro i task htask
    obtain ⟨proxy, request, hrequest, rfl⟩ := getElem?_opening htask
    have horderly :=
      Exchange.orderly_handshake (κ := κ) (χ := χ) settings files backend.library.isReentrant
        proxy request
    refine ⟨proxy.proxyKey, by rw [List.getElem?_map, hrequest]; rfl, ⟨horderly, ?_⟩⟩
    intro _ hnever
    cases hnever
  · intro i j first second lock hfirst hsecond hlock
    obtain ⟨proxy, request, _, rfl⟩ := getElem?_opening hfirst
    cases hlock
  · refine ⟨[], (List.append_nil _).symm, ?_⟩
    have hnone :
        (opening backend settings files session requests).tasks.filterMap Task.held = [] := by
      rw [List.filterMap_eq_nil_iff]
      intro task hmem
      obtain ⟨⟨proxy, request⟩, _, rfl⟩ := List.mem_map.mp hmem
      rfl
    rw [hnone]
    exact .nil

/-- Where the library serves one negotiation at a time, of two exchanges through the same proxy that
are found negotiating at the same time one has been abandoned and waits for its call to end.  Every
context that was opened is closed or held by one of the exchanges. -/
theorem negotiate_in_turn
    (backend : Backend σ κ χ) (settings : Settings) (files : FileSystem)
    (session : Session σ κ χ) (requests : List (Url × Request))
    (system : System σ κ χ (Except Failure Response))
    (halone : backend.library.isReentrant = false)
    (hreaches : (opening backend settings files session requests).Reaches backend system) :
    (∃ calls, system.session.calls = session.calls ++ calls ∧
      (opened calls).Perm (closed calls ++ system.tasks.filterMap Task.held)) ∧
    ∀ (i j : Nat) (one other : Url × Request)
      (first second : Task κ χ (Except Failure Response)),
      requests[i]? = some one → requests[j]? = some other → i ≠ j →
      one.1.proxyKey = other.1.proxyKey →
      system.tasks[i]? = some first → system.tasks[j]? = some second →
      first.negotiates = true → second.negotiates = true →
      first.isLeaving = true ∨ second.isLeaving = true := by
  have hsound := hreaches.sound (sound_opening backend settings files session requests)
  refine ⟨hsound.accounts, ?_⟩
  intro i j one other first second hone hother hne hkey hfirst hsecond hfirstBusy hsecondBusy
  by_contra hstaying
  obtain ⟨hfirstStays, hsecondStays⟩ := not_or.mp hstaying
  have hturn {i : Nat} {request : Url × Request} {task : Task κ χ (Except Failure Response)}
      (hrequest : requests[i]? = some request) (htask : system.tasks[i]? = some task)
      (hbusy : task.negotiates = true) (hstays : ¬ task.isLeaving = true) :
      Lock.turn request.1.proxyKey ∈ task.locks := by
    obtain ⟨key, hfound, hinOrder⟩ := hsound.inOrder i task htask
    have hkeyEq : key = request.1.proxyKey := by
      rw [List.getElem?_map, hrequest] at hfound
      exact (Option.some.inj hfound).symm
    rw [← hkeyEq]
    exact hinOrder.inTurn (by simpa using hstays) hbusy halone
  have hfirstTurn := hturn hone hfirst hfirstBusy hfirstStays
  have hsecondTurn := hturn hother hsecond hsecondBusy hsecondStays
  rw [← hkey] at hsecondTurn
  exact hne (hsound.apart i j first second _ hfirst hsecond hfirstTurn hsecondTurn)

/-- Make moves one after another, as long as they can be made. -/
def follow (backend : Backend σ κ χ) (system : System σ κ χ α) :
    List (Nat × Move) → System σ κ χ α
  | [] => system
  | (i, m) :: rest =>
    match system.move backend i m with
    | none => system
    | some after => follow backend after rest

theorem Reaches.follow
    {first : System σ κ χ α} (hreaches : first.Reaches backend system)
    (moves : List (Nat × Move)) : first.Reaches backend (system.follow backend moves) := by
  induction moves generalizing system with
  | nil => exact hreaches
  | cons made rest ih =>
      unfold System.follow
      split
      · exact hreaches
      · next after hmove => exact ih (hreaches.move system.clock made.1 made.2 hmove)

end System

/-! ### Two contexts for one proxy -/

namespace Rehearsal

/-- The first exchange opens a context and is abandoned before it learns of it; the second takes its
turn and opens another. -/
def crowded : System Stage Handle Context (Except Failure Response) :=
  (System.opening negotiating lenient noFiles (.start .start)
    [(proxyUrl, .of .get targetUrl), (proxyUrl, .of .get targetUrl)]).follow negotiating
    [(0, .proceed), (0, .deliver), (0, .proceed), (0, .proceed), (0, .proceed), (0, .proceed),
      (0, .proceed), (0, .deliver), (0, .proceed), (0, .proceed), (0, .proceed), (0, .abandon),
      (1, .proceed), (1, .deliver), (1, .proceed), (1, .proceed), (1, .proceed), (1, .proceed),
      (1, .proceed), (1, .proceed)]

theorem negotiate_in_turn_crowded :
    ∃ first second,
      crowded.tasks[0]? = some first ∧ crowded.tasks[1]? = some second ∧
      first.held.isSome = true ∧ second.held.isSome = true ∧
      (first.isLeaving = true ∨ second.isLeaving = true) := by
  have hreaches :
      (System.opening negotiating lenient noFiles (.start .start)
        [(proxyUrl, .of .get targetUrl), (proxyUrl, .of .get targetUrl)]).Reaches negotiating
        crowded :=
    System.Reaches.follow .refl _
  obtain ⟨_, hturn⟩ :=
    System.negotiate_in_turn negotiating lenient noFiles (.start .start)
      [(proxyUrl, .of .get targetUrl), (proxyUrl, .of .get targetUrl)] crowded rfl hreaches
  refine ⟨_, _, rfl, rfl, rfl, rfl, ?_⟩
  exact hturn 0 1 _ _ _ _ rfl rfl (by decide) rfl rfl rfl rfl rfl

end Rehearsal
end ProxyHandshake
