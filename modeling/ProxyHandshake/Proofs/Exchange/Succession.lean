import ProxyHandshake.Proofs.Exchange.Chronicle
import ProxyHandshake.Proofs.Exchange.Contexts

/-!
# Exchanges one after another

An exchange begins when all before it have returned.  One that was cut off by its deadline returns at
once, also when a call of the library goes on; the context that this call opens or steps is closed when
it ends, and until then a later exchange may have opened its own.

Every exchange lives by the rules of `Life`, opens at most one context and uses no other.  When it has
returned, its context is closed, unless the deadline came in the midst of a call that still goes on.
So of all contexts that are open at the same time only one is not waiting for such a call to end.
-/

namespace ProxyHandshake

variable {σ κ χ α : Type}

namespace Task

/-- Whether whoever asked for an exchange has its result. -/
def hasReturned (task : Task κ χ α) : Bool :=
  match task.phase with
  | .finished _ | .leaving _ _ | .abandoned => true
  | .running _ | .calling .. => false

/-! ## One move -/

/-- What becomes of a task by a move, and the calls that are made for it. -/
inductive Makes (task : Task κ χ α) : Move → Task κ χ α → List (Call κ χ) → Prop
  /-- It ends, or takes the answer to a call. -/
  | passes {m : Move} {next : Task κ χ α} (hbusy : task.hasReturned = false)
      (hrest : next.rest? = task.rest?) (hheld : next.held = task.held) : Makes task m next []
  | asks {m : Move} {next : Task κ χ α} {calls : List (Call κ χ)} (demand : Demand κ χ)
      {rest : demand.Answer → Exchange κ χ α} {answer : demand.Answer}
      (hbusy : task.hasReturned = false) (hrest : task.rest? = some (.ask demand rest))
      (hmakes : demand.Makes answer calls) (hnext : next.rest? = some (rest answer))
      (hheld : next.held = Session.heldAfter task.held demand answer) : Makes task m next calls
  /-- It is abandoned while a call goes on. -/
  | leaves {demand : Demand κ χ} {answer : demand.Answer} (hcall : demand.isLibraryCall = true) :
      Makes task .abandon { task with phase := .leaving demand answer, locks := [] } []
  /-- It is abandoned, or its call ends after that. -/
  | closes {m : Move} {next : Task κ χ α} (hphase : next.phase = .abandoned)
      (hheld : next.held = none) : Makes task m next (task.held.map Call.closed).toList

end Task

namespace System

variable {backend : Backend σ κ χ} {system : System σ κ χ α} {task next : Task κ χ α}
  {session : Session σ κ χ}

theorem makes_of_proceed (hproceed : system.proceed backend task = some (next, session)) :
    ∃ calls, session.calls = system.session.calls ++ calls ∧ task.Makes .proceed next calls := by
  unfold proceed at hproceed
  split at hproceed
  · next a hphase =>
    cases hproceed
    refine ⟨[], (List.append_nil _).symm, .passes ?_ ?_ rfl⟩
    · simp [Task.hasReturned, hphase]
    · simp [Task.rest?, hphase]
  · next demand rest hphase =>
    have hbusy : task.hasReturned = false := by simp [Task.hasReturned, hphase]
    have hrest : task.rest? = some (.ask demand rest) := by simp [Task.rest?, hphase]
    obtain ⟨calls, hcalls, hmakes⟩ := Session.makes_perform backend system.session demand
    split at hproceed
    · cases hproceed
    · simp only at hproceed
      split at hproceed
      · cases hproceed
        exact ⟨calls, hcalls, .asks demand hbusy hrest hmakes rfl rfl⟩
      · cases hproceed
        exact ⟨calls, hcalls, .asks demand hbusy hrest hmakes rfl rfl⟩
  · cases hproceed

theorem makes_of_deliver (hdeliver : system.deliver backend task = some (next, session)) :
    ∃ calls, session.calls = system.session.calls ++ calls ∧ task.Makes .deliver next calls := by
  unfold deliver at hdeliver
  split at hdeliver
  · next demand answer rest hphase =>
    cases hdeliver
    refine ⟨[], (List.append_nil _).symm, .passes ?_ ?_ rfl⟩
    · simp [Task.hasReturned, hphase]
    · simp [Task.rest?, hphase]
  · cases hdeliver
    exact ⟨_, Session.calls_closeHeld backend system.session task.held, .closes rfl rfl⟩
  · cases hdeliver

theorem makes_of_abandon (habandon : system.abandon backend task = some (next, session)) :
    ∃ calls, session.calls = system.session.calls ++ calls ∧ task.Makes .abandon next calls := by
  have hclosed := Session.calls_closeHeld backend system.session task.held
  unfold abandon at habandon
  simp only at habandon
  split at habandon
  · cases habandon
    exact ⟨_, hclosed, .closes rfl rfl⟩
  · split at habandon
    · next hcall =>
      cases habandon
      exact ⟨[], (List.append_nil _).symm, .leaves hcall⟩
    · cases habandon
      exact ⟨_, hclosed, .closes rfl rfl⟩
  · cases habandon

theorem makes_of_move
    {index : Nat} {m : Move} {after : System σ κ χ α}
    (hmove : system.move backend index m = some after) :
    ∃ task next session calls,
      system.tasks[index]? = some task ∧
      session.calls = system.session.calls ++ calls ∧
      task.Makes m next calls ∧
      after = { system with session := session, tasks := system.tasks.set index next } := by
  obtain ⟨task, next, session, htask, hmade, hafter⟩ := move_eq_some_iff.mp hmove
  have hmakes :
      ∃ calls, session.calls = system.session.calls ++ calls ∧ task.Makes m next calls := by
    cases m with
    | proceed => exact makes_of_proceed hmade
    | deliver => exact makes_of_deliver hmade
    | abandon => exact makes_of_abandon hmade
  obtain ⟨calls, hcalls, hmakes⟩ := hmakes
  exact ⟨task, next, session, calls, htask, hcalls, hmakes, hafter⟩

end System

/-! ## One exchange -/

namespace Task

variable {task next : Task κ χ α} {clock : Nat} {calls later : List (Call κ χ)}

/-- A task that has made these calls lives by the rules.  If it was abandoned, its context is closed or
its time was up while a call went on that has not ended yet. -/
structure Keeps (clock : Nat) (task : Task κ χ α) (calls : List (Call κ χ)) : Prop where
  lives :
    ∃ life, Life.unopened.Goes calls life ∧ life.context? = task.held ∧
      ∀ rest, task.rest? = some rest → rest.Lives (·.context? = none) life
  overdue :
    ∀ demand answer, task.phase = .leaving demand answer →
      demand.isLibraryCall = true ∧ ∃ deadline, task.deadline = some deadline ∧ deadline ≤ clock
  gone : task.phase = .abandoned → task.held = none

theorem Keeps.of_le {sooner : Nat} (hkeeps : task.Keeps sooner calls) (hle : sooner ≤ clock) :
    task.Keeps clock calls := by
  refine ⟨hkeeps.lives, ?_, hkeeps.gone⟩
  intro demand answer hphase
  obtain ⟨hcall, deadline, hdeadline, hover⟩ := hkeeps.overdue demand answer hphase
  exact ⟨hcall, deadline, hdeadline, Nat.le_trans hover hle⟩

theorem exists_rest (hbusy : task.hasReturned = false) : ∃ rest, task.rest? = some rest := by
  obtain ⟨phase, since, deadline, locks, held⟩ := task
  cases phase with
  | running | calling => exact ⟨_, rfl⟩
  | finished | leaving | abandoned => cases hbusy

/-- A task with something to do keeps to the rules if what it has done and is to do does. -/
theorem Keeps.of_rest
    {life : Life χ} (hgoes : Life.unopened.Goes calls life) (hcontext : life.context? = task.held)
    {rest : Exchange κ χ α} (hrest : task.rest? = some rest)
    (hlives : rest.Lives (·.context? = none) life) : task.Keeps clock calls := by
  refine ⟨⟨life, hgoes, hcontext, ?_⟩, ?_, ?_⟩
  · intro other hother
    rw [hrest, Option.some.injEq] at hother
    exact hother ▸ hlives
  · intro demand answer hphase
    simp [rest?, hphase] at hrest
  · intro hphase
    simp [rest?, hphase] at hrest

/-- A move of a task that keeps to the rules keeps to them, and loses no context. -/
theorem Keeps.makes
    {m : Move} (hkeeps : task.Keeps clock calls) (hmakes : task.Makes m next later)
    (hdue : m = .abandon → ∃ deadline, task.deadline = some deadline ∧ deadline ≤ clock) :
    next.Keeps clock (calls ++ later) ∧ Accounts task.held later next.held := by
  obtain ⟨life, hgoes, hcontext, hlives⟩ := hkeeps.lives
  cases hmakes with
  | passes hbusy hsame hheld =>
      obtain ⟨rest, hrest⟩ := exists_rest hbusy
      rw [List.append_nil, hheld]
      rw [← hheld] at hcontext
      exact ⟨.of_rest hgoes hcontext (hsame.trans hrest) (hlives rest hrest), .refl _⟩
  | asks demand hbusy hrest hmakes hnext hheld =>
      obtain ⟨after, hafter, hopen, hrestLives⟩ := (hlives _ hrest).of_ask hmakes
      rw [hcontext, ← hheld] at hopen
      have haccounts := hafter.accounts
      rw [hcontext, hopen] at haccounts
      exact ⟨.of_rest (hgoes.append hafter) hopen hnext hrestLives, haccounts⟩
  | leaves hcall =>
      rw [List.append_nil]
      refine ⟨⟨⟨life, hgoes, hcontext, ?_⟩, ?_, ?_⟩, .refl _⟩
      · intro rest hrest
        cases hrest
      · intro demand answer hphase
        cases hphase
        exact ⟨hcall, hdue rfl⟩
      · intro hphase
        cases hphase
  | closes hphase hheld =>
      have hnone : next.rest? = none := by simp [rest?, hphase]
      have hover : ∃ after, life.Goes (task.held.map Call.closed : Option (Call κ χ)).toList after ∧
          after.context? = none := by
        cases hopen : task.held with
        | none => exact ⟨life, .nil life, hcontext.trans hopen⟩
        | some context => exact ⟨.over, .cons (.closed (hcontext.trans hopen)) (.nil _), rfl⟩
      obtain ⟨after, hafter, hclosed⟩ := hover
      rw [hheld]
      refine ⟨⟨⟨after, hgoes.append hafter, hclosed.trans hheld.symm, ?_⟩, ?_, fun _ => hheld⟩,
        .close task.held⟩
      · intro rest hrest
        rw [hnone] at hrest
        cases hrest
      · intro demand answer hleaving
        rw [hphase] at hleaving
        cases hleaving

theorem hasReturned_of_makes
    {m : Move} (hmakes : task.Makes m next later) (hreturned : task.hasReturned = true) :
    next.hasReturned = true := by
  cases hmakes with
  | passes hbusy | asks _ hbusy =>
      rw [hreturned] at hbusy
      cases hbusy
  | leaves => rfl
  | closes hphase => simp [hasReturned, hphase]

/-- What the exchange of a task that keeps to the rules has done with contexts. -/
structure Owns (clock : Nat) (task : Task κ χ α) (calls : List (Call κ χ)) : Prop where
  life : ∃ life, Life.unopened.Goes calls life ∧ life.context? = task.held
  opened_eq : opened calls = closed calls ++ task.held.toList
  opened_length : (opened calls).length ≤ 1
  inputs : ∃ token, stepInputs calls <+: [none, some token]
  /-- What has returned with its context open was cut off while a call went on. -/
  returned : task.hasReturned = true → task.held.isSome = true →
    ∃ demand answer deadline, task.phase = .leaving demand answer ∧ demand.isLibraryCall = true ∧
      task.deadline = some deadline ∧ deadline ≤ clock

theorem Keeps.owns (hkeeps : task.Keeps clock calls) : task.Owns clock calls := by
  obtain ⟨life, hgoes, hcontext, hlives⟩ := hkeeps.lives
  have haccounts : opened calls = closed calls ++ life.context?.toList := hgoes.accounts
  have hone : (opened calls).length + life.opensLeft ≤ 1 := hgoes.opened_length
  refine ⟨⟨life, hgoes, hcontext⟩, by rw [haccounts, hcontext], by omega, hgoes.stepInputs, ?_⟩
  intro hreturned hopen
  cases hphase : task.phase with
  | running | calling => simp [hasReturned, hphase] at hreturned
  | finished a =>
      have hnone : life.context? = none := (hlives (.done a) (by simp [rest?, hphase])).of_done
      rw [← hcontext, hnone] at hopen
      cases hopen
  | leaving demand answer =>
      obtain ⟨hcall, deadline, hdeadline, hover⟩ := hkeeps.overdue demand answer hphase
      exact ⟨demand, answer, deadline, rfl, hcall, hdeadline, hover⟩
  | abandoned =>
      rw [hkeeps.gone hphase] at hopen
      cases hopen

end Task

/-! ## One exchange after another -/

namespace System

/-- The system when one more exchange has begun. -/
def begun (backend : Backend σ κ χ) (settings : Settings) (files : FileSystem) (proxy : Url)
    (request : Request) (system : System σ κ χ (Except Failure Response)) :
    System σ κ χ (Except Failure Response) :=
  let deadline := settings.timeout.map fun limit => system.clock + limit.nanoseconds
  let task := Task.start deadline
    (.handshake settings files backend.library.isReentrant proxy request)
  { system with tasks := system.tasks ++ [{ task with since := system.clock }] }

/-- A system in which exchanges follow one another, with the calls that were made for each.  An
exchange begins when all before it have returned, and is abandoned only when its time is up; between
the moves anything may happen outside. -/
inductive Succession (backend : Backend σ κ χ) (settings : Settings) (origin : Session σ κ χ) :
    List (Nat × Call κ χ) → System σ κ χ (Except Failure Response) → Prop
  | start : Succession backend settings origin [] ⟨origin, 0, []⟩
  | begin {made : List (Nat × Call κ χ)} {system : System σ κ χ (Except Failure Response)}
      (hsooner : Succession backend settings origin made system)
      (hreturned : ∀ task ∈ system.tasks, task.hasReturned = true)
      (files : FileSystem) (proxy : Url) (request : Request) :
      Succession backend settings origin made (system.begun backend settings files proxy request)
  | pass {made : List (Nat × Call κ χ)} {system : System σ κ χ (Except Failure Response)}
      (hsooner : Succession backend settings origin made system) (outside : σ) :
      Succession backend settings origin made
        { system with session := system.session.resume outside }
  | move {made : List (Nat × Call κ χ)} {system after : System σ κ χ (Except Failure Response)}
      (hsooner : Succession backend settings origin made system) (clock index : Nat) (m : Move)
      (hlater : system.clock ≤ clock)
      (hdue : m = .abandon → ∃ task deadline, system.tasks[index]? = some task ∧
        task.deadline = some deadline ∧ deadline ≤ clock)
      (hmove : ({ system with clock := clock }).move backend index m = some after) :
      Succession backend settings origin
        (made ++ (after.session.calls.drop system.session.calls.length).map fun call =>
          (index, call))
        after

/-- What is kept by exchanges that follow one another. -/
structure Keeps (origin : Session σ κ χ) (made : List (Nat × Call κ χ))
    (system : System σ κ χ α) : Prop where
  calls_eq : system.session.calls = origin.calls ++ made.map Prod.snd
  balance :
    (opened (made.map Prod.snd)).Perm
      (closed (made.map Prod.snd) ++ system.tasks.filterMap Task.held)
  tasks :
    ∀ (i : Nat) (task : Task κ χ α), system.tasks[i]? = some task →
      task.Keeps system.clock (own i made)
  returned :
    ∀ (i : Nat) (task : Task κ χ α), system.tasks[i]? = some task → i + 1 < system.tasks.length →
      task.hasReturned = true
  unmade : ∀ i, system.tasks.length ≤ i → own i made = []

variable {backend : Backend σ κ χ} {origin : Session σ κ χ} {made : List (Nat × Call κ χ)}

theorem getElem?_concat_cases
    {tasks : List (Task κ χ α)} {last found : Task κ χ α} {i : Nat}
    (hfound : (tasks ++ [last])[i]? = some found) :
    tasks[i]? = some found ∨ i = tasks.length ∧ found = last := by
  by_cases hlast : i < tasks.length
  · rw [List.getElem?_append_left hlast] at hfound
    exact .inl hfound
  · rw [List.getElem?_append_right (by omega)] at hfound
    obtain ⟨hbound, hget⟩ := List.getElem?_eq_some_iff.mp hfound
    rw [List.length_singleton] at hbound
    refine .inr ⟨by omega, ?_⟩
    rw [← hget]
    simp

theorem Keeps.begun
    {system : System σ κ χ (Except Failure Response)} (hkeeps : system.Keeps origin made)
    (hreturned : ∀ task ∈ system.tasks, task.hasReturned = true)
    (settings : Settings) (files : FileSystem) (proxy : Url) (request : Request) :
    (system.begun backend settings files proxy request).Keeps origin made := by
  constructor
  · exact hkeeps.calls_eq
  · have hbalance := hkeeps.balance
    have hnone :
        (system.begun backend settings files proxy request).tasks.filterMap Task.held =
          system.tasks.filterMap Task.held := by
      simp [System.begun, Task.start]
    rwa [hnone]
  · intro i task hfound
    rcases getElem?_concat_cases hfound with hsooner | ⟨rfl, rfl⟩
    · exact hkeeps.tasks i task hsooner
    · rw [hkeeps.unmade _ (Nat.le_refl _)]
      exact
        .of_rest (.nil _) rfl rfl
          (Exchange.lives_handshake settings files backend.library.isReentrant proxy request)
  · intro i task hfound hbound
    rcases getElem?_concat_cases hfound with hsooner | ⟨rfl, _⟩
    · exact hreturned task (List.mem_of_getElem? hsooner)
    · simp [System.begun] at hbound
  · intro i hbound
    simp only [System.begun, List.length_append, List.length_singleton] at hbound
    exact hkeeps.unmade i (by omega)

theorem Keeps.move
    {system after : System σ κ χ α} (hkeeps : system.Keeps origin made) {clock index : Nat} {m : Move}
    (hlater : system.clock ≤ clock)
    (hdue : m = .abandon → ∃ task deadline, system.tasks[index]? = some task ∧
      task.deadline = some deadline ∧ deadline ≤ clock)
    (hmove : ({ system with clock := clock }).move backend index m = some after) :
    after.Keeps origin
      (made ++ (after.session.calls.drop system.session.calls.length).map fun call =>
        (index, call)) := by
  obtain ⟨task, next, session, calls, htask, hcalls, hmakes, rfl⟩ := makes_of_move hmove
  have htask : system.tasks[index]? = some task := htask
  have hcalls : session.calls = system.session.calls ++ calls := hcalls
  have hadded : session.calls.drop system.session.calls.length = calls := by
    rw [hcalls, List.drop_left]
  have hdueTask :
      m = .abandon → ∃ deadline, task.deadline = some deadline ∧ deadline ≤ clock := by
    intro habandon
    obtain ⟨found, deadline, hfound, hdeadline, hover⟩ := hdue habandon
    obtain rfl : found = task := by simpa [hfound] using htask
    exact ⟨deadline, hdeadline, hover⟩
  obtain ⟨hnext, haccounts⟩ :=
    ((hkeeps.tasks index task htask).of_le hlater).makes hmakes hdueTask
  simp only [hadded]
  have hsnd : (calls.map fun call => (index, call)).map Prod.snd = calls := by
    simp [Function.comp_def]
  constructor
  · rw [List.map_append, hsnd, hcalls, hkeeps.calls_eq, List.append_assoc]
  · rw [List.map_append, hsnd]
    exact balance_set htask hkeeps.balance haccounts
  · intro i found hfound
    rw [own_append, own_map]
    rcases getElem?_set_cases hfound with ⟨rfl, rfl⟩ | ⟨hne, hother⟩
    · rw [if_pos rfl]
      exact hnext
    · rw [if_neg (Ne.symm hne), List.append_nil]
      exact (hkeeps.tasks i found hother).of_le hlater
  · intro i found hfound hbound
    rw [List.length_set] at hbound
    rcases getElem?_set_cases hfound with ⟨rfl, rfl⟩ | ⟨_, hother⟩
    · exact Task.hasReturned_of_makes hmakes (hkeeps.returned index task htask hbound)
    · exact hkeeps.returned i found hother hbound
  · intro i hbound
    rw [List.length_set] at hbound
    obtain ⟨hindex, _⟩ := List.getElem?_eq_some_iff.mp htask
    have hne : i ≠ index := by
      rintro rfl
      exact absurd hindex (by omega)
    rw [own_append, own_map, if_neg hne, List.append_nil]
    exact hkeeps.unmade i hbound

variable {settings : Settings} {system : System σ κ χ (Except Failure Response)}

theorem Succession.keeps (hsuccession : Succession backend settings origin made system) :
    system.Keeps origin made := by
  induction hsuccession with
  | start =>
      refine ⟨(List.append_nil _).symm, .nil, ?_, ?_, fun _ _ => rfl⟩
      · intro i task htask
        cases htask
      · intro i task htask
        cases htask
  | begin _ hreturned files proxy request ih => exact ih.begun hreturned settings files proxy request
  | pass _ outside ih => exact ⟨ih.calls_eq, ih.balance, ih.tasks, ih.returned, ih.unmade⟩
  | move _ clock index m hlater hdue hmove ih => exact ih.move hlater hdue hmove

/-- When its call ends, an exchange that was cut off closes the context that it still has. -/
theorem exists_deliver
    {system : System σ κ χ α} {i : Nat} {task : Task κ χ α} (htask : system.tasks[i]? = some task)
    (hleaving : task.isLeaving = true) :
    ∃ after, system.move backend i .deliver = some after ∧
      after.session.calls = system.session.calls ++ (task.held.map Call.closed).toList ∧
      after.tasks = system.tasks.set i { task with phase := .abandoned, held := none } := by
  obtain ⟨phase, since, deadline, locks, held⟩ := task
  cases phase with
  | leaving demand answer =>
      let gone : Task κ χ α := ⟨.abandoned, since, deadline, locks, none⟩
      let after : System σ κ χ α :=
        { system with
          session := system.session.closeHeld backend held
          tasks := system.tasks.set i gone }
      refine ⟨after, ?_, Session.calls_closeHeld backend system.session held, rfl⟩
      rw [move_eq_some_iff]
      exact ⟨_, gone, _, htask, rfl, rfl⟩
  | running | calling | finished | abandoned => cases hleaving

/-- Whatever the library, the proxies and the deadline do to exchanges that follow one another, each
opens at most one context, uses no other and gives it at most two inputs.  A context that is open
when its exchange has returned is that of a call that went on when the time was up and still goes on;
it is closed as the call ends.  So of two contexts that are open at the same time, that of the earlier
exchange waits for such a call. -/
theorem succession_contexts (hsuccession : Succession backend settings origin made system) :
    system.session.calls = origin.calls ++ made.map Prod.snd ∧
    (opened (made.map Prod.snd)).Perm
      (closed (made.map Prod.snd) ++ system.tasks.filterMap Task.held) ∧
    (∀ (i : Nat) (task : Task κ χ (Except Failure Response)), system.tasks[i]? = some task →
      task.Owns system.clock (own i made)) ∧
    (∀ (i j : Nat) (first second : Task κ χ (Except Failure Response)),
      system.tasks[i]? = some first → system.tasks[j]? = some second → i < j →
      first.held.isSome = true → first.isLeaving = true) ∧
    ∀ (i : Nat) (task : Task κ χ (Except Failure Response)), system.tasks[i]? = some task →
      task.isLeaving = true →
      ∃ after, system.move backend i .deliver = some after ∧
        after.session.calls = system.session.calls ++ (task.held.map Call.closed).toList ∧
        after.tasks = system.tasks.set i { task with phase := .abandoned, held := none } := by
  have hkeeps := hsuccession.keeps
  refine ⟨hkeeps.calls_eq, hkeeps.balance, fun i task htask => (hkeeps.tasks i task htask).owns,
    ?_, fun i task htask hleaving => exists_deliver htask hleaving⟩
  intro i j first second hfirst hsecond hsooner hopen
  have hbound := (List.getElem?_eq_some_iff.mp hsecond).1
  have hreturned := hkeeps.returned i first hfirst (by omega)
  obtain ⟨demand, answer, _, hphase, _⟩ :=
    (hkeeps.tasks i first hfirst).owns.returned hreturned hopen
  simp [Task.isLeaving, hphase]

/-- Moves by which no exchange is abandoned may be made at once. -/
theorem Succession.exists_follow
    (hsuccession : Succession backend settings origin made system) (moves : List (Nat × Move))
    (hstay : ∀ chosen ∈ moves, chosen.2 ≠ .abandon) :
    ∃ later, Succession backend settings origin (made ++ later) (system.follow backend moves) := by
  induction moves generalizing made system with
  | nil => exact ⟨[], by rw [List.append_nil]; exact hsuccession⟩
  | cons chosen rest ih =>
      unfold System.follow
      cases hmove : system.move backend chosen.1 chosen.2 with
      | none => exact ⟨[], by rw [List.append_nil]; exact hsuccession⟩
      | some after =>
          have hchosen := hstay chosen List.mem_cons_self
          have hnext :=
            hsuccession.move system.clock chosen.1 chosen.2 (Nat.le_refl _)
              (fun habandon => absurd habandon hchosen) hmove
          obtain ⟨later, hlater⟩ :=
            ih hnext fun chosen hmem => hstay chosen (List.mem_cons_of_mem _ hmem)
          rw [List.append_assoc] at hlater
          exact ⟨_, hlater⟩

end System

/-! ### A context that outlives its exchange -/

namespace Rehearsal

def hurried : Settings := { lenient with timeout := some (.ofSeconds 5) }

/-- The first exchange, when the library has been opening a context for five seconds. -/
def waiting : System Stage Handle Context (Except Failure Response) :=
  { (System.begun negotiating hurried noFiles proxyUrl (.of .get targetUrl)
        ⟨.start .start, 0, []⟩).follow negotiating
      [(0, .proceed), (0, .deliver), (0, .proceed), (0, .proceed), (0, .proceed), (0, .proceed),
        (0, .proceed), (0, .deliver), (0, .proceed), (0, .proceed), (0, .proceed)] with
    clock := 5000000000 }

/-- The first exchange has been cut off. -/
def timedOut : System Stage Handle Context (Except Failure Response) :=
  waiting.follow negotiating [(0, .abandon)]

/-- The second exchange has opened a context of its own. -/
def outlived : System Stage Handle Context (Except Failure Response) :=
  (System.begun negotiating hurried noFiles proxyUrl (.of .get targetUrl) timedOut).follow
    negotiating
    [(1, .proceed), (1, .deliver), (1, .proceed), (1, .proceed), (1, .proceed), (1, .proceed),
      (1, .proceed), (1, .proceed)]

theorem exists_timedOut :
    ∃ made, System.Succession negotiating hurried (.start .start) made timedOut := by
  obtain ⟨made, hmade⟩ :=
    System.Succession.exists_follow
      (System.Succession.begin .start (fun _ hmem => absurd hmem List.not_mem_nil) noFiles proxyUrl
        (.of .get targetUrl))
      [(0, .proceed), (0, .deliver), (0, .proceed), (0, .proceed), (0, .proceed), (0, .proceed),
        (0, .proceed), (0, .deliver), (0, .proceed), (0, .proceed), (0, .proceed)]
      (by decide)
  have hdue :
      Move.abandon = .abandon → ∃ task deadline, waiting.tasks[0]? = some task ∧
        task.deadline = some deadline ∧ deadline ≤ 5000000000 :=
    fun _ => ⟨_, 5000000000, rfl, rfl, Nat.le_refl _⟩
  have hmove : waiting.move negotiating 0 .abandon = some timedOut := rfl
  exact ⟨_, hmade.move 5000000000 0 .abandon (Nat.zero_le _) hdue hmove⟩

theorem exists_outlived :
    ∃ made, System.Succession negotiating hurried (.start .start) made outlived := by
  obtain ⟨made, hmade⟩ := exists_timedOut
  have hreturned : ∀ task ∈ timedOut.tasks, task.hasReturned = true :=
    List.all_eq_true.mp (rfl : timedOut.tasks.all Task.hasReturned = true)
  obtain ⟨later, hlater⟩ :=
    (hmade.begin hreturned noFiles proxyUrl (.of .get targetUrl)).exists_follow
      [(1, .proceed), (1, .deliver), (1, .proceed), (1, .proceed), (1, .proceed), (1, .proceed),
        (1, .proceed), (1, .proceed)]
      (by decide)
  exact ⟨_, hlater⟩

/-- A context may be open when all exchanges have returned, and another may be opened beside it. -/
theorem returned_with_open_context :
    (∃ made, System.Succession negotiating hurried (.start .start) made timedOut) ∧
      timedOut.tasks.all Task.hasReturned = true ∧
      (opened timedOut.session.calls).length = 1 ∧ closed timedOut.session.calls = [] ∧
      (∃ made, System.Succession negotiating hurried (.start .start) made outlived) ∧
      (opened outlived.session.calls).length = 2 ∧ closed outlived.session.calls = [] :=
  ⟨exists_timedOut, rfl, rfl, rfl, exists_outlived, rfl, rfl⟩

/-- The context of the first exchange is its only one, and is closed when the library is done. -/
theorem succession_contexts_outlived :
    ∃ made first second context,
      System.Succession negotiating hurried (.start .start) made outlived ∧
      outlived.tasks = [first, second] ∧ first.held = some context ∧
      second.held.isSome = true ∧ first.isLeaving = true ∧ opened (own 0 made) = [context] ∧
      ∃ after, outlived.move negotiating 0 .deliver = some after ∧
        after.session.calls = outlived.session.calls ++ [.closed context] := by
  obtain ⟨made, hmade⟩ := exists_outlived
  obtain ⟨first, second, context, htasks, hheld, hother⟩ :
      ∃ first second context, outlived.tasks = [first, second] ∧ first.held = some context ∧
        second.held.isSome = true := ⟨_, _, _, rfl, rfl, rfl⟩
  have hfirst : outlived.tasks[0]? = some first := by rw [htasks]; rfl
  have hsecond : outlived.tasks[1]? = some second := by rw [htasks]; rfl
  obtain ⟨_, _, howns, hsooner, hdeliver⟩ := System.succession_contexts hmade
  have hleaving := hsooner 0 1 first second hfirst hsecond (by decide) (by rw [hheld]; rfl)
  obtain ⟨after, hafter, hcalls, _⟩ := hdeliver 0 first hfirst hleaving
  rw [hheld] at hcalls
  refine ⟨made, first, second, context, hmade, htasks, hheld, hother, hleaving, ?_, after, hafter,
    hcalls⟩
  have hopened := (howns 0 first hfirst).opened_eq
  have hone := (howns 0 first hfirst).opened_length
  rw [hopened, List.length_append, hheld, Option.toList_some, List.length_singleton] at hone
  have hclosed : closed (own 0 made) = [] := List.eq_nil_of_length_eq_zero (by omega)
  rw [hopened, hclosed, hheld]
  rfl

end Rehearsal
end ProxyHandshake
