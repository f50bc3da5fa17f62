import ProxyHandshake.Proofs.Exchange.Exclusion
import ProxyHandshake.Proofs.Exchange.History
import ProxyHandshake.Proofs.Exchange.Rules

/-!
# Chronicles of exchanges at the same time

The chronicle of a run says which demands were met, of which exchange, in which order and with which
answers.  Between the moves anything may happen outside, but the clock goes on.

A move changes little.  It meets one demand of one exchange, or none; an exchange that is not abandoned
goes on with its program, and one that is abandoned has given its locks back.  So every exchange obeys
the rules of its program whatever the others do, and what holds after the first event of a run and is
kept by each later one holds at its end.
-/

namespace ProxyHandshake

variable {σ κ χ α : Type}

/-! ## What a task has still to do -/

def Demand.isAcquisition : Demand κ χ → Bool
  | .acquire _ => true
  | _ => false

namespace Task

/-- What a task has still to do, unless it was abandoned. -/
def rest? (task : Task κ χ α) : Option (Exchange κ χ α) :=
  match task.phase with
  | .running program => some program
  | .calling _ answer next => some (next answer)
  | .finished a => some (.done a)
  | .leaving _ _ | .abandoned => none

/-- Whether a handle is being acquired for a task. -/
def isAcquiring (task : Task κ χ α) : Bool :=
  match task.phase with
  | .calling demand _ _ | .leaving demand _ => demand.isAcquisition
  | .running _ | .finished _ | .abandoned => false

end Task

/-! ## Chronicles -/

section

variable {γ : Type}

/-- What happened to the task at `index`, among all that happened to the tasks. -/
def own (index : Nat) (events : List (Nat × γ)) : List γ :=
  (events.filter fun event => event.1 = index).map (·.2)

@[simp] theorem own_nil (index : Nat) : own index ([] : List (Nat × γ)) = [] := rfl

@[simp] theorem own_append (index : Nat) (events later : List (Nat × γ)) :
    own index (events ++ later) = own index events ++ own index later := by
  simp [own]

theorem own_map (index other : Nat) (events : List γ) :
    own other (events.map fun event => (index, event)) = if other = index then events else [] := by
  by_cases hother : other = index
  · subst hother
    simp [own, List.filter_map, Function.comp_def]
  · have hne : index ≠ other := fun heq => hother heq.symm
    simp [own, List.filter_map, Function.comp_def, hother, hne]

theorem mem_own {index : Nat} {event : γ} {events : List (Nat × γ)} :
    event ∈ own index events ↔ (index, event) ∈ events := by
  simp [own]

end

namespace System

/-- The demand that a move of the task at `index` meets, if it meets one. -/
def met (backend : Backend σ κ χ) (system : System σ κ χ α) (index : Nat) (m : Move) :
    List (Nat × Told κ χ) :=
  match m, system.tasks[index]?.map Task.phase with
  | .proceed, some (.running (.ask demand _)) =>
    [(index, ⟨demand, (system.session.perform backend demand).1.1⟩)]
  | _, _ => []

/-- A system that can come about by moves of its tasks, in any order and at any time, and the chronicle
of them. -/
inductive Runs (backend : Backend σ κ χ) (first : System σ κ χ α) :
    List (Nat × Told κ χ) → System σ κ χ α → Prop
  | refl : Runs backend first [] first
  | pass {events : List (Nat × Told κ χ)} {system : System σ κ χ α}
      (hruns : Runs backend first events system) (outside : σ)
      (hlater : backend.now system.session.outside ≤ backend.now outside) :
      Runs backend first events { system with session := system.session.resume outside }
  | move {events : List (Nat × Told κ χ)} {system after : System σ κ χ α}
      (hruns : Runs backend first events system) (clock : Nat) (index : Nat) (m : Move)
      (hmove : ({ system with clock := clock }).move backend index m = some after) :
      Runs backend first (events ++ system.met backend index m) after

/-! ## What a move changes -/

variable {backend : Backend σ κ χ} {system : System σ κ χ α} {task next : Task κ χ α}
  {session : Session σ κ χ}

/-- What can become of a task and of the session by one move, and what the task is told. -/
inductive Change (backend : Backend σ κ χ) (system : System σ κ χ α) (task next : Task κ χ α) :
    Session σ κ χ → List (Told κ χ) → Prop
  | met (demand : Demand κ χ) (rest : demand.Answer → Exchange κ χ α)
      (hrest : task.rest? = some (.ask demand rest))
      (hfree : ∀ lock, demand = .take lock → system.isFree lock = true)
      (hnext : next.rest? = some (rest (system.session.perform backend demand).1.1))
      (hlocks : next.locks = Task.locksAfter task.locks demand)
      (hacquiring : next.isAcquiring = true → demand.isAcquisition = true) :
      Change backend system task next (system.session.perform backend demand).2
        [⟨demand, (system.session.perform backend demand).1.1⟩]
  /-- The task stays as it was or is abandoned, and something may be closed. -/
  | quiet (held : Option χ)
      (hnext : next.rest? = task.rest? ∧ next.locks = task.locks ∨
        next.rest? = none ∧ next.locks = [])
      (hacquiring : next.isAcquiring = true → task.isAcquiring = true) :
      Change backend system task next (system.session.closeHeld backend held) []

theorem change_of_proceed
    (hproceed : system.proceed backend task = some (next, session)) {index : Nat}
    (htask : system.tasks[index]? = some task) :
    ∃ told, system.met backend index .proceed = told.map (fun told => (index, told)) ∧
      system.Change backend task next session told := by
  unfold proceed at hproceed
  split at hproceed
  · next a hphase =>
    cases hproceed
    refine ⟨[], by simp [met, htask, hphase], .quiet none (.inl ⟨?_, rfl⟩) ?_⟩
    · simp [Task.rest?, hphase]
    · simp [Task.isAcquiring]
  · next demand rest hphase =>
    split at hproceed
    · cases hproceed
    · next hunblocked =>
      refine ⟨[⟨demand, (system.session.perform backend demand).1.1⟩],
        by simp [met, htask, hphase], ?_⟩
      have hfree : ∀ lock, demand = .take lock → system.isFree lock = true := by
        rintro lock rfl
        simpa [isBlocked, hphase] using hunblocked
      simp only at hproceed
      split at hproceed
      · cases hproceed
        exact .met demand rest (by simp [Task.rest?, hphase]) hfree rfl rfl id
      · cases hproceed
        refine .met demand rest (by simp [Task.rest?, hphase]) hfree rfl rfl fun hacquiring => ?_
        cases hacquiring
  · cases hproceed

theorem change_of_deliver (hdeliver : system.deliver backend task = some (next, session)) :
    system.Change backend task next session [] := by
  unfold deliver at hdeliver
  split at hdeliver
  · next demand answer rest hphase =>
    cases hdeliver
    refine .quiet none (.inl ⟨?_, rfl⟩) fun hacquiring => ?_
    · simp [Task.rest?, hphase]
    · cases hacquiring
  · next demand answer hphase =>
    cases hdeliver
    refine .quiet task.held (.inl ⟨?_, rfl⟩) fun hacquiring => ?_
    · simp [Task.rest?, hphase]
    · cases hacquiring
  · cases hdeliver

theorem change_of_abandon (habandon : system.abandon backend task = some (next, session)) :
    system.Change backend task next session [] := by
  unfold abandon at habandon
  simp only at habandon
  split at habandon
  · cases habandon
    refine .quiet task.held (.inr ⟨rfl, rfl⟩) fun hacquiring => ?_
    cases hacquiring
  · next demand answer rest hphase =>
    split at habandon
    · cases habandon
      refine .quiet none (.inr ⟨rfl, rfl⟩) ?_
      simp [Task.isAcquiring, hphase]
    · cases habandon
      refine .quiet task.held (.inr ⟨rfl, rfl⟩) fun hacquiring => ?_
      cases hacquiring
  · cases habandon

theorem change_of_move
    {index : Nat} {m : Move} {after : System σ κ χ α}
    (hmove : system.move backend index m = some after) :
    ∃ task next session told,
      system.tasks[index]? = some task ∧
      system.met backend index m = told.map (fun told => (index, told)) ∧
      system.Change backend task next session told ∧
      after = { system with session := session, tasks := system.tasks.set index next } := by
  obtain ⟨task, next, session, htask, hmade, hafter⟩ := move_eq_some_iff.mp hmove
  cases m with
  | proceed =>
      obtain ⟨told, hmet, hchange⟩ := change_of_proceed hmade htask
      exact ⟨task, next, session, told, htask, hmet, hchange, hafter⟩
  | deliver => exact ⟨task, next, session, [], htask, rfl, change_of_deliver hmade, hafter⟩
  | abandon => exact ⟨task, next, session, [], htask, rfl, change_of_abandon hmade, hafter⟩

theorem Change.of_clock
    {clock : Nat} {told : List (Told κ χ)}
    (hchange : ({ system with clock := clock }).Change backend task next session told) :
    system.Change backend task next session told := by
  cases hchange with
  | met demand rest hrest hfree hnext hlocks hacquiring =>
      exact .met demand rest hrest hfree hnext hlocks hacquiring
  | quiet held hnext hacquiring => exact .quiet held hnext hacquiring

theorem now_le_closeHeld
    (hclock : backend.Monotone) (session : Session σ κ χ) (held : Option χ) :
    backend.now session.outside ≤ backend.now (session.closeHeld backend held).outside := by
  cases held with
  | none => exact Int.le_refl _
  | some context => exact hclock.close context session.outside

theorem Change.now_le
    {told : List (Told κ χ)} (hclock : backend.Monotone)
    (hchange : system.Change backend task next session told) :
    backend.now system.session.outside ≤ backend.now session.outside := by
  cases hchange with
  | met demand => exact Session.now_le_perform hclock system.session demand
  | quiet held => exact now_le_closeHeld hclock system.session held

theorem Change.of_told
    {told : Told κ χ} (hchange : system.Change backend task next session [told]) :
    ∃ rest, task.rest? = some (.ask told.demand rest) ∧
      told.answer = (system.session.perform backend told.demand).1.1 := by
  generalize htold : [told] = all at hchange
  cases hchange with
  | met demand rest hrest =>
      cases htold
      exact ⟨rest, hrest, rfl⟩
  | quiet => cases htold

theorem Change.free
    {told : List (Told κ χ)} (hchange : system.Change backend task next session told) :
    ∀ lock ∈ next.locks, lock ∈ task.locks ∨ system.isFree lock = true := by
  intro lock hlock
  cases hchange with
  | met demand rest _ hfree _ hlocks =>
      rw [hlocks] at hlock
      cases demand with
      | take taken =>
          rcases List.mem_cons.mp hlock with rfl | hsooner
          · exact .inr (hfree lock rfl)
          · exact .inl hsooner
      | release released => exact .inl (List.mem_filter.mp hlock).1
      | send | acquire | initiate | step | close | lookup | store | forget | count =>
          exact .inl hlock
  | quiet held hnext =>
      rcases hnext with ⟨_, hlocks⟩ | ⟨_, hlocks⟩
      · exact .inl (hlocks ▸ hlock)
      · rw [hlocks] at hlock
        cases hlock

/-! ## Runs -/

variable {first : System σ κ χ α} {events : List (Nat × Told κ χ)}

/-- What holds at first and is kept by every change holds at the end of every run. -/
theorem Runs.keeps
    {P : List (Nat × Told κ χ) → System σ κ χ α → Prop}
    (hruns : first.Runs backend events system) (hfirst : P [] first)
    (hpass : ∀ events system outside, first.Runs backend events system → P events system →
      backend.now system.session.outside ≤ backend.now outside →
      P events { system with session := system.session.resume outside })
    (hchange : ∀ events system clock index task next session told,
      first.Runs backend events system → P events system →
      system.tasks[index]? = some task → system.Change backend task next session told →
      P (events ++ told.map fun told => (index, told))
        ⟨session, clock, system.tasks.set index next⟩) :
    P events system := by
  induction hruns with
  | refl => exact hfirst
  | pass hsooner outside hlater ih => exact hpass _ _ outside hsooner ih hlater
  | move hsooner clock index m hmove ih =>
      obtain ⟨task, next, session, told, htask, hmet, hmade, rfl⟩ := change_of_move hmove
      have hevents := hchange _ _ clock index task next session told hsooner ih htask hmade.of_clock
      rw [← hmet] at hevents
      exact hevents

/-- Every task obeys its rule, by what it was told itself. -/
def Obey (rule : Nat → List (Told κ χ) → Demand κ χ → Prop)
    (last : Nat → List (Told κ χ) → α → Prop) (events : List (Nat × Told κ χ))
    (system : System σ κ χ α) : Prop :=
  ∀ (i : Nat) (task : Task κ χ α) (rest : Exchange κ χ α),
    system.tasks[i]? = some task → task.rest? = some rest →
    rest.Obeys (rule i) (last i) (own i events)

theorem Change.obey
    {rule : Nat → List (Told κ χ) → Demand κ χ → Prop} {last : Nat → List (Told κ χ) → α → Prop}
    {index clock : Nat} {told : List (Told κ χ)} (hobey : system.Obey rule last events)
    (htask : system.tasks[index]? = some task)
    (hchange : system.Change backend task next session told) :
    Obey rule last (events ++ told.map fun told => (index, told))
      (⟨session, clock, system.tasks.set index next⟩ : System σ κ χ α) := by
  intro i found rest hfound hrest
  rw [own_append, own_map]
  rcases getElem?_set_cases hfound with ⟨rfl, rfl⟩ | ⟨hne, hother⟩
  · rw [if_pos rfl]
    cases hchange with
    | met demand further hfurther _ hnext =>
        obtain ⟨_, hanswers⟩ := (hobey index task _ htask hfurther).of_ask
        rw [hnext, Option.some.injEq] at hrest
        subst hrest
        exact hanswers _
    | quiet held hnext =>
        rw [List.append_nil]
        rcases hnext with ⟨hsame, _⟩ | ⟨hgone, _⟩
        · exact hobey index task rest htask (hsame ▸ hrest)
        · rw [hgone] at hrest
          cases hrest
  · rw [if_neg fun heq => hne heq.symm, List.append_nil]
    exact hobey i found rest hother hrest

theorem Runs.obey
    {rule : Nat → List (Told κ χ) → Demand κ χ → Prop} {last : Nat → List (Told κ χ) → α → Prop}
    (hruns : first.Runs backend events system) (hfirst : first.Obey rule last []) :
    system.Obey rule last events :=
  hruns.keeps hfirst (fun _ _ _ _ hobey _ => hobey)
    fun _ _ _ _ _ _ _ _ _ hobey htask hchange => hchange.obey hobey htask

theorem getElem?_set_moved
    {tasks : List (Task κ χ α)} {index : Nat} (htask : tasks[index]? = some task) :
    (tasks.set index next)[index]? = some next := by
  simp [List.getElem?_set_self', htask]

theorem Runs.exists_task
    (hruns : first.Runs backend events system) {index : Nat} {task : Task κ χ α}
    (htask : first.tasks[index]? = some task) :
    ∃ later, system.tasks[index]? = some later := by
  have hlength : system.tasks.length = first.tasks.length := by
    refine hruns.keeps (P := fun _ system => system.tasks.length = first.tasks.length) rfl
      (fun _ _ _ _ hlength _ => hlength) ?_
    intro _ system _ index _ next _ _ _ hlength _ _
    rw [List.length_set, hlength]
  obtain ⟨hbound, _⟩ := List.getElem?_eq_some_iff.mp htask
  rw [← hlength] at hbound
  exact ⟨_, List.getElem?_eq_getElem hbound⟩

/-- A task that was abandoned does not come back. -/
theorem Runs.rest?_eq_none
    (hruns : first.Runs backend events system) {index : Nat} {task : Task κ χ α}
    (htask : first.tasks[index]? = some task) (hgone : task.rest? = none) :
    ∃ later, system.tasks[index]? = some later ∧ later.rest? = none := by
  refine hruns.keeps (P := fun _ system => ∃ later : Task κ χ α,
    system.tasks[index]? = some later ∧ later.rest? = none) ⟨task, htask, hgone⟩
    (fun _ _ _ _ hlater _ => hlater) ?_
  rintro _ system clock other found next session told _ ⟨later, hlater, hnone⟩ hfound hchange
  by_cases hother : other = index
  · subst hother
    obtain rfl : found = later := by simpa [hfound] using hlater
    refine ⟨next, getElem?_set_moved hfound, ?_⟩
    cases hchange with
    | met demand rest hrest =>
        rw [hnone] at hrest
        cases hrest
    | quiet held hnext =>
        rcases hnext with ⟨hsame, _⟩ | ⟨hnext, _⟩
        · rw [hsame, hnone]
        · exact hnext
  · exact ⟨later, by rw [List.getElem?_set_ne hother, hlater], hnone⟩

/-- Of those who were not abandoned at the end nobody was abandoned before. -/
theorem Runs.rest?_isSome
    (hruns : first.Runs backend events system)
    (hstay : ∀ task ∈ system.tasks, task.rest?.isSome = true) :
    ∀ task ∈ first.tasks, task.rest?.isSome = true := by
  intro task hmem
  obtain ⟨index, htask⟩ := List.getElem?_of_mem hmem
  cases hrest : task.rest? with
  | some rest => rfl
  | none =>
      obtain ⟨later, hlater, hgone⟩ := hruns.rest?_eq_none htask hrest
      have hsome := hstay later (List.mem_of_getElem? hlater)
      rw [hgone] at hsome
      cases hsome

theorem eq_append_cons_of_concat
    {γ : Type} {events before between : List γ} {event last : γ}
    (hcut : events ++ [last] = before ++ event :: between) :
    events = before ∧ last = event ∧ between = [] ∨
      ∃ sooner, between = sooner ++ [last] ∧ events = before ++ event :: sooner := by
  rcases List.eq_nil_or_concat between with rfl | ⟨sooner, other, rfl⟩
  · obtain ⟨hevents, hlast⟩ := List.append_inj' hcut rfl
    exact .inl ⟨hevents, List.cons.inj hlast |>.1, rfl⟩
  · rw [List.concat_eq_append] at hcut ⊢
    have hsplit : events ++ [last] = (before ++ event :: sooner) ++ [other] := by simpa using hcut
    obtain ⟨hevents, hlast⟩ := List.append_inj' hsplit rfl
    exact .inr ⟨sooner, by rw [List.cons.inj hlast |>.1], hevents⟩

theorem Change.cut
    {before later : List (Nat × Told κ χ)} {index : Nat} {told : List (Told κ χ)}
    {event : Nat × Told κ χ} (hchange : system.Change backend task next session told)
    (hcut : events ++ told.map (fun told => (index, told)) = before ++ event :: later) :
    (∃ one, told = [one] ∧ events = before ∧ event = (index, one) ∧ later = []) ∨
      ∃ sooner, later = sooner ++ told.map (fun told => (index, told)) ∧
        events = before ++ event :: sooner := by
  cases hchange with
  | quiet held =>
      rw [List.map_nil, List.append_nil] at hcut
      exact .inr ⟨later, by rw [List.map_nil, List.append_nil], hcut⟩
  | met demand =>
      rcases eq_append_cons_of_concat hcut with ⟨hevents, hevent, hlater⟩ | ⟨sooner, hlater, hevents⟩
      · exact .inl ⟨_, rfl, hevents, hevent.symm, hlater⟩
      · exact .inr ⟨sooner, hlater, hevents⟩

/-- A run can be cut at every event. -/
theorem Runs.split
    {before later : List (Nat × Told κ χ)} {index : Nat} {told : Told κ χ}
    (hruns : first.Runs backend (before ++ (index, told) :: later) system) :
    ∃ middle clock task next session,
      first.Runs backend before middle ∧ middle.tasks[index]? = some task ∧
      middle.Change backend task next session [told] ∧
      Runs backend ⟨session, clock, middle.tasks.set index next⟩ later system := by
  generalize hevents : before ++ (index, told) :: later = events at hruns
  induction hruns generalizing later with
  | refl => simp at hevents
  | pass _ outside hlater ih =>
      obtain ⟨middle, clock, task, next, session, hbefore, htask, hmade, hrest⟩ := ih hevents
      exact ⟨middle, clock, task, next, session, hbefore, htask, hmade, hrest.pass outside hlater⟩
  | @move events system after hsooner clock i m hmove ih =>
      obtain ⟨task, next, session, toldNow, htask, hmet, hmade, hafter⟩ := change_of_move hmove
      have hmet : system.met backend i m = toldNow.map fun told => (i, told) := hmet
      rw [hmet] at hevents
      -- The run ends with this event, or it is cut where the run without its last move is.
      rcases hmade.cut hevents.symm with ⟨one, rfl, rfl, hone, rfl⟩ | ⟨sooner, rfl, hbefore⟩
      · cases hone
        subst hafter
        exact ⟨system, clock, task, next, session, hsooner, htask, hmade.of_clock, .refl⟩
      · obtain ⟨middle, clock', task', next', session', hbefore, htask', hmade', hrest⟩ :=
          ih hbefore.symm
        have hrest := hrest.move clock i m hmove
        rw [hmet] at hrest
        exact ⟨middle, clock', task', next', session', hbefore, htask', hmade', hrest⟩

/-- What the tasks are told as they make moves one after another. -/
def chronicle (backend : Backend σ κ χ) (system : System σ κ χ α) :
    List (Nat × Move) → List (Nat × Told κ χ)
  | [] => []
  | (i, m) :: rest =>
    match system.move backend i m with
    | none => []
    | some after => system.met backend i m ++ chronicle backend after rest

theorem Runs.follow
    (hruns : first.Runs backend events system) (moves : List (Nat × Move)) :
    first.Runs backend (events ++ system.chronicle backend moves)
      (system.follow backend moves) := by
  induction moves generalizing system events with
  | nil =>
      rw [chronicle, List.append_nil]
      exact hruns
  | cons made rest ih =>
      unfold System.follow chronicle
      cases hmove : system.move backend made.1 made.2 with
      | none =>
          rw [List.append_nil]
          exact hruns
      | some after =>
          rw [← List.append_assoc]
          exact ih (hruns.move system.clock made.1 made.2 hmove)

end System
end ProxyHandshake
