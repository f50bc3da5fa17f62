import ProxyHandshake.Proofs.Cache
import ProxyHandshake.Proofs.Exchange.Chronicle

/-!
# Slots that are tended

The handle for a proxy is kept in a slot with a lock.  When several exchanges tend slots at the same
time, whoever has looked into a slot and found nothing still holds its lock, and the slot stays empty
until he has filled it.  So a handle that has been stored is found by everyone who looks for it while it
is valid, until someone forgets it.
-/

namespace ProxyHandshake

variable {σ κ χ α : Type}

/-! ## Demands on a slot -/

/-- The slot that a demand looks into or changes. -/
def Demand.slot? : Demand κ χ → Option String
  | .lookup key | .store key _ _ | .forget key => some key
  | _ => none

theorem Tends.slot
    {key slot : String} {past : List (Told κ χ)} {demand : Demand κ χ}
    (htends : Tends key past demand) (hslot : demand.slot? = some slot) :
    slot = key ∧ Grip.of past ≠ .away := by
  cases demand with
  | lookup | forget | store =>
      cases hslot
      refine ⟨htends.1, fun haway => ?_⟩
      cases htends.2.symm.trans haway
  | send | acquire | initiate | step | close | take | release | count => cases hslot

theorem Session.get?_perform
    (backend : Backend σ κ χ) (session : Session σ κ χ) {demand : Demand κ χ} {key : String}
    (hslot : demand.slot? ≠ some key) :
    (session.perform backend demand).2.cache.get? key = session.cache.get? key := by
  cases demand with
  | lookup slot =>
      have hkey : key ≠ slot := fun heq => hslot (congrArg some heq.symm)
      cases hvalid : session.cache.valid? slot (backend.now session.outside) with
      | none =>
          have hafter := (Cache.lookup_of_invalid hvalid).2 key
          rwa [if_neg hkey] at hafter
      | some kept =>
          have hafter := Cache.lookup_of_valid hvalid
          simp only [perform, hafter]
  | store slot since acquired =>
      have hkey : key ≠ slot := fun heq => hslot (congrArg some heq.symm)
      exact Cache.get?_store_of_ne session.cache hkey since acquired
  | forget slot =>
      have hkey : key ≠ slot := fun heq => hslot (congrArg some heq.symm)
      exact (Cache.get?_forget session.cache slot key).trans (if_neg hkey)
  | initiate handle target =>
      obtain ⟨answer, later, calls, _, hinitiate⟩ :=
        initiate_opening backend handle target session.outside
      simp only [perform, hinitiate session rfl]
  | send | acquire | step | close | take | release | count => rfl

/-! ## How a demand changes the grip -/

/-- The moment at which someone found nothing in the slot that he is now to fill. -/
def Grip.since? : Grip κ → Option Instant
  | .missing since | .filling since _ => some since
  | .away | .inside => none

section

variable {key : String} {past : List (Told κ χ)} {demand : Demand κ χ}

theorem Tends.mem_locksAfter
    (htends : Tends key past demand) {locks : List Lock}
    (hlocks : Lock.handle key ∈ locks ↔ Grip.of past ≠ .away) (answer : demand.Answer) :
    Lock.handle key ∈ Task.locksAfter locks demand ↔
      (Grip.of past).after demand answer ≠ .away := by
  cases demand with
  | take lock =>
      cases lock with
      | turn slot => simpa [Task.locksAfter, Grip.after] using hlocks
      | handle slot =>
          obtain ⟨rfl, _⟩ := htends
          simp [Task.locksAfter, Grip.after]
  | release lock =>
      cases lock with
      | turn slot => simpa [Task.locksAfter, Grip.after] using hlocks
      | handle slot =>
          obtain ⟨rfl, _⟩ := htends
          simp [Task.locksAfter, Grip.after]
  | lookup slot =>
      obtain ⟨now, found⟩ := answer
      rw [htends.2] at hlocks
      cases found <;> simpa [Task.locksAfter, Grip.after] using hlocks
  | acquire credentials =>
      obtain ⟨since, hsince⟩ := htends
      rw [hsince] at hlocks
      cases answer <;> simpa [Task.locksAfter, Grip.after, hsince] using hlocks
  | store slot since acquired =>
      rw [htends.2] at hlocks
      simpa [Task.locksAfter, Grip.after] using hlocks
  | send | initiate | step | close | forget | count => exact hlocks

theorem Tends.grip_of_isAcquisition
    (htends : Tends key past demand) (hacquisition : demand.isAcquisition = true)
    (answer : demand.Answer) : (Grip.of past).after demand answer ≠ .away := by
  cases demand with
  | acquire credentials =>
      obtain ⟨since, hsince⟩ := htends
      rw [hsince]
      intro haway
      cases answer <;> cases haway
  | send | initiate | step | close | take | release | lookup | store | forget | count =>
      cases hacquisition

/-- Who has acquired a handle does nothing with the slot before he stores it. -/
theorem Tends.of_filling
    (htends : Tends key past demand) {since : Instant} {acquired : Acquired κ}
    (hfilling : Grip.of past = .filling since acquired) :
    demand = .store key since acquired ∨
      ∀ answer, (Grip.of past).after demand answer = .filling since acquired := by
  cases demand with
  | store slot begun stored =>
      obtain ⟨rfl, hgrip⟩ := htends
      cases hgrip.symm.trans hfilling
      exact .inl rfl
  | acquire credentials =>
      obtain ⟨begun, hgrip⟩ := htends
      cases hgrip.symm.trans hfilling
  | lookup slot | forget slot => cases htends.2.symm.trans hfilling
  | take lock | release lock =>
      cases lock with
      | turn slot => exact .inr fun _ => hfilling
      | handle slot => cases htends.2.symm.trans hfilling
  | send | initiate | step | close | count => exact .inr fun _ => hfilling

variable {backend : Backend σ κ χ} {session : Session σ κ χ}

/-- Who finds nothing in the slot leaves it empty, and it stays so until he fills it. -/
theorem Tends.get?_eq_none
    (htends : Tends key past demand)
    (hvacant : (Grip.of past).since?.isSome = true → session.cache.get? key = none)
    (hsince : ((Grip.of past).after demand
      (session.perform backend demand).1.1).since?.isSome = true) :
    (session.perform backend demand).2.cache.get? key = none := by
  cases demand with
  | lookup slot =>
      obtain ⟨rfl, _⟩ := htends
      cases hvalid : session.cache.valid? slot (backend.now session.outside) with
      | none =>
          have hafter := (Cache.lookup_of_invalid hvalid).2 slot
          rwa [if_pos rfl] at hafter
      | some kept =>
          have hfound := Cache.lookup_of_valid hvalid
          simp [Session.perform, hfound, Grip.after, Grip.since?] at hsince
  | acquire credentials =>
      obtain ⟨since, hgrip⟩ := htends
      exact hvacant (by rw [hgrip]; rfl)
  | store slot since acquired => cases hsince
  | forget slot =>
      have hinside : (Grip.of past).since?.isSome = true := hsince
      rw [htends.2] at hinside
      cases hinside
  | take lock | release lock =>
      cases lock with
      | turn slot => exact hvacant hsince
      | handle slot => cases hsince
  | initiate handle target =>
      rw [Session.get?_perform backend session (by simp [Demand.slot?])]
      exact hvacant hsince
  | send | step | close | count => exact hvacant hsince

theorem Tends.since_le
    (htends : Tends key past demand)
    (hbegun : ∀ since, (Grip.of past).since? = some since → since ≤ backend.now session.outside)
    {since : Instant}
    (hsince : ((Grip.of past).after demand
      (session.perform backend demand).1.1).since? = some since) :
    since ≤ backend.now session.outside := by
  cases demand with
  | lookup slot =>
      rcases hfound : session.cache.lookup slot (backend.now session.outside) with ⟨found, cache⟩
      cases found with
      | none =>
          simp only [Session.perform, hfound, Grip.after, Grip.since?, Option.some.injEq] at hsince
          exact Int.le_of_eq hsince.symm
      | some handle => simp [Session.perform, hfound, Grip.after, Grip.since?] at hsince
  | acquire credentials =>
      obtain ⟨begun, hgrip⟩ := htends
      refine hbegun since ?_
      rw [hgrip] at hsince ⊢
      rcases hanswer : (session.perform backend (.acquire credentials)).1.1 with e | acquired
      · rw [hanswer] at hsince
        cases hsince
      · rw [hanswer] at hsince
        exact hsince
  | store slot begun acquired => cases hsince
  | take lock | release lock =>
      cases lock with
      | turn slot => exact hbegun since hsince
      | handle slot => cases hsince
  | send | initiate | step | close | forget | count => exact hbegun since hsince

theorem Tends.get?_store
    {slot : String} {since : Instant} {kept : Kept κ}
    (htends : Tends key past
      (.store slot since ⟨kept.handle, some kept.validUntil⟩ : Demand κ χ))
    (hvacant : (Grip.of past).since?.isSome = true → session.cache.get? key = none)
    (hbegun : ∀ since, (Grip.of past).since? = some since → since ≤ backend.now session.outside)
    (hvalid : backend.now session.outside < kept.validUntil) :
    (session.cache.store slot since ⟨kept.handle, some kept.validUntil⟩).get? slot = some kept := by
  obtain ⟨rfl, hgrip⟩ := htends
  have hnone : session.cache.get? slot = none := hvacant (by rw [hgrip]; rfl)
  have hsince : since ≤ backend.now session.outside := hbegun since (by rw [hgrip]; rfl)
  rw [Cache.get?_store hnone, if_pos rfl, Acquired.kept?_eq_some_iff]
  exact ⟨rfl, Int.lt_of_le_of_lt hsince hvalid⟩

/-- What is kept in a slot and still valid is lost only when it is forgotten. -/
theorem Tends.get?_of_kept
    (htends : Tends key past demand)
    (hvacant : (Grip.of past).since?.isSome = true → session.cache.get? key = none)
    {slot : String} {kept : Kept κ} (hkept : session.cache.get? slot = some kept)
    (hvalid : backend.now session.outside < kept.validUntil) (hforget : demand ≠ .forget slot) :
    (session.perform backend demand).2.cache.get? slot = some kept := by
  by_cases hslot : demand.slot? = some slot
  · obtain ⟨rfl, _⟩ := htends.slot hslot
    cases demand with
    | lookup other =>
        cases hslot
        have hfound : session.cache.valid? slot (backend.now session.outside) = some kept :=
          (Cache.valid?_eq_some_iff ..).mpr ⟨hkept, hvalid⟩
        simp only [Session.perform, Cache.lookup_of_valid hfound, hkept]
    | store other since acquired =>
        have hnone := hvacant (by rw [htends.2]; rfl)
        rw [hnone] at hkept
        cases hkept
    | forget other =>
        cases hslot
        exact absurd rfl hforget
    | send | acquire | initiate | step | close | take | release | count => cases hslot
  · rw [Session.get?_perform backend session hslot, hkept]

theorem Tends.of_get?
    (htends : Tends key past demand)
    (hvacant : (Grip.of past).since?.isSome = true → session.cache.get? key = none)
    {slot : String} {kept : Kept κ}
    (hkept : (session.perform backend demand).2.cache.get? slot = some kept) :
    (∃ since, demand = .store slot since ⟨kept.handle, some kept.validUntil⟩) ∨
      session.cache.get? slot = some kept ∧ demand ≠ .forget slot := by
  by_cases hslot : demand.slot? = some slot
  · obtain ⟨rfl, _⟩ := htends.slot hslot
    cases demand with
    | lookup other =>
        cases hslot
        cases hvalid : session.cache.valid? slot (backend.now session.outside) with
        | none =>
            have hnone := (Cache.lookup_of_invalid hvalid).2 slot
            rw [if_pos rfl] at hnone
            cases hnone.symm.trans hkept
        | some valid =>
            simp only [Session.perform, Cache.lookup_of_valid hvalid] at hkept
            refine .inr ⟨hkept, fun hforget => ?_⟩
            cases hforget
    | store other since acquired =>
        cases hslot
        have hnone := hvacant (by rw [htends.2]; rfl)
        have hstored := Cache.get?_store hnone since acquired slot
        rw [if_pos rfl] at hstored
        obtain ⟨rfl, _⟩ := (acquired.kept?_eq_some_iff since kept).mp (hstored.symm.trans hkept)
        exact .inl ⟨since, rfl⟩
    | forget other =>
        cases hslot
        have hnone := Cache.get?_forget session.cache slot slot
        rw [if_pos rfl] at hnone
        cases hnone.symm.trans hkept
    | send | acquire | initiate | step | close | take | release | count => cases hslot
  · rw [Session.get?_perform backend session hslot] at hkept
    refine .inr ⟨hkept, ?_⟩
    rintro rfl
    exact hslot rfl

end

/-! ## Slots in a system -/

/-- Someone who tends a slot holds its lock while it is in his grip, and the slot is empty while he is
to fill it. -/
structure Task.Tidy (backend : Backend σ κ χ) (session : Session σ κ χ) (key : String)
    (past : List (Told κ χ)) (task : Task κ χ α) : Prop where
  locked : Lock.handle key ∈ task.locks ↔ Grip.of past ≠ .away
  acquiring : task.isAcquiring = true → Grip.of past ≠ .away
  vacant : (Grip.of past).since?.isSome = true → session.cache.get? key = none
  begun : ∀ since, (Grip.of past).since? = some since → since ≤ backend.now session.outside

namespace System

variable {backend : Backend σ κ χ} {system first : System σ κ χ α} {task next : Task κ χ α}
  {session : Session σ κ χ} {keys : Nat → String} {events : List (Nat × Told κ χ)} {index clock : Nat}
  {told : List (Told κ χ)}

/-- Every task that was not abandoned tends the slot for its key. -/
structure Tended (backend : Backend σ κ χ) (keys : Nat → String) (events : List (Nat × Told κ χ))
    (system : System σ κ χ α) : Prop where
  obey : system.Obey (fun i => Tends (keys i)) (fun _ _ _ => True) events
  apart : Apart system.tasks
  tidy :
    ∀ (i : Nat) (task : Task κ χ α) (rest : Exchange κ χ α),
      system.tasks[i]? = some task → task.rest? = some rest →
      task.Tidy backend system.session (keys i) (own i events)

theorem Tended.of_ask
    (htended : system.Tended backend keys events) (htask : system.tasks[index]? = some task)
    {demand : Demand κ χ} {further : demand.Answer → Exchange κ χ α}
    (hfurther : task.rest? = some (.ask demand further)) :
    Tends (keys index) (own index events) demand ∧
      task.Tidy backend system.session (keys index) (own index events) :=
  ⟨(htended.obey index task _ htask hfurther).of_ask.1, htended.tidy index task _ htask hfurther⟩

/-- The lock of a slot keeps everyone else away from it. -/
theorem Tended.eq_of_grip
    (htended : system.Tended backend keys events) {i j : Nat} {one other : Task κ χ α}
    {oneRest otherRest : Exchange κ χ α} (hone : system.tasks[i]? = some one)
    (honeRest : one.rest? = some oneRest) (hother : system.tasks[j]? = some other)
    (hotherRest : other.rest? = some otherRest) (hkeys : keys i = keys j)
    (honeGrip : Grip.of (own i events) ≠ .away) (hotherGrip : Grip.of (own j events) ≠ .away) :
    i = j := by
  have honeLock := (htended.tidy i one oneRest hone honeRest).locked.mpr honeGrip
  have hotherLock := (htended.tidy j other otherRest hother hotherRest).locked.mpr hotherGrip
  rw [← hkeys] at hotherLock
  exact htended.apart i j one other _ hone hother honeLock hotherLock

theorem Tended.eq_of_isAcquiring
    (htended : system.Tended backend keys events) {i j : Nat} {one other : Task κ χ α}
    (hone : system.tasks[i]? = some one) (honeStays : one.rest?.isSome = true)
    (hother : system.tasks[j]? = some other) (hotherStays : other.rest?.isSome = true)
    (hkeys : keys i = keys j) (honeAcquires : one.isAcquiring = true)
    (hotherAcquires : other.isAcquiring = true) : i = j := by
  obtain ⟨oneRest, honeRest⟩ := Option.isSome_iff_exists.mp honeStays
  obtain ⟨otherRest, hotherRest⟩ := Option.isSome_iff_exists.mp hotherStays
  exact htended.eq_of_grip hone honeRest hother hotherRest hkeys
    ((htended.tidy i one oneRest hone honeRest).acquiring honeAcquires)
    ((htended.tidy j other otherRest hother hotherRest).acquiring hotherAcquires)

theorem tidy_of_met
    (hclock : backend.Monotone) {key : String} {past : List (Told κ χ)} {demand : Demand κ χ}
    (htends : Tends key past demand) (htidy : task.Tidy backend system.session key past)
    (hlocks : next.locks = Task.locksAfter task.locks demand)
    (hacquiring : next.isAcquiring = true → demand.isAcquisition = true) :
    next.Tidy backend (system.session.perform backend demand).2 key
      (past ++ [⟨demand, (system.session.perform backend demand).1.1⟩]) := by
  have hgrip :
      Grip.of (past ++ [⟨demand, (system.session.perform backend demand).1.1⟩]) =
        (Grip.of past).after demand (system.session.perform backend demand).1.1 :=
    Grip.of_append past _
  constructor
  · rw [hgrip, hlocks]
    exact htends.mem_locksAfter htidy.locked _
  · rw [hgrip]
    exact fun hnext => htends.grip_of_isAcquisition (hacquiring hnext) _
  · rw [hgrip]
    exact htends.get?_eq_none htidy.vacant
  · rw [hgrip]
    intro since hsince
    exact Int.le_trans (htends.since_le htidy.begun hsince)
      (Session.now_le_perform hclock system.session demand)

theorem Tended.tidy_of_other
    (hclock : backend.Monotone) (htended : system.Tended backend keys events)
    (htask : system.tasks[index]? = some task) {demand : Demand κ χ}
    {further : demand.Answer → Exchange κ χ α} (hfurther : task.rest? = some (.ask demand further))
    {i : Nat} (hne : index ≠ i) {other : Task κ χ α} {rest : Exchange κ χ α}
    (hother : system.tasks[i]? = some other) (hrest : other.rest? = some rest) :
    other.Tidy backend (system.session.perform backend demand).2 (keys i) (own i events) := by
  obtain ⟨htends, _⟩ := htended.of_ask htask hfurther
  have htidy := htended.tidy i other rest hother hrest
  refine ⟨htidy.locked, htidy.acquiring, fun hsince => ?_, fun since hsince => ?_⟩
  · -- A demand on the slot would need its lock.
    have hslot : demand.slot? ≠ some (keys i) := by
      intro hslot
      obtain ⟨hkeys, hgrip⟩ := htends.slot hslot
      refine hne (htended.eq_of_grip htask hfurther hother hrest hkeys.symm hgrip ?_)
      intro haway
      rw [haway] at hsince
      cases hsince
    rw [Session.get?_perform backend system.session hslot]
    exact htidy.vacant hsince
  · exact Int.le_trans (htidy.begun since hsince)
      (Session.now_le_perform hclock system.session demand)

theorem cache_closeHeld (backend : Backend σ κ χ) (session : Session σ κ χ) (held : Option χ) :
    (session.closeHeld backend held).cache = session.cache := by
  cases held <;> rfl

theorem tidy_of_later
    {key : String} {past : List (Told κ χ)} (htidy : task.Tidy backend system.session key past)
    (hcache : session.cache = system.session.cache)
    (hnow : backend.now system.session.outside ≤ backend.now session.outside)
    (hlocks : next.locks = task.locks) (hacquiring : next.isAcquiring = true → task.isAcquiring = true) :
    next.Tidy backend session key past := by
  refine ⟨?_, fun hnext => htidy.acquiring (hacquiring hnext), ?_, fun since hsince => ?_⟩
  · rw [hlocks]
    exact htidy.locked
  · rw [hcache]
    exact htidy.vacant
  · exact Int.le_trans (htidy.begun since hsince) hnow

/-- Slots stay tended when one task makes a move. -/
theorem Tended.change
    (hclock : backend.Monotone) (htended : system.Tended backend keys events)
    (htask : system.tasks[index]? = some task)
    (hchange : system.Change backend task next session told) :
    Tended backend keys (events ++ told.map fun told => (index, told))
      (⟨session, clock, system.tasks.set index next⟩ : System σ κ χ α) := by
  refine ⟨hchange.obey htended.obey htask, htended.apart.set htask hchange.free, ?_⟩
  intro i found rest hfound hrest
  rw [own_append, own_map]
  rcases getElem?_set_cases hfound with ⟨rfl, rfl⟩ | ⟨hne, hother⟩
  · -- The task that moves.
    rw [if_pos rfl]
    cases hchange with
    | met demand further hfurther _ _ hlocks hacquiring =>
        obtain ⟨htends, htidy⟩ := htended.of_ask htask hfurther
        exact tidy_of_met hclock htends htidy hlocks hacquiring
    | quiet held hnext hacquiring =>
        rw [List.append_nil]
        rcases hnext with ⟨hsame, hlocks⟩ | ⟨hgone, _⟩
        · exact tidy_of_later (htended.tidy index task rest htask (hsame ▸ hrest))
            (cache_closeHeld backend system.session held)
            (now_le_closeHeld hclock system.session held) hlocks hacquiring
        · rw [hgone] at hrest
          cases hrest
  · -- A task that does not move is told nothing, but its slot may be looked into.
    rw [if_neg fun heq => hne heq.symm, List.append_nil]
    cases hchange with
    | met demand further hfurther =>
        exact htended.tidy_of_other hclock htask hfurther hne hother hrest
    | quiet held =>
        exact tidy_of_later (htended.tidy i found rest hother hrest)
          (cache_closeHeld backend system.session held)
          (now_le_closeHeld hclock system.session held) rfl id

theorem tended_of_start
    (hfirst : ∀ (i : Nat) (task : Task κ χ α), first.tasks[i]? = some task →
      ∃ deadline program, task = .start deadline program ∧
        program.Obeys (Tends (keys i)) (fun _ _ => True) []) :
    first.Tended backend keys [] := by
  refine ⟨?_, ?_, ?_⟩
  · intro i task rest htask hrest
    obtain ⟨deadline, program, rfl, hobeys⟩ := hfirst i task htask
    cases hrest
    exact hobeys
  · intro i j one other lock hone _ hlock
    obtain ⟨deadline, program, rfl, _⟩ := hfirst i one hone
    cases hlock
  · intro i task rest htask _
    obtain ⟨deadline, program, rfl, _⟩ := hfirst i task htask
    constructor
    · simp [Task.start]
    · intro hacquiring
      cases hacquiring
    · intro hsince
      cases hsince
    · intro since hsince
      cases hsince

/-- Slots stay tended, whatever the order of the moves. -/
theorem Runs.tended
    (hruns : first.Runs backend events system) (hclock : backend.Monotone)
    (hfirst : first.Tended backend keys []) : system.Tended backend keys events := by
  refine hruns.keeps hfirst ?_ ?_
  · intro events system outside _ htended hlater
    exact ⟨htended.obey, htended.apart, fun i task rest htask hrest =>
      tidy_of_later (htended.tidy i task rest htask hrest) rfl hlater rfl id⟩
  · intro events system clock index task next session told _ htended htask hchange
    exact htended.change hclock htask hchange

/-! ## What is kept in a slot -/

/-- What was stored in a slot, if nobody has had it forgotten since. -/
def Unforgotten (key : String) (kept : Kept κ) (events : List (Nat × Told κ χ)) : Prop :=
  ∃ before event later since,
    events = before ++ event :: later ∧
    event.2.demand = .store key since ⟨kept.handle, some kept.validUntil⟩ ∧
    ∀ other ∈ later, other.2.demand ≠ .forget key

section

variable {key : String} {kept : Kept κ}

theorem not_unforgotten_nil : ¬ Unforgotten key kept ([] : List (Nat × Told κ χ)) := by
  rintro ⟨before, event, later, _, hnever, _⟩
  simp at hnever

theorem unforgotten_concat (last : Nat × Told κ χ) :
    Unforgotten key kept (events ++ [last]) ↔
      (∃ since, last.2.demand = .store key since ⟨kept.handle, some kept.validUntil⟩) ∨
        Unforgotten key kept events ∧ last.2.demand ≠ .forget key := by
  constructor
  · rintro ⟨before, event, later, since, hcut, hstored, hlater⟩
    rcases eq_append_cons_of_concat hcut with ⟨_, rfl, _⟩ | ⟨sooner, rfl, hevents⟩
    · exact .inl ⟨since, hstored⟩
    · obtain ⟨hsooner, hlast⟩ := List.forall_mem_append.mp hlater
      exact .inr ⟨⟨before, event, sooner, since, hevents, hstored, hsooner⟩,
        hlast last List.mem_cons_self⟩
  · rintro (⟨since, hstored⟩ | ⟨⟨before, event, sooner, since, rfl, hstored, hsooner⟩, hlast⟩)
    · exact ⟨events, last, [], since, rfl, hstored, List.forall_mem_nil _⟩
    · refine ⟨before, event, sooner ++ [last], since, List.append_assoc .., hstored, ?_⟩
      exact List.forall_mem_append.mpr ⟨hsooner, List.forall_mem_singleton.mpr hlast⟩

/-- What was stored is kept while it is valid, unless someone has it forgotten. -/
theorem Runs.get?_of_unforgotten
    (hruns : first.Runs backend events system) (hclock : backend.Monotone)
    (hfirst : first.Tended backend keys []) (hunforgotten : Unforgotten key kept events)
    (hvalid : backend.now system.session.outside < kept.validUntil) :
    system.session.cache.get? key = some kept := by
  refine hruns.keeps
    (P := fun events system => Unforgotten key kept events →
      backend.now system.session.outside < kept.validUntil →
      system.session.cache.get? key = some kept)
    ?_ ?_ ?_ hunforgotten hvalid
  · exact fun hnever => absurd hnever not_unforgotten_nil
  · intro events system outside _ ih hlater hunforgotten hvalid
    exact ih hunforgotten (Int.lt_of_le_of_lt hlater hvalid)
  · intro events system clock index task next session told hsooner ih htask hchange hunforgotten
      hvalid
    -- What is valid at the end was valid all the time.
    have hvalidBefore : backend.now system.session.outside < kept.validUntil :=
      Int.lt_of_le_of_lt (hchange.now_le hclock) hvalid
    cases hchange with
    | quiet held =>
        rw [List.map_nil, List.append_nil] at hunforgotten
        rw [cache_closeHeld]
        exact ih hunforgotten hvalidBefore
    | met demand further hfurther =>
        obtain ⟨htends, htidy⟩ := (hsooner.tended hclock hfirst).of_ask htask hfurther
        rw [List.map_singleton, unforgotten_concat] at hunforgotten
        rcases hunforgotten with ⟨since, rfl⟩ | ⟨hunforgotten, hforget⟩
        · exact htends.get?_store htidy.vacant htidy.begun hvalidBefore
        · exact htends.get?_of_kept htidy.vacant (ih hunforgotten hvalidBefore) hvalidBefore hforget

/-- What is kept was stored by someone, and nobody has had it forgotten since. -/
theorem Runs.unforgotten
    (hruns : first.Runs backend events system) (hclock : backend.Monotone)
    (hfirst : first.Tended backend keys []) (hempty : first.session.cache.get? key = none)
    (hkept : system.session.cache.get? key = some kept) : Unforgotten key kept events := by
  refine hruns.keeps
    (P := fun events system => system.session.cache.get? key = some kept →
      Unforgotten key kept events)
    ?_ ?_ ?_ hkept
  · intro hnever
    rw [hempty] at hnever
    cases hnever
  · exact fun _ _ _ _ ih _ => ih
  · intro events system clock index task next session told hsooner ih htask hchange hkept
    cases hchange with
    | quiet held =>
        rw [cache_closeHeld] at hkept
        rw [List.map_nil, List.append_nil]
        exact ih hkept
    | met demand further hfurther =>
        obtain ⟨htends, htidy⟩ := (hsooner.tended hclock hfirst).of_ask htask hfurther
        rw [List.map_singleton, unforgotten_concat]
        rcases htends.of_get? htidy.vacant hkept with hstored | ⟨hbefore, hforget⟩
        · exact .inl hstored
        · exact .inr ⟨ih hbefore, hforget⟩

end

end System
end ProxyHandshake
