import ProxyHandshake.Proofs.Exchange.Slot

/-!
# One acquisition at a time

Any number of callers may want the handle for one proxy at the same time, and others may want it to be
forgotten.  Whoever acquires a handle holds the lock of its slot until the handle is stored, so the
others wait.  Who looks into the slot after that finds the handle, if it is valid by then and nobody
has it forgotten, and acquires none.
-/

namespace ProxyHandshake

variable {σ κ χ α : Type}

/-! ## Callers -/

/-- Someone who uses the slot of a proxy: he wants its handle, or wants it to be forgotten. -/
inductive Caller where
  | get (credentials : Credentials)
  | forget
deriving DecidableEq

/-- The handle that was found in a slot. -/
def Told.found? : Told κ χ → Option κ
  | ⟨.lookup _, (_, found)⟩ => found
  | _ => none

namespace Caller

/-- What a caller does, and the outcome for him if he wants a handle. -/
def program (key : String) : Caller → Exchange κ χ (Option (Except NegotiateError κ))
  | .get credentials => do
    let result ← .handleFor key credentials
    return some result
  | .forget => do
    .forgetHandle key
    return none

/-- What a caller was told from the first to the last, and the outcome for him. -/
inductive Ends (key : String) : List (Told κ χ) → Option (Except NegotiateError κ) → Prop
  | got {credentials : Credentials} {told : List (Told κ χ)} {result : Except NegotiateError κ}
      (hserved : Served key credentials told result) : Ends key told (some result)
  | forgot :
      Ends key
        [⟨.take (.handle key), ()⟩, ⟨.forget key, ()⟩, ⟨.release (.handle key), ()⟩] none

theorem obeys_program (key : String) (caller : Caller) :
    (caller.program key : Exchange κ χ _).Obeys (Tends key) (Ends key) [] := by
  cases caller with
  | get credentials =>
      refine (Exchange.obeys_handleFor (fun _ _ htends _ => htends) Grip.of_nil credentials).bind ?_
      rintro later result ⟨_, told, rfl, hserved⟩
      exact .done _ (.got hserved)
  | forget =>
      refine (Exchange.obeys_forgetHandle (fun _ _ htends _ => htends) Grip.of_nil ?_).bind ?_
      · exact ⟨rfl, rfl⟩
      · rintro later _ ⟨_, rfl⟩
        exact .done _ .forgot

/-- Who finds a handle gets it, and acquires none. -/
theorem Ends.of_found
    {key : String} {told : List (Told κ χ)} {result : Option (Except NegotiateError κ)}
    (hends : Ends key told result) {handle : κ} (hfound : some handle ∈ told.map Told.found?) :
    result = some (.ok handle) ∧ ∀ one ∈ told, one.demand.isAcquisition = false := by
  cases hends with
  | got hserved =>
      cases hserved with
      | kept since kept =>
          obtain rfl : handle = kept := by simpa [Told.found?] using hfound
          exact ⟨rfl, by simp [Demand.isAcquisition]⟩
      | refused | acquired => simp [Told.found?] at hfound
  | forgot => simp [Told.found?] at hfound

end Caller

namespace System

variable {backend : Backend σ κ χ} {system first : System σ κ χ α} {keys : Nat → String}
  {events : List (Nat × Told κ χ)}

/-- Who has acquired a handle stores it next, as far as the slot is concerned, unless he is abandoned. -/
theorem Change.of_filling
    {task next : Task κ χ α} {session : Session σ κ χ} {told : List (Told κ χ)} {i : Nat}
    {acquired : Acquired κ} (hchange : system.Change backend task next session told)
    (hobey : system.Obey (fun i => Tends (keys i)) (fun _ _ _ => True) events)
    (htask : system.tasks[i]? = some task)
    (hfilling : task.rest? = none ∨ ∃ since, Grip.of (own i events) = .filling since acquired) :
    (∃ since, told = [⟨.store (keys i) since acquired, ()⟩]) ∨ next.rest? = none ∨
      ∃ since, Grip.of (own i events ++ told) = .filling since acquired := by
  cases hchange with
  | quiet held hnext =>
      rw [List.append_nil]
      rcases hnext with ⟨hsame, _⟩ | ⟨hgone, _⟩
      · rw [hsame]
        exact .inr hfilling
      · exact .inr (.inl hgone)
  | met demand rest hrest =>
      rcases hfilling with hgone | ⟨since, hfilling⟩
      · rw [hgone] at hrest
        cases hrest
      · obtain ⟨htends, _⟩ := (hobey i task _ htask hrest).of_ask
        rcases htends.of_filling hfilling with rfl | hafter
        · exact .inl ⟨since, rfl⟩
        · exact .inr (.inr ⟨since, (Grip.of_append ..).trans (hafter _)⟩)

theorem Change.filling
    {task next : Task κ χ α} {session : Session σ κ χ} {i : Nat} {credentials : Credentials}
    {acquired : Acquired κ}
    (hchange : system.Change backend task next session [⟨.acquire credentials, .ok acquired⟩])
    (hobey : system.Obey (fun i => Tends (keys i)) (fun _ _ _ => True) events)
    (htask : system.tasks[i]? = some task) :
    ∃ since, Grip.of (own i events ++ [⟨.acquire credentials, .ok acquired⟩]) =
      .filling since acquired := by
  obtain ⟨rest, hrest, _⟩ := hchange.of_told
  obtain ⟨⟨since, hmissing⟩, _⟩ := (hobey i task _ htask hrest).of_ask
  refine ⟨since, ?_⟩
  rw [Grip.of_append, hmissing]
  rfl

/-- Who has acquired a handle has stored it since, or was abandoned, or has still to do so. -/
theorem Runs.stored_of_acquired
    (hruns : first.Runs backend events system) (hclock : backend.Monotone)
    (hfirst : first.Tended backend keys []) {before later : List (Nat × Told κ χ)} {i : Nat}
    {credentials : Credentials} {acquired : Acquired κ}
    (hacquired : events = before ++ (i, ⟨.acquire credentials, .ok acquired⟩) :: later) :
    (∃ since, (i, ⟨.store (keys i) since acquired, ()⟩) ∈ later) ∨
      ∃ task, system.tasks[i]? = some task ∧
        (task.rest? = none ∨ ∃ since, Grip.of (own i events) = .filling since acquired) := by
  refine hruns.keeps
    (P := fun events system => ∀ later,
      events = before ++ (i, ⟨.acquire credentials, .ok acquired⟩) :: later →
      (∃ since, (i, ⟨.store (keys i) since acquired, ()⟩) ∈ later) ∨
        ∃ task, system.tasks[i]? = some task ∧
          (task.rest? = none ∨ ∃ since, Grip.of (own i events) = .filling since acquired))
    ?_ ?_ ?_ later hacquired
  · intro later hnever
    simp at hnever
  · exact fun _ _ _ _ ih _ => ih
  · intro events system clock index task next session told hsooner ih htask hchange later hacquired
    have hobey := (hsooner.tended hclock hfirst).obey
    rw [own_append, own_map]
    rcases hchange.cut hacquired with ⟨one, rfl, _, hevent, _⟩ | ⟨sooner, rfl, hevents⟩
    · -- This is the acquisition.
      cases hevent
      rw [if_pos rfl]
      exact .inr ⟨next, getElem?_set_moved htask, .inr (hchange.filling hobey htask)⟩
    · rcases ih sooner hevents with ⟨since, hstored⟩ | ⟨found, hsame, hstate⟩
      · exact .inl ⟨since, List.mem_append_left _ hstored⟩
      · by_cases hindex : index = i
        · subst hindex
          obtain rfl : task = found := Option.some.inj (htask.symm.trans hsame)
          rw [if_pos rfl]
          rcases hchange.of_filling hobey htask hstate with ⟨since, rfl⟩ | hnext
          · exact .inl ⟨since, List.mem_append_right _ (List.mem_singleton.mpr rfl)⟩
          · exact .inr ⟨next, getElem?_set_moved htask, hnext⟩
        · rw [if_neg fun heq => hindex heq.symm, List.append_nil]
          exact .inr ⟨found, by rw [List.getElem?_set_ne hindex, hsame], hstate⟩

/-! ## Many callers -/

/-- Callers who use the slot of one proxy and have not begun. -/
def calling (key : String) (session : Session σ κ χ) (callers : List Caller) :
    System σ κ χ (Option (Except NegotiateError κ)) :=
  ⟨session, 0, callers.map fun caller => .start none (caller.program key)⟩

theorem tended_calling
    (backend : Backend σ κ χ) (key : String) (session : Session σ κ χ) (callers : List Caller) :
    (calling key session callers).Tended backend (fun _ => key) [] := by
  refine tended_of_start fun i task htask => ?_
  simp only [calling, List.getElem?_map, Option.map_eq_some_iff] at htask
  obtain ⟨caller, _, rfl⟩ := htask
  exact ⟨none, _, rfl, (caller.obeys_program key).mono (fun _ _ htends => htends)
    fun _ _ _ => trivial⟩

theorem obey_calling
    (key : String) (session : Session σ κ χ) (callers : List Caller) :
    (calling key session callers).Obey (fun _ => Tends key) (fun _ => Caller.Ends key) [] := by
  intro i task rest htask hrest
  simp only [calling, List.getElem?_map, Option.map_eq_some_iff] at htask
  obtain ⟨caller, _, rfl⟩ := htask
  cases hrest
  exact caller.obeys_program key

/-- Who looks into the slot after another has acquired a handle finds that handle. -/
theorem found_of_acquired
    {key : String} (hclock : backend.Monotone) (hfirst : first.Tended backend (fun _ => key) [])
    {before between : List (Nat × Told κ χ)} {i j : Nat} {credentials : Credentials} (kept : Kept κ)
    (hruns : first.Runs backend
      (before ++ (j, ⟨.acquire credentials, .ok ⟨kept.handle, some kept.validUntil⟩⟩) :: between) system)
    {task : Task κ χ α} {rest : (Demand.lookup key : Demand κ χ).Answer → Exchange κ χ α}
    (htask : system.tasks[i]? = some task) (hlookup : task.rest? = some (.ask (.lookup key) rest))
    (hstay : ∀ other, system.tasks[j]? = some other → other.rest?.isSome = true) (hne : i ≠ j)
    (hforget : ∀ event ∈ between, event.2.demand ≠ .forget key)
    (hvalid : backend.now system.session.outside < kept.validUntil) :
    (system.session.cache.lookup key (backend.now system.session.outside)).1 = some kept.handle := by
  have htended := hruns.tended hclock hfirst
  rcases hruns.stored_of_acquired hclock hfirst rfl with ⟨since, hstored⟩ | ⟨other, hother, hstate⟩
  · obtain ⟨sooner, later, rfl⟩ := List.append_of_mem hstored
    have hunforgotten : Unforgotten key kept
        (before ++ (j, ⟨.acquire credentials, .ok ⟨kept.handle, some kept.validUntil⟩⟩) ::
          (sooner ++
            (j, ⟨.store key since ⟨kept.handle, some kept.validUntil⟩, ()⟩) :: later)) := by
      refine ⟨before ++ (j, ⟨.acquire credentials, .ok ⟨kept.handle, some kept.validUntil⟩⟩) ::
        sooner, _, later, since, by rw [List.append_assoc, List.cons_append], rfl, ?_⟩
      exact fun event hevent =>
        hforget event (List.mem_append_right _ (List.mem_cons_of_mem _ hevent))
    have hkept : system.session.cache.get? key = some kept :=
      hruns.get?_of_unforgotten hclock hfirst hunforgotten hvalid
    rw [Cache.lookup_of_valid ((Cache.valid?_eq_some_iff ..).mpr ⟨hkept, hvalid⟩)]
  · -- The other would still have the slot in his grip.
    obtain ⟨otherRest, hotherRest⟩ := Option.isSome_iff_exists.mp (hstay other hother)
    rcases hstate with hgone | ⟨since, hfilling⟩
    · rw [hgone] at hotherRest
      cases hotherRest
    · obtain ⟨htends, _⟩ := htended.of_ask htask hlookup
      have hgrip := (htends.slot rfl).2
      have hotherGrip : Grip.of (own j
          (before ++ (j, ⟨.acquire credentials, .ok ⟨kept.handle, some kept.validUntil⟩⟩) :: between)) ≠
          .away := by
        intro haway
        cases hfilling.symm.trans haway
      exact absurd (htended.eq_of_grip htask hlookup hother hotherRest rfl hgrip hotherGrip) hne

theorem outcome_of_found
    {key : String} {session : Session σ κ χ} {callers : List Caller}
    {system : System σ κ χ (Option (Except NegotiateError κ))}
    (hruns : (calling key session callers).Runs backend events system) {i : Nat} {now : Instant}
    {handle : κ} (hfound : (i, ⟨.lookup key, (now, some handle)⟩) ∈ events)
    {task : Task κ χ (Option (Except NegotiateError κ))}
    {rest : Exchange κ χ (Option (Except NegotiateError κ))}
    (htask : system.tasks[i]? = some task) (hrest : task.rest? = some rest)
    (ending : Session σ κ χ) :
    (ending.run backend rest).1 = some (.ok handle) ∧
      ∀ told, (i, told) ∈ events → told.demand.isAcquisition = false := by
  have hobeys := hruns.obey (obey_calling key session callers) i task rest htask hrest
  obtain ⟨further, hends⟩ := hobeys.last_run backend ending
  obtain ⟨hresult, hnone⟩ := hends.of_found
    (List.mem_map.mpr ⟨_, List.mem_append_left further (mem_own.mpr hfound), rfl⟩)
  exact ⟨hresult, fun told htold => hnone told (List.mem_append_left further (mem_own.mpr htold))⟩

/-- When none of the callers is abandoned, no two of them acquire a handle at the same time.  Who looks
into the slot after another has acquired a handle, while the handle is valid and nobody has had it
forgotten, finds it, acquires none, and it is the outcome for him. -/
theorem single_flight
    (backend : Backend σ κ χ) (hclock : backend.Monotone) (key : String) (session : Session σ κ χ)
    (callers : List Caller) (events : List (Nat × Told κ χ))
    (system : System σ κ χ (Option (Except NegotiateError κ)))
    (hruns : (calling key session callers).Runs backend events system)
    (hstay : ∀ task ∈ system.tasks, task.rest?.isSome = true) :
    (∀ (i j : Nat) (one other : Task κ χ (Option (Except NegotiateError κ))),
      system.tasks[i]? = some one → system.tasks[j]? = some other →
      one.isAcquiring = true → other.isAcquiring = true → i = j) ∧
    ∀ (before between later : List (Nat × Told κ χ)) (i j : Nat) (credentials : Credentials)
      (handle : κ) (validUntil now : Instant) (found : Option κ),
      events = before ++ (j, ⟨.acquire credentials, .ok ⟨handle, some validUntil⟩⟩) ::
        (between ++ (i, ⟨.lookup key, (now, found)⟩) :: later) →
      i ≠ j → (∀ event ∈ between, event.2.demand ≠ .forget key) → now < validUntil →
      found = some handle ∧
      (∀ told, (i, told) ∈ events → told.demand.isAcquisition = false) ∧
      ∃ task rest, system.tasks[i]? = some task ∧ task.rest? = some rest ∧
        ∀ ending : Session σ κ χ, (ending.run backend rest).1 = some (.ok handle) := by
  have hfirst := tended_calling backend key session callers
  refine ⟨?_, ?_⟩
  · intro i j one other hone hother honeAcquires hotherAcquires
    exact (hruns.tended hclock hfirst).eq_of_isAcquiring hone (hstay one (List.mem_of_getElem? hone))
      hother (hstay other (List.mem_of_getElem? hother)) rfl honeAcquires hotherAcquires
  · intro before between later i j credentials handle validUntil now found hevents hne hforget hvalid
    have hcut : events = (before ++ (j, ⟨.acquire credentials, .ok ⟨handle, some validUntil⟩⟩) ::
        between) ++ (i, ⟨.lookup key, (now, found)⟩) :: later := by
      rw [hevents, List.append_assoc, List.cons_append]
    rw [hcut] at hruns
    -- In the middle is the system in which the caller looks into the slot.
    obtain ⟨middle, clock, task, next, after, hsooner, htask, hchange, hlater⟩ := hruns.split
    obtain ⟨asked, hlookup, hanswer⟩ := hchange.of_told
    obtain ⟨hnow, hanswer⟩ := Prod.mk.inj hanswer
    have hstayed : ∀ other, middle.tasks[j]? = some other → other.rest?.isSome = true := by
      intro other hother
      rw [← List.getElem?_set_ne hne (a := next)] at hother
      exact hlater.rest?_isSome hstay other (List.mem_of_getElem? hother)
    have hfound : found = some handle := by
      rw [hnow] at hvalid
      rw [hanswer]
      exact found_of_acquired hclock hfirst ⟨handle, validUntil⟩ hsooner htask hlookup hstayed hne
        hforget hvalid
    have hmem : (i, ⟨.lookup key, (now, some handle)⟩) ∈ events := by
      rw [hcut, hfound]
      exact List.mem_append_right _ List.mem_cons_self
    obtain ⟨ended, hended⟩ := hlater.exists_task (getElem?_set_moved htask)
    obtain ⟨rest, hrest⟩ := Option.isSome_iff_exists.mp (hstay ended (List.mem_of_getElem? hended))
    rw [← hcut] at hruns
    have hends := outcome_of_found hruns hmem hended hrest
    exact ⟨hfound, (hends session).2, ended, rest, hended, hrest, fun ending => (hends ending).1⟩

end System

/-! ### Two callers -/

namespace Rehearsal

/-- Two callers want a handle; the second looks for it when the first has given the lock back. -/
def twoCallers : System Stage Handle Context (Option (Except NegotiateError Handle)) :=
  .calling "http://proxy:3128" (.start .start) [.get .ambient, .get .ambient]

def oneAfterAnother : List (Nat × Move) :=
  [(0, .proceed), (0, .proceed), (0, .proceed), (0, .deliver), (0, .proceed), (0, .proceed),
    (1, .proceed), (1, .proceed)]

theorem single_flight_oneAfterAnother :
    ∃ task rest,
      (twoCallers.follow negotiating oneAfterAnother).tasks[1]? = some task ∧
      task.rest? = some rest ∧
      ∀ ending : Session Stage Handle Context,
        (ending.run negotiating rest).1 = some (.ok ⟨1, none⟩) := by
  have hruns : twoCallers.Runs negotiating _ _ := System.Runs.refl.follow oneAfterAnother
  obtain ⟨_, hfound⟩ :=
    System.single_flight negotiating (backend_monotone _ _) "http://proxy:3128" (.start .start)
      [.get .ambient, .get .ambient] _ _ hruns (by decide)
  refine (hfound
    [(0, ⟨.take (.handle "http://proxy:3128"), ()⟩),
      (0, ⟨.lookup "http://proxy:3128", (0, none)⟩)]
    [(0, ⟨.store "http://proxy:3128" 0 ⟨⟨1, none⟩, some farAhead⟩, ()⟩),
      (0, ⟨.release (.handle "http://proxy:3128"), ()⟩),
      (1, ⟨.take (.handle "http://proxy:3128"), ()⟩)]
    [] 1 0 .ambient ⟨1, none⟩ farAhead 1 (some ⟨1, none⟩) rfl (by decide) (by simp) (by decide)).2.2

end Rehearsal
end ProxyHandshake
