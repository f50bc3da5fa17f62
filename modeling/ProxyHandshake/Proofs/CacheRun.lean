import ProxyHandshake.Proofs.Cache

/-!
# Many operations on one cache

Handles for many proxies are asked for and forgotten in any order.  For each proxy this goes on as if
there were no others: what is kept for it, and what every operation on it answers, depend on the
operations on this proxy alone.

The state of one proxy is the entry that is kept for it, or none.  An operation is told by the entry
before and after it; that the cache does the same to the entry of its key, and nothing to any other,
carries over from one operation to a run.
-/

namespace ProxyHandshake

variable {κ ε : Type}

/-! ## Operations -/

inductive CacheAction (κ ε : Type) where
  /-- Get a handle; `outcome` is what an acquisition would yield. -/
  | get (outcome : Except ε (Acquired κ))
  | forget
  | isCached

structure CacheOperation (κ ε : Type) where
  proxy : Url
  /-- The moment at which it begins. -/
  now : Instant
  action : CacheAction κ ε

inductive CacheAnswer (κ ε : Type) where
  | got (result : Except ε κ) (acquired : Bool)
  | forgotten
  | cached (isCached : Bool)

def CacheOperation.key (operation : CacheOperation κ ε) : String :=
  operation.proxy.proxyKey

namespace Cache

/-- Whether a handle has to be acquired: just then getting one fails if the acquisition does. -/
def acquires (cache : Cache κ) (key : String) (now : Instant) : Bool :=
  let failing : Unit → Except Unit (Acquired κ) := fun _ => .error ()
  (cache.getOrAcquire key now failing).1.toOption.isNone

def perform (cache : Cache κ) (operation : CacheOperation κ ε) : CacheAnswer κ ε × Cache κ :=
  match operation.action with
  | .get outcome =>
    let (result, after) := cache.getOrAcquire operation.key operation.now fun _ => outcome
    (.got result (cache.acquires operation.key operation.now), after)
  | .forget => (.forgotten, cache.forget operation.key)
  | .isCached => (.cached (cache.isCached operation.key), cache)

def run (cache : Cache κ) : List (CacheOperation κ ε) → List (CacheAnswer κ ε) × Cache κ
  | [] => ([], cache)
  | operation :: rest =>
    let (answer, after) := cache.perform operation
    let (answers, last) := after.run rest
    (answer :: answers, last)

end Cache

/-! ## One proxy alone -/

namespace CacheOperation

/-- What an operation does to the entry of its proxy. -/
def on (operation : CacheOperation κ ε) (held : Option (Kept κ)) :
    CacheAnswer κ ε × Option (Kept κ) :=
  match operation.action with
  | .get outcome =>
    match held.filter fun kept => operation.now < kept.validUntil with
    | some kept => (.got (.ok kept.handle) false, held)
    | none =>
      (.got (outcome.map Acquired.handle) true, outcome.toOption.bind (·.kept? operation.now))
  | .forget => (.forgotten, none)
  | .isCached => (.cached held.isSome, held)

def runOn (held : Option (Kept κ)) :
    List (CacheOperation κ ε) → List (CacheAnswer κ ε) × Option (Kept κ)
  | [] => ([], held)
  | operation :: rest =>
    let (answer, after) := operation.on held
    let (answers, last) := runOn after rest
    (answer :: answers, last)

/-- The answers of the operations on `key` among those of all operations. -/
def answersFor (key : String) (operations : List (CacheOperation κ ε))
    (answers : List (CacheAnswer κ ε)) : List (CacheAnswer κ ε) :=
  ((operations.zip answers).filter fun told => told.1.key = key).map Prod.snd

end CacheOperation

/-! ## One operation -/

namespace Cache

variable {cache : Cache κ} {key : String} {now : Instant}

theorem acquires_of_valid {kept : Kept κ} (hvalid : cache.valid? key now = some kept) :
    cache.acquires key now = false := by
  simp [acquires, getOrAcquire_of_valid hvalid, Except.toOption]

theorem acquires_of_invalid (hvalid : cache.valid? key now = none) :
    cache.acquires key now = true := by
  simp [acquires, (getOrAcquire_of_invalid hvalid _).1, Except.toOption, Except.map]

/-- An operation does to the entry of its key what it does to this entry alone, and nothing to any
other. -/
theorem perform_on (cache : Cache κ) (operation : CacheOperation κ ε) :
    (cache.perform operation).1 = (operation.on (cache.get? operation.key)).1 ∧
      ∀ other, (cache.perform operation).2.get? other =
        if other = operation.key then (operation.on (cache.get? operation.key)).2
        else cache.get? other := by
  rcases operation with ⟨proxy, now, outcome | _ | _⟩
  · change _ ∧ ∀ other, _ = if other = proxy.proxyKey then _ else _
    cases hvalid : cache.valid? proxy.proxyKey now with
    | some kept =>
        have hheld := hvalid
        unfold valid? at hheld
        simp only [perform, CacheOperation.on, CacheOperation.key,
          getOrAcquire_of_valid hvalid, acquires_of_valid hvalid, hheld]
        refine ⟨trivial, fun other => ?_⟩
        by_cases hother : other = proxy.proxyKey
        · simp [hother]
        · simp [hother]
    | none =>
        have hheld := hvalid
        unfold valid? at hheld
        obtain ⟨hanswer, hafter⟩ := getOrAcquire_of_invalid hvalid fun _ => outcome
        simp only [perform, CacheOperation.on, CacheOperation.key, hanswer,
          acquires_of_invalid hvalid, hheld]
        exact ⟨trivial, hafter⟩
  · exact ⟨rfl, get?_forget cache proxy.proxyKey⟩
  · refine ⟨rfl, fun other => ?_⟩
    by_cases hother : other = proxy.proxyKey
    · simp [perform, CacheOperation.on, CacheOperation.key, hother]
    · simp [perform, CacheOperation.key, hother]

/-! ## Runs -/

theorem run_append (cache : Cache κ) (before later : List (CacheOperation κ ε)) :
    cache.run (before ++ later) =
      ((cache.run before).1 ++ ((cache.run before).2.run later).1,
        ((cache.run before).2.run later).2) := by
  induction before generalizing cache with
  | nil => rfl
  | cons operation before ih => simp [run, ih]

theorem length_run (cache : Cache κ) (operations : List (CacheOperation κ ε)) :
    (cache.run operations).1.length = operations.length := by
  induction operations generalizing cache with
  | nil => rfl
  | cons operation operations ih => simp [run, ih]

/-- A run does to the entry of every key what the operations on this key do to it alone. -/
theorem run_on (cache : Cache κ) (operations : List (CacheOperation κ ε)) (key : String) :
    let alone :=
      CacheOperation.runOn (cache.get? key)
        (operations.filter fun operation => operation.key = key)
    CacheOperation.answersFor key operations (cache.run operations).1 = alone.1 ∧
      (cache.run operations).2.get? key = alone.2 := by
  induction operations generalizing cache with
  | nil => exact ⟨rfl, rfl⟩
  | cons operation operations ih =>
      obtain ⟨hanswer, hafter⟩ := cache.perform_on operation
      obtain ⟨hanswers, hlast⟩ := ih (cache.perform operation).2
      -- An operation on another key is left out, and leaves the entry of this one.
      by_cases hkey : operation.key = key
      · subst hkey
        rw [hafter, if_pos rfl] at hanswers hlast
        simp only [CacheOperation.answersFor] at hanswers
        simp [run, CacheOperation.answersFor, CacheOperation.runOn, hanswer, hanswers, hlast]
      · rw [hafter, if_neg fun heq => hkey heq.symm] at hanswers hlast
        simp only [CacheOperation.answersFor] at hanswers
        simp [run, CacheOperation.answersFor, hkey, hanswers, hlast]

theorem answersFor_own
    {key : String} {operations : List (CacheOperation κ ε)} {answers : List (CacheAnswer κ ε)}
    (hown : ∀ operation ∈ operations, operation.key = key)
    (hlength : answers.length = operations.length) :
    CacheOperation.answersFor key operations answers = answers := by
  have hfilter : (operations.zip answers).filter (fun told => told.1.key = key) =
      operations.zip answers := by
    refine List.filter_eq_self.mpr fun told htold => ?_
    simpa using hown told.1 (List.of_mem_zip htold).1
  rw [CacheOperation.answersFor, hfilter, List.map_snd_zip (Nat.le_of_eq hlength)]

/-- The operations on one key get the same answers without the others. -/
theorem answersFor_run (cache : Cache κ) (operations : List (CacheOperation κ ε)) (key : String) :
    let own := operations.filter fun operation => operation.key = key
    CacheOperation.answersFor key operations (cache.run operations).1 = (cache.run own).1 ∧
      (cache.run operations).2.get? key = (cache.run own).2.get? key := by
  intro own
  have hown : ∀ operation ∈ own, operation.key = key := by
    intro operation hmem
    simpa using (List.mem_filter.mp hmem).2
  have hself : own.filter (fun operation => operation.key = key) = own :=
    List.filter_eq_self.mpr fun operation hmem => by simpa using hown operation hmem
  obtain ⟨hanswers, hlast⟩ := cache.run_on operations key
  obtain ⟨hownAnswers, hownLast⟩ := cache.run_on own key
  rw [hself] at hownAnswers hownLast
  rw [answersFor_own hown (cache.length_run own)] at hownAnswers
  exact ⟨hanswers.trans hownAnswers.symm, hlast.trans hownLast.symm⟩

end Cache

/-! ## The rule of every operation -/

/-- What is told about an operation that finds `held` and leaves `left`: a handle is acquired just
when none is held that is still valid, and kept just when it is valid at the moment at which the
operation began. -/
def CacheOperation.Rule (operation : CacheOperation κ ε) (held : Option (Kept κ))
    (answer : CacheAnswer κ ε) (left : Option (Kept κ)) : Prop :=
  match operation.action with
  | .get outcome =>
    ∃ result acquired, answer = .got result acquired ∧
      (acquired = true ↔ ¬ ∃ kept, held = some kept ∧ operation.now < kept.validUntil) ∧
      (acquired = false → left = held ∧ ∃ kept, held = some kept ∧ result = .ok kept.handle) ∧
      (acquired = true → result = outcome.map Acquired.handle ∧
        ((∃ kept, left = some kept) ↔
          ∃ new, outcome = .ok new ∧ new.isValidAt operation.now = true) ∧
        ∀ kept, left = some kept → outcome = .ok ⟨kept.handle, some kept.validUntil⟩)
  | .forget => left = none
  | .isCached => answer = .cached held.isSome ∧ left = held

theorem Acquired.isSome_kept? (acquired : Acquired κ) (since : Instant) :
    (acquired.kept? since).isSome = acquired.isValidAt since := by
  rcases acquired with ⟨handle, _ | validUntil⟩
  · rfl
  · by_cases hlt : since < validUntil
    · simp [kept?, isValidAt, Option.filter, hlt]
    · simp [kept?, isValidAt, Option.filter, hlt]

theorem CacheOperation.rule_on (operation : CacheOperation κ ε) (held : Option (Kept κ)) :
    operation.Rule held (operation.on held).1 (operation.on held).2 := by
  rcases operation with ⟨proxy, now, outcome | _ | _⟩
  · cases hvalid : held.filter fun kept => now < kept.validUntil with
    | some kept =>
        obtain ⟨hheld, hlt⟩ := Option.filter_eq_some_iff.mp hvalid
        have hlt : now < kept.validUntil := by simpa using hlt
        refine ⟨.ok kept.handle, false, ?_, ?_, ?_, by simp⟩
        · simp [on, hvalid]
        · simp [hheld, hlt]
        · intro _
          exact ⟨by simp [on, hvalid], kept, hheld, rfl⟩
    | none =>
        have hstale : ¬ ∃ kept, held = some kept ∧ now < kept.validUntil := by
          simpa [Option.filter_eq_none_iff] using hvalid
        refine ⟨outcome.map Acquired.handle, true, ?_, ?_, by simp, ?_⟩
        · simp [on, hvalid]
        · simpa using hstale
        · intro _
          have hleft : (on ⟨proxy, now, .get outcome⟩ held).2 =
              outcome.toOption.bind (·.kept? now) := by simp [on, hvalid]
          rw [hleft]
          refine ⟨rfl, ?_, ?_⟩
          · rw [← Option.isSome_iff_exists]
            cases outcome with
            | error e => simp [Except.toOption]
            | ok new => simp [Except.toOption, Acquired.isSome_kept?]
          · intro kept hkept
            cases outcome with
            | error e => cases hkept
            | ok new => rw [((new.kept?_eq_some_iff now kept).mp hkept).1]
  · exact rfl
  · exact ⟨rfl, rfl⟩

/-! ## The cache as a set of histories -/

/-- In every run of a cache, whatever the clock does, the operations on one key get the answers that
they get by themselves, and every operation follows the rule for the entry that the operations on its
key have left so far. -/
theorem Cache.run_by_key (operations : List (CacheOperation κ ε)) :
    (∀ key,
      CacheOperation.answersFor key operations (Cache.empty.run operations).1 =
        (Cache.empty.run (operations.filter fun operation => operation.key = key)).1) ∧
    ∀ before operation later, operations = before ++ operation :: later →
      let own := before.filter fun sooner => sooner.key = operation.key
      let held := (Cache.empty.run own).2.get? operation.key
      let left := (Cache.empty.run (before ++ [operation])).2.get? operation.key
      ∃ answer, (Cache.empty.run operations).1[before.length]? = some answer ∧
        operation.Rule held answer left := by
  refine ⟨fun key => (Cache.empty.answersFor_run operations key).1, ?_⟩
  rintro before operation later rfl
  have hheld := (Cache.empty.answersFor_run before operation.key).2
  obtain ⟨hanswer, hafter⟩ := (Cache.empty.run before).2.perform_on operation
  refine ⟨((Cache.empty.run before).2.perform operation).1, ?_, ?_⟩
  · rw [Cache.run_append]
    simp [Cache.run, Cache.length_run]
  · have hleft : (Cache.empty.run (before ++ [operation])).2.get? operation.key =
        (operation.on ((Cache.empty.run before).2.get? operation.key)).2 := by
      rw [Cache.run_append]
      simpa [Cache.run] using hafter operation.key
    rw [hleft, hanswer, hheld]
    exact operation.rule_on _

/-! ### A handle at the end of its time -/

namespace CacheOperation

def proxyAt (host : String) (port : Option Nat) : Url :=
  { scheme := "http", username := "", password := none, host := some (.domain host),
    port := port, path := .segments [""], query := none, fragment := none }

/-- A handle that is valid before the moment 5, asked for under two names of its proxy, and an operation
on another proxy in between. -/
def expiring : List (CacheOperation Nat Unit) :=
  [⟨proxyAt "proxy" none, 0, .get (.ok ⟨7, some 5⟩)⟩,
    ⟨proxyAt "other" none, 1, .isCached⟩,
    ⟨proxyAt "PROXY" (some 80), 4, .get (.error ())⟩,
    ⟨proxyAt "proxy" none, 5, .get (.error ())⟩]

/-- The handle is used again at the moment 4 and no longer at 5, and then nothing is kept. -/
theorem run_by_key_expiring :
    expiring = expiring.take 3 ++ ⟨proxyAt "proxy" none, 5, .get (.error ())⟩ :: [] ∧
      (Cache.empty.run expiring).1 =
        [.got (.ok 7) true, .cached false, .got (.ok 7) false, .got (.error ()) true] ∧
      ∃ answer, (Cache.empty.run expiring).1[3]? = some answer ∧
        (⟨proxyAt "proxy" none, 5, .get (.error ())⟩ : CacheOperation Nat Unit).Rule
          (some ⟨7, 5⟩) answer none := by
  have hsplit :
      expiring = expiring.take 3 ++ ⟨proxyAt "proxy" none, 5, .get (.error ())⟩ :: [] := rfl
  exact ⟨hsplit, rfl, (Cache.run_by_key expiring).2 _ _ _ hsplit⟩

end CacheOperation
end ProxyHandshake
