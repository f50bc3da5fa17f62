import ProxyHandshake.Cache
import ProxyHandshake.Proofs.Entries

/-!
# What the cache holds after each operation

Every operation is told by the entry that the cache holds for each key afterwards.  Operations on one
key leave the entries of all other keys as they are.
-/

namespace ProxyHandshake
namespace Cache

variable {κ : Type}

theorem get?_forget (cache : Cache κ) (key other : String) :
    (cache.forget key).get? other = if other = key then none else cache.get? other :=
  lookup_filter_ne cache.entries key other

theorem get?_put (cache : Cache κ) (key other : String) (kept : Kept κ) :
    (cache.put key kept).get? other = if other = key then some kept else cache.get? other :=
  lookup_cons_filter_ne cache.entries key other kept

/-- The entry for `key` that is valid at `now`. -/
def valid? (cache : Cache κ) (key : String) (now : Instant) : Option (Kept κ) :=
  (cache.get? key).filter fun kept => now < kept.validUntil

theorem valid?_eq_some_iff (cache : Cache κ) (key : String) (now : Instant) (kept : Kept κ) :
    cache.valid? key now = some kept ↔
      cache.get? key = some kept ∧ now < kept.validUntil := by
  simp [valid?, Option.filter_eq_some_iff]

theorem lookup_of_valid
    {cache : Cache κ} {key : String} {now : Instant} {kept : Kept κ}
    (hvalid : cache.valid? key now = some kept) :
    cache.lookup key now = (some kept.handle, cache) := by
  rw [valid?_eq_some_iff] at hvalid
  simp only [lookup, hvalid.1, hvalid.2, if_true]

/-- Without a valid entry nothing is found, and none is left. -/
theorem lookup_of_invalid
    {cache : Cache κ} {key : String} {now : Instant} (hvalid : cache.valid? key now = none) :
    (cache.lookup key now).1 = none ∧
      ∀ other, (cache.lookup key now).2.get? other =
        if other = key then none else cache.get? other := by
  unfold lookup
  cases hkept : cache.get? key with
  | none =>
      refine ⟨rfl, fun other => ?_⟩
      by_cases hother : other = key
      · simp [hother, hkept]
      · simp [hother]
  | some kept =>
      have hstale : ¬ now < kept.validUntil := by
        intro hlt
        have hsome := (valid?_eq_some_iff cache key now kept).mpr ⟨hkept, hlt⟩
        simp [hvalid] at hsome
      simp only [hstale, if_false]
      exact ⟨trivial, get?_forget cache key⟩

end Cache

/-- What is kept of a new handle whose lookup began at `since`. -/
def Acquired.kept? {κ : Type} (acquired : Acquired κ) (since : Instant) : Option (Kept κ) :=
  (acquired.validUntil.filter fun validUntil => since < validUntil).map fun validUntil =>
    ⟨acquired.handle, validUntil⟩

theorem Acquired.kept?_eq_some_iff
    {κ : Type} (acquired : Acquired κ) (since : Instant) (kept : Kept κ) :
    acquired.kept? since = some kept ↔
      acquired = ⟨kept.handle, some kept.validUntil⟩ ∧ since < kept.validUntil := by
  rcases acquired with ⟨handle, _ | validUntil⟩
  · simp [kept?]
  · rcases kept with ⟨other, otherUntil⟩
    by_cases hlt : since < validUntil
    · simp [kept?, Option.filter, hlt]
      grind
    · simp [kept?, Option.filter, hlt]
      grind

/-- Storing a handle for a key that has no entry. -/
theorem Cache.get?_store
    {κ : Type} {cache : Cache κ} {key : String} (hnone : cache.get? key = none)
    (since : Instant) (acquired : Acquired κ) (other : String) :
    (cache.store key since acquired).get? other =
      if other = key then acquired.kept? since else cache.get? other := by
  unfold store Acquired.kept?
  cases acquired.validUntil with
  | none =>
      by_cases hother : other = key
      · simp [hother, hnone]
      · simp [hother]
  | some validUntil =>
      by_cases hlt : since < validUntil
      · simp [hlt, get?_put, Option.filter]
      · by_cases hother : other = key
        · simp [hlt, hother, hnone, Option.filter]
        · simp [hlt, hother]

theorem Cache.get?_store_of_ne
    {κ : Type} (cache : Cache κ) {key other : String} (hother : other ≠ key) (since : Instant)
    (acquired : Acquired κ) :
    (cache.store key since acquired).get? other = cache.get? other := by
  unfold store
  split
  · split
    · exact (get?_put cache key other _).trans (if_neg hother)
    · rfl
  · rfl

/-! ## Getting a handle -/

namespace Cache

variable {κ ε : Type} {cache : Cache κ} {key : String} {now : Instant}

theorem getOrAcquire_of_valid
    {kept : Kept κ} (hvalid : cache.valid? key now = some kept)
    (acquire : Unit → Except ε (Acquired κ)) :
    cache.getOrAcquire key now acquire = (.ok kept.handle, cache) := by
  simp only [getOrAcquire, lookup_of_valid hvalid]

/-- Without a valid entry the outcome of the acquisition is the answer, and what it yields is all that
may be kept. -/
theorem getOrAcquire_of_invalid
    (hvalid : cache.valid? key now = none) (acquire : Unit → Except ε (Acquired κ)) :
    (cache.getOrAcquire key now acquire).1 = (acquire ()).map Acquired.handle ∧
      ∀ other, (cache.getOrAcquire key now acquire).2.get? other =
        if other = key then (acquire ()).toOption.bind (·.kept? now) else cache.get? other := by
  obtain ⟨hfound, hleft⟩ := lookup_of_invalid hvalid
  simp only [getOrAcquire]
  generalize cache.lookup key now = found at hfound hleft ⊢
  rcases found with ⟨_, left⟩
  subst hfound
  simp only
  cases acquire () with
  | error e => exact ⟨rfl, hleft⟩
  | ok acquired =>
      refine ⟨rfl, fun other => ?_⟩
      have hnone : left.get? key = none := by simpa using hleft key
      rw [get?_store hnone, hleft other]
      by_cases hother : other = key
      · simp [hother, Except.toOption]
      · simp [hother]

end Cache

end ProxyHandshake
