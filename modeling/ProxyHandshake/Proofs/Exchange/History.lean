import ProxyHandshake.Proofs.Exchange.KeyUse
import ProxyHandshake.Proofs.Exchange.Rehearsed

/-!
# Which handles are used again

A handle that was acquired for a proxy is used again for the same proxy as long as it is valid, unless
an exchange through that proxy has rejected the client since.  When there is no such handle, and only
then, a new one is acquired.

The invariant that carries this through a history of exchanges says that the cache is faithful to the
past: what it holds was acquired and has not been rejected, and what was acquired, has not been
rejected and is still valid is what it holds.
-/

namespace ProxyHandshake

variable {σ κ χ : Type}

/-! ## Handles that stand -/

/-- Whether a handle was acquired for `key` and no exchange through it has rejected the client
since. -/
def Standing (past : List (Visit κ χ)) (key : String) (kept : Kept κ) : Prop :=
  ∃ before visit since,
    past = before ++ visit :: since ∧ visit.key = key ∧
    .acquired (.ok ⟨kept.handle, some kept.validUntil⟩) ∈ visit.calls ∧
    ∀ later ∈ visit :: since, later.key = key → ¬ later.Rejects

/-- Whether an earlier exchange through `key` left a handle that can be used at `now`. -/
def Usable (past : List (Visit κ χ)) (key : String) (now : Instant) (handle : κ) : Prop :=
  ∃ validUntil, now < validUntil ∧ Standing past key ⟨handle, validUntil⟩

theorem not_standing_nil (key : String) (kept : Kept κ) :
    ¬ Standing ([] : List (Visit κ χ)) key kept := by
  rintro ⟨before, visit, since, hpast, _⟩
  simp at hpast

/-- One more exchange through the key may reject what stood, and may acquire what stands now. -/
theorem standing_concat
    (past : List (Visit κ χ)) (visit : Visit κ χ) (key : String) (kept : Kept κ) :
    Standing (past ++ [visit]) key kept ↔
      (visit.key = key → ¬ visit.Rejects) ∧
        (Standing past key kept ∨
          visit.key = key ∧
            .acquired (.ok ⟨kept.handle, some kept.validUntil⟩) ∈ visit.calls) := by
  constructor
  · rintro ⟨before, first, since, hpast, hkey, hacquired, hkeeps⟩
    -- The handle was acquired in the last exchange or before it.
    rcases List.eq_nil_or_concat since with rfl | ⟨sooner, last, rfl⟩
    · obtain ⟨rfl, hlast⟩ := List.append_inj' hpast rfl
      obtain rfl : visit = first := by simpa using hlast
      exact ⟨hkeeps visit List.mem_cons_self, .inr ⟨hkey, hacquired⟩⟩
    · have hsplit : past ++ [visit] = (before ++ first :: sooner) ++ [last] := by
        simpa using hpast
      obtain ⟨rfl, hlast⟩ := List.append_inj' hsplit rfl
      obtain rfl : visit = last := by simpa using hlast
      refine ⟨hkeeps visit (by simp), .inl ⟨before, first, sooner, rfl, hkey, hacquired, ?_⟩⟩
      intro later hmem
      refine hkeeps later ?_
      rcases List.mem_cons.mp hmem with rfl | hsooner
      · exact List.mem_cons_self
      · exact List.mem_cons_of_mem _ (by simp [hsooner])
  · rintro ⟨hkeeps, ⟨before, first, since, rfl, hkey, hacquired, hsince⟩ | ⟨hkey, hacquired⟩⟩
    · refine ⟨before, first, since ++ [visit], by simp, hkey, hacquired, ?_⟩
      intro later hmem
      rw [← List.cons_append, List.mem_append, List.mem_singleton] at hmem
      rcases hmem with hsooner | rfl
      · exact hsince later hsooner
      · exact hkeeps
    · refine ⟨past, visit, [], rfl, hkey, hacquired, ?_⟩
      intro later hmem
      rw [List.mem_singleton.mp hmem]
      exact hkeeps

/-! ## A cache that is faithful to the past -/

/-- The cache holds just the handles of the past that stand and are valid, and perhaps some that
have run out. -/
structure Faithful (now : Instant) (past : List (Visit κ χ)) (cache : Cache κ) : Prop where
  acquired : ∀ key kept, cache.get? key = some kept → Standing past key kept
  held : ∀ key kept, Standing past key kept → now < kept.validUntil →
    cache.get? key = some kept

theorem Faithful.empty (now : Instant) :
    Faithful now ([] : List (Visit κ χ)) (Cache.empty : Cache κ) where
  acquired _ _ hkept := nomatch hkept
  held key kept hstanding := absurd hstanding (not_standing_nil key kept)

theorem Faithful.mono
    {now later : Instant} {past : List (Visit κ χ)} {cache : Cache κ}
    (hfaithful : Faithful now past cache) (hlater : now ≤ later) :
    Faithful later past cache where
  acquired := hfaithful.acquired
  held key kept hstanding hvalid :=
    hfaithful.held key kept hstanding (Int.lt_of_le_of_lt hlater hvalid)

theorem Faithful.visit
    {now lookup later : Instant} {past : List (Visit κ χ)} {cache after : Cache κ}
    {visit : Visit κ χ} {looks : Prop}
    (hfaithful : Faithful now past cache) (huse : KeyUse looks lookup cache visit after)
    (hlater : now ≤ later) (hlooked : looks → lookup ≤ later) :
    Faithful later (past ++ [visit]) after := by
  -- A handle that is valid after the exchange was valid when it was looked for.
  have hunexpired {validUntil : Instant} (hvalid : later < validUntil) (hlooks : looks) :
      lookup < validUntil :=
    Int.lt_of_le_of_lt (hlooked hlooks) hvalid
  constructor
  · intro key kept hkept
    rw [standing_concat]
    by_cases hkey : key = visit.key
    · subst hkey
      obtain ⟨hkeeps, hsooner | hnew⟩ := huse.of_get?_eq_some hkept
      · exact ⟨fun _ => hkeeps, .inl (hfaithful.acquired visit.key kept hsooner)⟩
      · exact ⟨fun _ => hkeeps, .inr ⟨rfl, hnew⟩⟩
    · rw [huse.get?_of_ne hkey] at hkept
      exact ⟨fun heq => absurd heq.symm hkey, .inl (hfaithful.acquired key kept hkept)⟩
  · intro key kept hstanding hvalid
    rw [standing_concat] at hstanding
    obtain ⟨hkeeps, hsooner | ⟨rfl, hnew⟩⟩ := hstanding
    · have hheld : cache.get? key = some kept :=
        (hfaithful.mono hlater).held key kept hsooner hvalid
      by_cases hkey : key = visit.key
      · subst hkey
        exact huse.get?_of_valid hheld (hunexpired hvalid) (hkeeps rfl)
      · rw [huse.get?_of_ne hkey]
        exact hheld
    · exact huse.get?_of_acquired hnew (hunexpired hvalid) (hkeeps rfl)

/-! ## Histories -/

/-- The moment at which an exchange looks for a handle. -/
def Backend.lookupTime (backend : Backend σ κ χ) (proxy : Url) (request : Request)
    (outside : σ) : Instant :=
  backend.now (backend.opening proxy request outside).2

namespace Session

/-- The session when something has happened outside. -/
def resume (session : Session σ κ χ) (outside : σ) : Session σ κ χ :=
  { session with outside := outside }

variable {backend : Backend σ κ χ} {settings : Settings} {files : FileSystem}
  {session : Session σ κ χ} {proxy : Url} {request : Request}

/-- What an exchange that is not cut off does with the handle kept for its proxy, and that the clock
goes on meanwhile. -/
theorem authenticate_keyUse
    (hclock : backend.Monotone)
    (hended : session.isCutOff backend settings files proxy request = false) :
    ∃ calls,
      (session.authenticate backend settings files proxy request).2.calls =
        session.calls ++ calls ∧
      KeyUse (LooksUp backend settings files session.outside proxy request)
        (backend.lookupTime proxy request session.outside) session.cache
        ⟨proxy, calls, (session.authenticate backend settings files proxy request).1⟩
        (session.authenticate backend settings files proxy request).2.cache ∧
      backend.now session.outside ≤
        backend.now
          (session.authenticate backend settings files proxy request).2.outside ∧
      (LooksUp backend settings files session.outside proxy request →
        backend.lookupTime proxy request session.outside ≤
          backend.now
            (session.authenticate backend settings files proxy request).2.outside) := by
  obtain ⟨calls, counted, result, cache, after, hrun, hcourse, hgrows⟩ :=
    run_handshake backend settings files backend.library.isReentrant proxy request session
  have hcache : (after.countResult result).cache = cache := by
    cases result <;> exact hgrows.cache_eq
  have houtside : (after.countResult result).outside = after.outside := by
    cases result <;> rfl
  rw [authenticate_of_ended backend hended hrun, calls_countResult, hcache, houtside]
  have hafter : after =
      (session.run backend
        (.handshake settings files backend.library.isReentrant proxy request)).2 := by
    rw [hrun]
  refine ⟨calls, hgrows.calls_eq, hcourse.keyUse, ?_, ?_⟩
  · rw [hafter]
    exact now_le_run hclock _ session
  · rintro ⟨response, target, hchallenged⟩
    rw [hafter]
    exact now_opening_le hclock hchallenged.validProxy hchallenged.validRequest _ session

theorem now_le_lookupTime
    (hclock : backend.Monotone) (proxy : Url) (request : Request) (outside : σ) :
    backend.now outside ≤ backend.lookupTime proxy request outside :=
  hclock.send proxy request.stripped none outside

end Session

/-- Exchanges with the same settings that follow one another, none of them cut off, from a session
in which nothing is kept yet.  Between them anything may happen outside, but the clock goes on. -/
inductive History (backend : Backend σ κ χ) (settings : Settings) :
    Session σ κ χ → List (Visit κ χ) → Prop
  | start (outside : σ) : History backend settings (.start outside) []
  | visit {session : Session σ κ χ} {past : List (Visit κ χ)}
      (hpast : History backend settings session past) (outside : σ)
      (houtside : backend.now session.outside ≤ backend.now outside)
      (files : FileSystem) (proxy : Url) (request : Request)
      (hended :
        (session.resume outside).isCutOff backend settings files proxy request = false)
      (calls : List (Call κ χ))
      (hcalls :
        ((session.resume outside).authenticate backend settings files proxy request).2.calls =
          session.calls ++ calls) :
      History backend settings
        ((session.resume outside).authenticate backend settings files proxy request).2
        (past ++ [⟨proxy, calls,
          ((session.resume outside).authenticate backend settings files proxy request).1⟩])

/-- After every history the cache is faithful to it. -/
theorem History.faithful
    {backend : Backend σ κ χ} {settings : Settings} {session : Session σ κ χ}
    {past : List (Visit κ χ)} (hclock : backend.Monotone)
    (hhistory : History backend settings session past) :
    Faithful (backend.now session.outside) past session.cache := by
  induction hhistory with
  | start outside => exact .empty _
  | @visit session past hpast outside houtside files proxy request hended calls hcalls ih =>
      obtain ⟨others, hothers, huse, hafter, hlooked⟩ :=
        Session.authenticate_keyUse hclock hended
      obtain rfl : calls = others := List.append_cancel_left (hcalls.symm.trans hothers)
      have hfaithful : Faithful (backend.now outside) past (session.resume outside).cache :=
        ih.mono houtside
      exact hfaithful.visit huse hafter hlooked

/-- Requests sent one after another make a history. -/
theorem History.authenticateAll
    {backend : Backend σ κ χ} {settings : Settings} {session : Session σ κ χ}
    {past : List (Visit κ χ)} (hclock : backend.Monotone) (htimeout : settings.timeout = none)
    (hhistory : History backend settings session past) (files : FileSystem)
    (requests : List (Url × Request)) :
    ∃ visits,
      History backend settings (session.authenticateAll backend settings files requests).2
        (past ++ visits) ∧
      visits.map Visit.proxy = requests.map Prod.fst ∧
      visits.map Visit.result =
        (session.authenticateAll backend settings files requests).1 := by
  induction requests generalizing session past with
  | nil =>
      refine ⟨[], ?_, rfl, rfl⟩
      rw [List.append_nil]
      exact hhistory
  | cons first rest ih =>
      obtain ⟨proxy, request⟩ := first
      have hended :
          (session.resume session.outside).isCutOff backend settings files proxy request =
            false := by
        simp only [Session.isCutOff, htimeout]
      obtain ⟨calls, hcalls, _⟩ := Session.authenticate_keyUse hclock hended
      have hvisit :=
        hhistory.visit session.outside (Int.le_refl _) files proxy request hended calls hcalls
      obtain ⟨visits, hvisits, hproxies, hresults⟩ := ih hvisit
      rw [List.append_assoc] at hvisits
      refine ⟨_ :: visits, hvisits, ?_, ?_⟩
      · rw [List.map_cons, List.map_cons, hproxies]
      · rw [List.map_cons, hresults]
        rfl

/-! ## The next exchange -/

/-- The handle that can be used again is the one that is found. -/
theorem Faithful.usable_iff
    {now lookup : Instant} {past : List (Visit κ χ)} {cache : Cache κ} {key : String}
    (hfaithful : Faithful now past cache) (hlookup : now ≤ lookup) (handle : κ) :
    Usable past key lookup handle ↔
      ∃ validUntil, cache.valid? key lookup = some ⟨handle, validUntil⟩ := by
  constructor
  · rintro ⟨validUntil, hvalid, hstanding⟩
    have hheld := (hfaithful.mono hlookup).held key _ hstanding hvalid
    exact ⟨validUntil, (Cache.valid?_eq_some_iff _ _ _ _).mpr ⟨hheld, hvalid⟩⟩
  · rintro ⟨validUntil, hfound⟩
    obtain ⟨hheld, hvalid⟩ := (Cache.valid?_eq_some_iff _ _ _ _).mp hfound
    exact ⟨validUntil, hvalid, hfaithful.acquired key _ hheld⟩

section

variable {now lookup : Instant} {past : List (Visit κ χ)} {cache after : Cache κ}
  {visit : Visit κ χ} {looks : Prop}

/-- A context is opened with a handle that is new or can be used again. -/
theorem Faithful.opened
    (hfaithful : Faithful now past cache) (huse : KeyUse looks lookup cache visit after)
    (hlookup : now ≤ lookup) (handle : κ) (target : ServicePrincipal)
    (opened : Except NegotiateError χ)
    (hmem : .initiated handle target opened ∈ visit.calls) :
    (∃ validUntil, .acquired (.ok ⟨handle, validUntil⟩) ∈ visit.calls) ∨
      Usable past visit.key lookup handle := by
  cases huse with
  | idle _ _ hopened => exact absurd hmem (hopened handle target opened)
  | reused kept _ _ hvalid _ hopened =>
      right
      obtain rfl := hopened handle target opened hmem
      exact (hfaithful.usable_iff hlookup kept.handle).mpr ⟨kept.validUntil, hvalid⟩
  | renewed answer _ _ _ hacquired hopened =>
      left
      obtain ⟨validUntil, hanswer⟩ := hopened handle target opened hmem
      exact ⟨validUntil, (hacquired _).mpr hanswer.symm⟩

/-- A handle is acquired just when one is looked for and none can be used again. -/
theorem Faithful.acquired_iff
    (hfaithful : Faithful now past cache) (huse : KeyUse looks lookup cache visit after)
    (hlookup : now ≤ lookup) :
    (∃ answer, .acquired answer ∈ visit.calls) ↔
      looks ∧ ¬ ∃ handle, Usable past visit.key lookup handle := by
  cases huse with
  | idle hlooks hacquired =>
      constructor
      · rintro ⟨answer, hmem⟩
        exact absurd hmem (hacquired answer)
      · rintro ⟨hlooked, _⟩
        exact absurd hlooked hlooks
  | reused kept _ _ hvalid hacquired =>
      constructor
      · rintro ⟨answer, hmem⟩
        exact absurd hmem (hacquired answer)
      · rintro ⟨_, hnone⟩
        refine absurd ⟨kept.handle, ?_⟩ hnone
        exact (hfaithful.usable_iff hlookup kept.handle).mpr ⟨kept.validUntil, hvalid⟩
  | renewed answer _ hlooks hvalid hacquired =>
      constructor
      · rintro _
        refine ⟨hlooks, ?_⟩
        rintro ⟨handle, husable⟩
        obtain ⟨validUntil, hfound⟩ := (hfaithful.usable_iff hlookup handle).mp husable
        cases hvalid.symm.trans hfound
      · rintro _
        exact ⟨answer, (hacquired answer).mpr rfl⟩

end

theorem Visit.not_rejects
    {visit : Visit κ χ}
    (hresult : ∀ failure, visit.result = .error failure →
      failure.kind ∈ [.protocolViolation, .negotiation, .transport]) :
    ¬ visit.Rejects := by
  rintro (⟨through, hrejected⟩ | ⟨⟨cause, hrejected⟩, _⟩)
  · have hkind := hresult _ hrejected
    simp [Failure.kind] at hkind
  · have hkind := hresult _ hrejected
    simp [Failure.kind] at hkind

/-- After every history, an exchange opens its context with a handle that it has acquired or that can
be used again, and acquires one just when none can be used again.  It removes no handle of another
proxy, and none that is valid unless it rejects the client. -/
theorem History.next_exchange
    {backend : Backend σ κ χ} {settings : Settings} {session : Session σ κ χ}
    {past : List (Visit κ χ)} (hclock : backend.Monotone)
    (hhistory : History backend settings session past) (outside : σ)
    (houtside : backend.now session.outside ≤ backend.now outside) (files : FileSystem)
    (proxy : Url) (request : Request)
    (hended :
      (session.resume outside).isCutOff backend settings files proxy request = false) :
    let exchange := (session.resume outside).authenticate backend settings files proxy request
    let looks := LooksUp backend settings files outside proxy request
    let lookup := backend.lookupTime proxy request outside
    ∃ calls,
      exchange.2.calls = session.calls ++ calls ∧
      (∀ handle target opened, .initiated handle target opened ∈ calls →
        (∃ validUntil, .acquired (.ok ⟨handle, validUntil⟩) ∈ calls) ∨
          Usable past proxy.proxyKey lookup handle) ∧
      ((∃ answer, .acquired answer ∈ calls) ↔
        looks ∧ ¬ ∃ handle, Usable past proxy.proxyKey lookup handle) ∧
      (∀ key kept, session.cache.get? key = some kept →
        (key ≠ proxy.proxyKey ∨
          ((looks → lookup < kept.validUntil) ∧
            ∀ failure, exchange.1 = .error failure →
              failure.kind ∈ [.protocolViolation, .negotiation, .transport])) →
        exchange.2.cache.get? key = some kept) := by
  obtain ⟨calls, hcalls, huse, _, _⟩ := Session.authenticate_keyUse hclock hended
  have hfaithful : Faithful (backend.now outside) past session.cache :=
    (hhistory.faithful hclock).mono houtside
  have hlookup := Session.now_le_lookupTime hclock proxy request outside
  refine ⟨calls, hcalls, hfaithful.opened huse hlookup, hfaithful.acquired_iff huse hlookup, ?_⟩
  intro key kept hkept hspared
  by_cases hkey : key = proxy.proxyKey
  · subst hkey
    obtain hother | ⟨hvalid, hharmless⟩ := hspared
    · exact absurd rfl hother
    · exact huse.get?_of_valid hkept hvalid (Visit.not_rejects hharmless)
  · exact (huse.get?_of_ne hkey).trans hkept

/-! ### Two exchanges with one proxy -/

namespace Rehearsal

/-- An exchange with a proxy that lets through every token. -/
def visiting (session : Session Stage Handle Context) (outside : Stage) :
    Except Failure Response × Session Stage Handle Context :=
  (session.resume outside).authenticate negotiating lenient noFiles proxyUrl (.of .get targetUrl)

def visited : Session Stage Handle Context := (visiting (.start .start) .start).2

def firstVisit : Visit Handle Context :=
  ⟨proxyUrl, visited.calls, (visiting (.start .start) .start).1⟩

theorem history_visited : History negotiating lenient visited [firstVisit] := by
  have hstart : History negotiating lenient (.start .start) [] := .start Stage.start
  have hended :
      ((Session.start Stage.start).resume .start).isCutOff negotiating lenient noFiles proxyUrl
        (.of .get targetUrl) = false := rfl
  exact hstart.visit .start (Int.le_refl _) noFiles proxyUrl (.of .get targetUrl) hended
    visited.calls rfl

/-- The second exchange keeps the handle of the first, and acquires none. -/
theorem next_exchange_visited :
    ∃ calls,
      (visiting visited visited.outside).2.calls = visited.calls ++ calls ∧
      (∀ answer, .acquired answer ∉ calls) ∧
      (visiting visited visited.outside).2.cache.get? proxyUrl.proxyKey =
        some ⟨⟨1, none⟩, farAhead⟩ := by
  have hclock : Backend.Monotone negotiating := backend_monotone _ _
  have hkept : visited.cache.get? proxyUrl.proxyKey = some ⟨⟨1, none⟩, farAhead⟩ := rfl
  have hended :
      (visited.resume visited.outside).isCutOff negotiating lenient noFiles proxyUrl
        (.of .get targetUrl) = false := rfl
  obtain ⟨calls, hcalls, _, hacquired, hspared⟩ :=
    history_visited.next_exchange hclock visited.outside (Int.le_refl _) noFiles proxyUrl
      (.of .get targetUrl) hended
  refine ⟨calls, hcalls, ?_, ?_⟩
  · intro answer hmem
    obtain ⟨_, hnone⟩ := hacquired.mp ⟨answer, hmem⟩
    have hlookup := Session.now_le_lookupTime hclock proxyUrl (.of .get targetUrl) visited.outside
    have hfaithful := history_visited.faithful hclock
    exact hnone ⟨_, (hfaithful.usable_iff hlookup ⟨1, none⟩).mpr ⟨farAhead, rfl⟩⟩
  · refine hspared _ _ hkept (.inr ⟨fun _ => by decide, ?_⟩)
    intro failure hfailure
    have hok :
        (visiting visited visited.outside).1 = .ok (negotiated (some ⟨[], rfl, false⟩)) := rfl
    cases hok.symm.trans hfailure

end Rehearsal
end ProxyHandshake
