import ProxyHandshake.Proofs.Cache
import ProxyHandshake.Proofs.Exchange.Clock

/-!
# What an exchange does with the handle kept for its proxy

An exchange uses the handle that is kept for its proxy, or gets a new one and keeps it, or never gets
that far.  If it ends with the client rejected, nothing is kept for the proxy.  What is kept for all
other proxies stays as it was.
-/

namespace ProxyHandshake

variable {σ κ χ : Type}

/-! ## Exchanges of the past -/

/-- Whether the library turns a handle down, as a context is opened with it or takes its first
step. -/
def Call.isRefusal : Call κ χ → Bool
  | .initiated _ _ (.error (.credential _)) => true
  | .stepped _ none (.error (.credential _)) => true
  | _ => false

/-- An exchange that is over. -/
structure Visit (κ χ : Type) where
  proxy : Url
  calls : List (Call κ χ)
  result : Except Failure Response

namespace Visit

def key (visit : Visit κ χ) : String := visit.proxy.proxyKey

/-- Whether the exchange ended with the client rejected, by the proxy or by the library. -/
def Rejects (visit : Visit κ χ) : Prop :=
  (∃ proxy, visit.result = .error (.authenticationFailed proxy)) ∨
    ((∃ cause, visit.result = .error (.credential cause)) ∧
      ∃ call ∈ visit.calls, call.isRefusal = true)

end Visit

/-! ## The slot of a proxy -/

section

variable (backend : Backend σ κ χ) (credentials : Credentials)
  {key : String} {cache : Cache κ} {outside : σ}

theorem Backend.slot_of_valid
    {kept : Kept κ} (hvalid : cache.valid? key (backend.now outside) = some kept) :
    backend.slot credentials key cache outside = (.ok kept.handle, cache) ∧
      backend.acquisition credentials key cache outside = [] := by
  constructor
  · exact Cache.getOrAcquire_of_valid hvalid _
  · simp only [acquisition, Cache.lookup_of_valid hvalid]

theorem Backend.slot_of_invalid
    (hvalid : cache.valid? key (backend.now outside) = none) :
    let answer := (backend.library.acquire credentials outside).1
    (backend.slot credentials key cache outside).1 = answer.map Acquired.handle ∧
      backend.acquisition credentials key cache outside = [.acquired answer] ∧
      ∀ other, (backend.slot credentials key cache outside).2.get? other =
        if other = key then answer.toOption.bind (·.kept? (backend.now outside))
        else cache.get? other := by
  obtain ⟨hfound, _⟩ := Cache.lookup_of_invalid hvalid
  obtain ⟨hanswer, hafter⟩ := Cache.getOrAcquire_of_invalid hvalid fun () =>
    (backend.library.acquire credentials outside).1
  refine ⟨hanswer, ?_, hafter⟩
  simp only [acquisition, hfound]

end

theorem Cache.get?_afterUse
    (cache : Cache κ) (key : String) (rejected : Bool) (other : String) :
    (cache.afterUse key rejected).get? other =
      if other = key then if rejected then none else cache.get? key else cache.get? other := by
  cases rejected with
  | true =>
      simp only [afterUse, if_true]
      exact get?_forget cache key other
  | false =>
      by_cases hother : other = key
      · simp [afterUse, hother]
      · simp [afterUse, hother]

/-! ## What one exchange does -/

/-- Whether an exchange gets as far as looking for a handle. -/
def LooksUp (backend : Backend σ κ χ) (settings : Settings) (files : FileSystem) (outside : σ)
    (proxy : Url) (request : Request) : Prop :=
  ∃ response target, Challenged backend settings files outside proxy request response target

/-- The ways in which an exchange treats the handle that is kept for its proxy; `looks` says whether
it looks for one, which it does at the moment `now`. -/
inductive KeyUse (looks : Prop) (now : Instant) (cache : Cache κ) (visit : Visit κ χ)
    (after : Cache κ) : Prop
  | idle (hlooks : ¬ looks)
      (hacquired : ∀ answer, .acquired answer ∉ visit.calls)
      (hopened : ∀ handle target opened, .initiated handle target opened ∉ visit.calls)
      (hkeeps : ¬ visit.Rejects) (hafter : after = cache)
  | reused (kept : Kept κ) (rejected : Bool) (hlooks : looks)
      (hvalid : cache.valid? visit.key now = some kept)
      (hacquired : ∀ answer, .acquired answer ∉ visit.calls)
      (hopened : ∀ handle target opened,
        .initiated handle target opened ∈ visit.calls → handle = kept.handle)
      (hrejected : rejected = true ↔ visit.Rejects)
      (hafter : ∀ other, after.get? other =
        if other = visit.key then if rejected then none else cache.get? visit.key
        else cache.get? other)
  | renewed (answer : Except NegotiateError (Acquired κ)) (rejected : Bool) (hlooks : looks)
      (hvalid : cache.valid? visit.key now = none)
      (hacquired : ∀ other, .acquired other ∈ visit.calls ↔ other = answer)
      (hopened : ∀ handle target opened,
        .initiated handle target opened ∈ visit.calls →
          ∃ validUntil, answer = .ok ⟨handle, validUntil⟩)
      (hrejected : rejected = true ↔ visit.Rejects)
      (hafter : ∀ other, after.get? other =
        if other = visit.key then
          if rejected then none else answer.toOption.bind (·.kept? now)
        else cache.get? other)

section

variable {backend : Backend σ κ χ} {settings : Settings} {files : FileSystem} {outside : σ}
  {cache cacheAfter : Cache κ} {proxy : Url} {request : Request} {target : ServicePrincipal}
  {handle : κ} {calls : List (Call κ χ)} {counted : List Counter}
  {result : Except Failure Response} {rejected isStrict : Bool}

theorem Session.Opening.isRefusal_eq_false
    {opened : χ × Step} (hopening : Session.Opening handle target (.ok opened) calls) :
    ∀ call ∈ calls, call.isRefusal = false := by
  intro call hcall
  cases hopening
  rcases List.mem_cons.mp hcall with rfl | hcall
  · rfl
  · rw [List.mem_singleton.mp hcall]
    rfl

theorem Session.Opening.handle_eq
    {answer : Except NegotiateError (χ × Step)} {other : κ} {principal : ServicePrincipal}
    {opened : Except NegotiateError χ}
    (hopening : Session.Opening handle target answer calls)
    (hmem : .initiated other principal opened ∈ calls) :
    other = handle := by
  cases hopening with
  | unopened | unstarted | started =>
      simp only [List.mem_cons, Call.initiated.injEq, List.not_mem_nil, reduceCtorEq,
        or_false] at hmem
      exact hmem.1

theorem Session.Opening.acquired_notMem
    {answer : Except NegotiateError (χ × Step)}
    (hopening : Session.Opening handle target answer calls)
    (acquired : Except NegotiateError (Acquired κ)) :
    .acquired acquired ∉ calls := by
  cases hopening <;> simp

theorem Verdict.isRefusal_eq_false
    {context : χ} {response : Response}
    (hverdict : Verdict isStrict proxy context response calls result rejected) :
    ∀ call ∈ calls, call.isRefusal = false := by
  intro call hcall
  cases hverdict with
  | checked answer =>
      rw [List.mem_singleton.mp hcall]
      rfl
  | _ => cases hcall

theorem HandleUse.opened_eq
    (huse : HandleUse isStrict proxy request target handle calls counted result rejected)
    (other : κ) (principal : ServicePrincipal) (opened : Except NegotiateError χ)
    (hmem : .initiated other principal opened ∈ calls) :
    other = handle := by
  cases huse with
  | unopened hopening => exact hopening.handle_eq hmem
  | tokenless hopening | unsendable hopening | unanswered hopening =>
      exact hopening.handle_eq (by simpa using hmem)
  | @answered _ _ _ _ _ sooner _ _ _ hopening _ _ hverdict =>
      have hsooner : .initiated other principal opened ∈ sooner := by
        cases hverdict <;> simpa using hmem
      exact hopening.handle_eq hsooner

theorem HandleUse.acquired_notMem
    (huse : HandleUse isStrict proxy request target handle calls counted result rejected)
    (answer : Except NegotiateError (Acquired κ)) :
    .acquired answer ∉ calls := by
  cases huse with
  | unopened hopening => exact hopening.acquired_notMem answer
  | tokenless hopening | unsendable hopening | unanswered hopening =>
      simp [hopening.acquired_notMem]
  | answered hopening _ _ hverdict => cases hverdict <;> simp [hopening.acquired_notMem]

/-- The handle is forgotten just when the exchange rejects the client. -/
theorem HandleUse.rejected_iff
    (huse : HandleUse isStrict proxy request target handle calls counted result rejected) :
    rejected = true ↔
      (∃ through, result = .error (.authenticationFailed through)) ∨
        ((∃ cause, result = .error (.credential cause)) ∧
          ∃ call ∈ calls, call.isRefusal = true) := by
  cases huse with
  | @unopened e _ hopening =>
      cases e with
      | credential cause =>
          refine ⟨fun _ => .inr ⟨⟨cause, rfl⟩, ?_⟩, fun _ => rfl⟩
          cases hopening with
          | unopened => exact ⟨_, List.mem_cons_self, rfl⟩
          | unstarted => exact ⟨_, List.mem_cons_of_mem _ List.mem_cons_self, rfl⟩
      | negotiation | invalidToken | invalidPrincipal =>
          simp [NegotiateError.isCredential, Failure.ofNegotiate]
  | tokenless | unsendable | unanswered => simp
  | @answered context _ _ header response sooner later _ _ hopening _ _ hverdict =>
      -- The context was opened and has taken its first step, so nothing turned the handle down.
      have hcalls :
          ¬ ∃ call ∈ sooner ++ .sent proxy request (some header) (.ok response) ::
            (later ++ [.closed context]), call.isRefusal = true := by
        rintro ⟨call, hmem, hrefusal⟩
        simp only [List.mem_append, List.mem_cons, List.not_mem_nil, or_false] at hmem
        rcases hmem with hsooner | rfl | hlater | rfl
        · simp [hopening.isRefusal_eq_false call hsooner] at hrefusal
        · cases hrefusal
        · simp [hverdict.isRefusal_eq_false call hlater] at hrefusal
        · cases hrefusal
      simp only [hcalls, and_false, or_false]
      cases hverdict with
      | rejected => simp
      | checked answer =>
          rcases answer with e | ⟨_ | token⟩ | token
          · cases e <;> simp [Response.judged, Failure.ofNegotiate]
          · simp [Response.judged]
          · simp [Response.judged]
          · simp [Response.judged]
      | secondLeg | unreadable | unproved | trusted => simp

/-- Every exchange treats the handle that is kept for its proxy in one of the ways of `KeyUse`, and
looks for it when its first request has been answered. -/
theorem Course.keyUse
    (hcourse :
      Course backend settings files outside cache proxy request
        calls counted result cacheAfter) :
    KeyUse (LooksUp backend settings files outside proxy request)
      (backend.now (backend.opening proxy request outside).2) cache ⟨proxy, calls, result⟩
      cacheAfter := by
  cases hcourse with
  | invalidProxy hproxy =>
      refine .idle ?_ (by simp) (by simp) (by simp [Visit.Rejects]) rfl
      rintro ⟨response, target, hchallenged⟩
      cases hproxy.symm.trans hchallenged.validProxy
  | invalidRequest hrequest =>
      refine .idle ?_ (by simp) (by simp) (by simp [Visit.Rejects]) rfl
      rintro ⟨response, target, hchallenged⟩
      cases hrequest.symm.trans hchallenged.validRequest
  | unsent _ _ hanswer =>
      refine .idle ?_ (by simp) (by simp) (by simp [Visit.Rejects]) rfl
      rintro ⟨response, target, hchallenged⟩
      cases hanswer.symm.trans hchallenged.answered
  | unchallenged _ _ hanswer hasks =>
      refine .idle ?_ (by simp) (by simp) (by simp [Visit.Rejects]) rfl
      rintro ⟨response, target, hchallenged⟩
      obtain rfl := Except.ok.inj (hanswer.symm.trans hchallenged.answered)
      cases hasks.symm.trans hchallenged.asked
  | unusable _ _ _ _ hcredentials =>
      refine .idle ?_ (by simp) (by simp) (by simp [Visit.Rejects, Call.isRefusal]) rfl
      rintro ⟨response, target, hchallenged⟩
      cases hcredentials.symm.trans hchallenged.usable
  | nameless _ _ _ _ hprincipal =>
      refine .idle ?_ (by simp) (by simp) (by simp [Visit.Rejects]) rfl
      rintro ⟨response, target, hchallenged⟩
      cases hprincipal.symm.trans hchallenged.named
  | @unacquired response target e later hlater hchallenged hslot =>
      subst hlater
      have hlooks : LooksUp backend settings files outside proxy request :=
        ⟨response, target, hchallenged⟩
      cases hvalid : cache.valid? proxy.proxyKey
          (backend.now (backend.opening proxy request outside).2) with
      | some kept =>
          rw [(backend.slot_of_valid settings.credentials hvalid).1] at hslot
          cases hslot
      | none =>
          obtain ⟨_, hacquisition, hafter⟩ :=
            backend.slot_of_invalid settings.credentials hvalid
          rw [hacquisition]
          refine .renewed _ false hlooks hvalid (by simp) (by simp) ?_ hafter
          cases e <;> simp [Visit.Rejects, Call.isRefusal, Failure.ofNegotiate]
  | @used response target handle use _ _ rejected later hlater hchallenged hslot huse =>
      subst hlater
      have hlooks : LooksUp backend settings files outside proxy request :=
        ⟨response, target, hchallenged⟩
      have hopened := huse.opened_eq
      have hacquired := huse.acquired_notMem
      have hrejected := huse.rejected_iff
      cases hvalid : cache.valid? proxy.proxyKey
          (backend.now (backend.opening proxy request outside).2) with
      | some kept =>
          obtain ⟨hkept, hacquisition⟩ := backend.slot_of_valid settings.credentials hvalid
          rw [hkept] at hslot ⊢
          obtain rfl : kept.handle = handle := Except.ok.inj hslot
          rw [hacquisition]
          refine .reused kept rejected hlooks hvalid (by simp [hacquired]) ?_ ?_
            (cache.get?_afterUse _ rejected)
          · intro other principal opened hmem
            exact hopened other principal opened (by simpa using hmem)
          · simpa [Visit.Rejects, Call.isRefusal] using hrejected
      | none =>
          obtain ⟨hanswer, hacquisition, hafter⟩ :=
            backend.slot_of_invalid settings.credentials hvalid
          rw [hslot] at hanswer
          rw [hacquisition]
          generalize (backend.library.acquire settings.credentials
            (backend.opening proxy request outside).2).1 = answer at hanswer hafter ⊢
          refine .renewed answer rejected hlooks hvalid (by simp [hacquired]) ?_ ?_ ?_
          · intro other principal opened hmem
            obtain rfl := hopened other principal opened (by simpa using hmem)
            cases answer with
            | error e => cases hanswer
            | ok acquired =>
                obtain rfl := Except.ok.inj hanswer
                exact ⟨acquired.validUntil, rfl⟩
          · simpa [Visit.Rejects, Call.isRefusal] using hrejected
          · intro other
            rw [Cache.get?_afterUse, hafter, hafter]
            by_cases hother : other = proxy.proxyKey
            · simp [hother, Visit.key]
            · simp [hother, Visit.key]

end

/-! ## What is kept afterwards -/

namespace KeyUse

variable {looks : Prop} {now : Instant} {cache after : Cache κ} {visit : Visit κ χ}
  {key : String} {kept : Kept κ}

theorem get?_of_ne
    (huse : KeyUse looks now cache visit after) (hkey : key ≠ visit.key) :
    after.get? key = cache.get? key := by
  cases huse with
  | idle _ _ _ _ hafter => rw [hafter]
  | reused _ _ _ _ _ _ _ hafter => rw [hafter, if_neg hkey]
  | renewed _ _ _ _ _ _ _ hafter => rw [hafter, if_neg hkey]

/-- What is valid when it is looked for stays, unless the client is rejected. -/
theorem get?_of_valid
    (huse : KeyUse looks now cache visit after) (hkept : cache.get? visit.key = some kept)
    (hvalid : looks → now < kept.validUntil) (hkeeps : ¬ visit.Rejects) :
    after.get? visit.key = some kept := by
  cases huse with
  | idle _ _ _ _ hafter =>
      rw [hafter]
      exact hkept
  | reused _ rejected _ _ _ _ hrejected hafter =>
      have hnot : rejected = false := by simpa [hkeeps] using hrejected
      rw [hafter]
      simp [hnot, hkept]
  | renewed _ _ hlooks hnone =>
      -- What is valid would have been found.
      have hfound : cache.valid? visit.key now = some kept :=
        (Cache.valid?_eq_some_iff _ _ _ _).mpr ⟨hkept, hvalid hlooks⟩
      cases hnone.symm.trans hfound

/-- What is acquired is kept while it is valid, unless the client is rejected. -/
theorem get?_of_acquired
    (huse : KeyUse looks now cache visit after)
    (hacquired : .acquired (.ok ⟨kept.handle, some kept.validUntil⟩) ∈ visit.calls)
    (hvalid : looks → now < kept.validUntil) (hkeeps : ¬ visit.Rejects) :
    after.get? visit.key = some kept := by
  cases huse with
  | idle _ hnone => exact absurd hacquired (hnone _)
  | reused _ _ _ _ hnone => exact absurd hacquired (hnone _)
  | renewed answer rejected hlooks _ hanswer _ hrejected hafter =>
      have hnot : rejected = false := by simpa [hkeeps] using hrejected
      have hnew : Acquired.kept? ⟨kept.handle, some kept.validUntil⟩ now = some kept :=
        (Acquired.kept?_eq_some_iff _ now kept).mpr ⟨rfl, hvalid hlooks⟩
      rw [hafter, ← (hanswer _).mp hacquired]
      simp [hnot, Except.toOption, hnew]

/-- What is kept was kept before or has been acquired, by an exchange that does not reject the
client. -/
theorem of_get?_eq_some
    (huse : KeyUse looks now cache visit after) (hkept : after.get? visit.key = some kept) :
    ¬ visit.Rejects ∧
      (cache.get? visit.key = some kept ∨
        .acquired (.ok ⟨kept.handle, some kept.validUntil⟩) ∈ visit.calls) := by
  cases huse with
  | idle _ _ _ hkeeps hafter =>
      rw [hafter] at hkept
      exact ⟨hkeeps, .inl hkept⟩
  | reused _ rejected _ _ _ _ hrejected hafter =>
      rw [hafter, if_pos rfl] at hkept
      cases rejected with
      | true => cases hkept
      | false =>
          have hkeeps : ¬ visit.Rejects := by simpa using hrejected
          exact ⟨hkeeps, .inl hkept⟩
  | renewed answer rejected _ _ hanswer _ hrejected hafter =>
      rw [hafter, if_pos rfl] at hkept
      cases rejected with
      | true => cases hkept
      | false =>
          have hkeeps : ¬ visit.Rejects := by simpa using hrejected
          refine ⟨hkeeps, .inr ((hanswer _).mpr ?_)⟩
          cases answer with
          | error e => cases hkept
          | ok acquired => rw [((acquired.kept?_eq_some_iff now kept).mp hkept).1]

end KeyUse
end ProxyHandshake
