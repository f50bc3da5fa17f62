import ProxyHandshake.Proofs.Exchange.Slot

/-!
# Handles that are rejected

An exchange has the handle for its proxy forgotten only when the handle that it got itself was rejected,
by the library or by the proxy.  But it does not say which handle that was.  What is forgotten is the
one that is kept at this moment, which may be another one that was acquired in the meantime.  So a valid
handle is kept if it was stored after everyone had forgotten, and only then.
-/

namespace ProxyHandshake

variable {σ κ χ α : Type}

/-! ## Rejected handles -/

/-- A handle that was got for a proxy, from those that are kept or from the library. -/
inductive Obtained (key : String) (past : List (Told κ χ)) (handle : κ) : Prop
  | found (now : Instant) (hfound : ⟨.lookup key, (now, some handle)⟩ ∈ past)
  | acquired (credentials : Credentials) (validUntil : Option Instant)
      (hacquired : ⟨.acquire credentials, .ok ⟨handle, validUntil⟩⟩ ∈ past)

/-- A handle that was got for a proxy, and then rejected. -/
inductive Rejected (proxy : Url) (past : List (Told κ χ)) (handle : κ) : Prop
  /-- The library has no use for it. -/
  | byLibrary (hobtained : Obtained proxy.proxyKey past handle) (target : ServicePrincipal)
      (cause : CredentialError)
      (hrejected : ⟨.initiate handle target, .error (.credential cause)⟩ ∈ past)
  /-- The proxy refuses the first token of a context that was opened with it. -/
  | byProxy (hobtained : Obtained proxy.proxyKey past handle) (target : ServicePrincipal)
      (context : χ) (first : Step) (hopened : ⟨.initiate handle target, .ok (context, first)⟩ ∈ past)
      (token : Token) (header : HeaderValue) (htoken : first.token? = some token)
      (hheader : token.header = .ok header) (request : Request) (response : Response)
      (hrejected : ⟨.send proxy request (some header), .ok response⟩ ∈ past)
      (hrequired : response.isAuthRequired = true)

theorem Served.obtained
    {key : String} {credentials : Credentials} {told : List (Told κ χ)} {handle : κ}
    (hserved : Served key credentials told (.ok handle)) : Obtained key told handle := by
  cases hserved with
  | kept now => exact .found now (by simp)
  | acquired now acquired => exact .acquired credentials acquired.validUntil (by simp)

section

variable {past : List (Told κ χ)}

theorem Obtained.of_subset
    {key : String} {handle : κ} (hobtained : Obtained key past handle) {later : List (Told κ χ)}
    (hlater : past ⊆ later) : Obtained key later handle := by
  cases hobtained with
  | found now hfound => exact .found now (hlater hfound)
  | acquired credentials validUntil hacquired =>
      exact .acquired credentials validUntil (hlater hacquired)

theorem Rejected.of_subset
    {proxy : Url} {handle : κ} (hrejected : Rejected proxy past handle) {later : List (Told κ χ)}
    (hlater : past ⊆ later) : Rejected proxy later handle := by
  cases hrejected with
  | byLibrary hobtained target cause hrejected =>
      exact .byLibrary (hobtained.of_subset hlater) target cause (hlater hrejected)
  | byProxy hobtained target context first hopened token header htoken hheader request response
      hrejected hrequired =>
      exact .byProxy (hobtained.of_subset hlater) target context first (hlater hopened) token header
        htoken hheader request response (hlater hrejected) hrequired

end

/-- Whether a demand is in order for whoever tends the slot of `proxy`, and has its handle forgotten only
if his own was rejected. -/
def Minds (proxy : Url) (past : List (Told κ χ)) (demand : Demand κ χ) : Prop :=
  Tends proxy.proxyKey past demand ∧
    (demand.isForgetting = true → ∃ handle, Rejected proxy past handle)

theorem Minds.of_tends
    {proxy : Url} {past : List (Told κ χ)} {demand : Demand κ χ}
    (htends : Tends proxy.proxyKey past demand) (hforgetting : demand.isForgetting = false) :
    Minds proxy past demand := by
  refine ⟨htends, fun hforgets => ?_⟩
  rw [hforgetting] at hforgets
  cases hforgets

/-! ## The program of an exchange -/

namespace Exchange

section

variable {proxy : Url} {past : List (Told κ χ)}

theorem obeys_verifyProxy (isStrict : Bool) (context : χ) (response : Response) :
    (verifyProxy isStrict context response : Exchange κ χ (Except Failure Response)).Obeys
      (Minds proxy) (fun _ _ => True) past := by
  unfold verifyProxy
  split
  · exact .done _ trivial
  · cases isStrict with
    | true => exact .done _ trivial
    | false => exact .done _ trivial
  · next token _ =>
    refine .ask (.step context token) (.of_tends trivial rfl) fun answer => ?_
    rcases answer with e | ⟨_ | token⟩ | token
    all_goals exact .done _ trivial

variable (hpast : Grip.of past = .away)

include hpast

theorem obeys_rejection
    {handle : κ} (hrejected : Rejected proxy past handle) (failure : Failure) :
    (do
      forgetHandle proxy.proxyKey
      return .error failure : Exchange κ χ (Except Failure Response)).Obeys
        (Minds proxy) (fun _ _ => True) past := by
  refine (obeys_forgetHandle (fun _ _ => Minds.of_tends) hpast ?_).bind fun _ _ _ => .done _ trivial
  refine ⟨⟨rfl, by simp [Grip.after]⟩, fun _ => ⟨handle, hrejected.of_subset ?_⟩⟩
  exact List.subset_append_left _ _

theorem obeys_refused
    {handle : κ} (hrejected : Rejected proxy past handle) (progress : Progress)
    (response : Response) :
    (refused proxy progress response : Exchange κ χ (Except Failure Response)).Obeys
      (Minds proxy) (fun _ _ => True) past := by
  unfold refused
  split
  · exact .done _ trivial
  · exact obeys_rejection hpast hrejected _

theorem obeys_resend
    {handle : κ} (hobtained : Obtained proxy.proxyKey past handle) {target : ServicePrincipal}
    {context : χ} {first : Step} (hopened : ⟨.initiate handle target, .ok (context, first)⟩ ∈ past)
    (isStrict : Bool) (request : Request) (progress : Progress) :
    (resend isStrict proxy request progress context first :
      Exchange κ χ (Except Failure Response)).Obeys (Minds proxy) (fun _ _ => True) past := by
  unfold resend
  split
  · exact .done _ trivial
  · next token htoken =>
    split
    · exact .done _ trivial
    · next header hheader =>
      refine .ask (.count .retry) (.of_tends trivial rfl) fun _ => ?_
      refine .ask (.send proxy request (some header)) (.of_tends trivial rfl) fun answer => ?_
      cases answer with
      | error cause => exact .done _ trivial
      | ok response =>
          change Obeys _ _ _
            (if response.isAuthRequired then refused proxy progress.beginRetry response
            else verifyProxy isStrict context response)
          split
          · next hrequired =>
            have hrejected :
                Rejected proxy
                  (past ++ [⟨.count .retry, ()⟩] ++
                    [⟨.send proxy request (some header), .ok response⟩]) handle := by
              refine .byProxy (hobtained.of_subset ?_) target context first ?_ token header htoken
                hheader request response ?_ hrequired
              · rw [List.append_assoc]
                exact List.subset_append_left _ _
              · simp [hopened]
              · exact List.mem_append_right _ List.mem_cons_self
            exact obeys_refused (by simpa [Grip.after] using hpast) hrejected _ _
          · exact obeys_verifyProxy isStrict context response

theorem obeys_negotiate
    (settings : Settings) (request : Request) (progress : Progress) (target : ServicePrincipal) :
    (negotiate settings proxy request progress target : Exchange κ χ (Except Failure Response)).Obeys
      (Minds proxy) (fun _ _ => True) past := by
  unfold negotiate
  refine (obeys_handleFor (fun _ _ => Minds.of_tends) hpast settings.credentials).bind ?_
  rintro later result ⟨hlater, told, rfl, hserved⟩
  cases result with
  | error e => exact .done _ trivial
  | ok handle =>
      have hobtained (last : List (Told κ χ)) :
          Obtained proxy.proxyKey (past ++ told ++ last) handle := by
        refine hserved.obtained.of_subset ?_
        rw [List.append_assoc]
        exact List.subset_append_of_subset_right _ (List.subset_append_left _ _)
      refine .ask (.initiate handle target) (.of_tends trivial rfl) fun answer => ?_
      have haway : Grip.of (past ++ told ++ [⟨.initiate handle target, answer⟩]) = .away := by
        rw [Grip.of_append, hlater]
        rfl
      rcases answer with e | ⟨context, first⟩
      · cases e with
        | credential cause =>
            exact obeys_rejection haway (.byLibrary (hobtained _) target cause (by simp)) _
        | negotiation | invalidToken | invalidPrincipal => exact .done _ trivial
      · have hopened :
            ⟨.initiate handle target, .ok (context, first)⟩ ∈
              past ++ told ++ [⟨.initiate handle target, .ok (context, first)⟩] :=
          List.mem_append_right _ List.mem_cons_self
        refine (obeys_resend haway (hobtained _) hopened settings.isStrict request progress).bind ?_
        intro _ result _
        exact .ask (.close context) (.of_tends trivial rfl) fun _ => .done _ trivial

theorem obeys_inTurn
    {body : Exchange κ χ α}
    (hbody : ∀ later, Grip.of later = .away → body.Obeys (Minds proxy) (fun _ _ => True) later)
    (isReentrant : Bool) :
    (inTurn isReentrant proxy body).Obeys (Minds proxy) (fun _ _ => True) past := by
  cases isReentrant with
  | true => exact hbody past hpast
  | false =>
      refine .ask (.take (.turn proxy.proxyKey)) (.of_tends trivial rfl) fun _ => ?_
      refine (hbody _ (by simpa [Grip.after] using hpast)).bind fun _ a _ => ?_
      exact .ask (.release (.turn proxy.proxyKey)) (.of_tends trivial rfl) fun _ => .done a trivial

theorem obeys_challenged
    (settings : Settings) (files : FileSystem) (isReentrant : Bool) (request : Request)
    (progress : Progress) :
    (challenged settings files isReentrant proxy request progress :
      Exchange κ χ (Except Failure Response)).Obeys (Minds proxy) (fun _ _ => True) past := by
  unfold challenged
  refine .ask (.count .challenge) (.of_tends trivial rfl) fun _ => ?_
  split
  · exact .done _ trivial
  · split
    · exact .done _ trivial
    · next target _ =>
      refine obeys_inTurn (by simpa [Grip.after] using hpast) (fun later hlater => ?_) isReentrant
      exact obeys_negotiate hlater settings request progress target

end

/-- An exchange has a handle forgotten only if its own was rejected. -/
theorem obeys_handshake
    (settings : Settings) (files : FileSystem) (isReentrant : Bool) (proxy : Url)
    (request : Request) :
    (handshake settings files isReentrant proxy request :
      Exchange κ χ (Except Failure Response)).Obeys (Minds proxy) (fun _ _ => True) [] := by
  unfold handshake
  split
  · exact .done _ trivial
  · split
    · exact .done _ trivial
    · unfold converse
      refine .ask (.send proxy request.stripped none) (.of_tends trivial rfl) fun answer => ?_
      cases answer with
      | error cause => exact .done _ trivial
      | ok response =>
          change Obeys _ _ _
            (if Progress.asksToNegotiate response then
              challenged settings files isReentrant proxy request.stripped
                (Progress.start.observe response)
            else return .ok response)
          split
          · exact obeys_challenged rfl settings files isReentrant request.stripped _
          · exact .done _ trivial

end Exchange

/-! ## Exchanges at the same time -/

namespace System

/-- The key of the proxy of each exchange. -/
def keyOf (requests : List (Url × Request)) (i : Nat) : String :=
  (requests[i]?.map fun (proxy, _) => proxy.proxyKey).getD ""

theorem tended_opening
    (backend : Backend σ κ χ) (settings : Settings) (files : FileSystem) (session : Session σ κ χ)
    (requests : List (Url × Request)) :
    (opening backend settings files session requests).Tended backend (keyOf requests) [] := by
  refine tended_of_start fun i task htask => ?_
  obtain ⟨proxy, request, hrequest, rfl⟩ := getElem?_opening htask
  refine ⟨_, _, rfl, ?_⟩
  have hkey : keyOf requests i = proxy.proxyKey := by rw [keyOf, hrequest]; rfl
  rw [hkey]
  exact (Exchange.obeys_handshake settings files _ proxy request).mono (fun _ _ hminds => hminds.1)
    fun _ _ _ => trivial

theorem obey_opening
    (backend : Backend σ κ χ) (settings : Settings) (files : FileSystem) (session : Session σ κ χ)
    (requests : List (Url × Request)) :
    (opening backend settings files session requests).Obey
      (fun i past demand => ∃ proxy request, requests[i]? = some (proxy, request) ∧
        Minds proxy past demand)
      (fun _ _ _ => True) [] := by
  intro i task rest htask hrest
  obtain ⟨proxy, request, hrequest, rfl⟩ := getElem?_opening htask
  cases hrest
  exact (Exchange.obeys_handshake settings files _ proxy request).mono
    (fun _ _ hminds => ⟨proxy, request, hrequest, hminds⟩) fun _ _ _ => trivial

/-- Who has a handle forgotten is an exchange through the proxy for which it is kept, and the handle that
it got itself was rejected.  A valid handle is kept exactly if it was stored and nobody had the handle
for the proxy forgotten after that, whichever of them it was that was rejected. -/
theorem kept_iff_unforgotten
    (backend : Backend σ κ χ) (hclock : backend.Monotone) (settings : Settings) (files : FileSystem)
    (outside : σ) (requests : List (Url × Request)) (events : List (Nat × Told κ χ))
    (system : System σ κ χ (Except Failure Response))
    (hruns : (opening backend settings files (.start outside) requests).Runs backend events system) :
    (∀ (before later : List (Nat × Told κ χ)) (event : Nat × Told κ χ) (key : String),
      events = before ++ event :: later → event.2.demand = .forget key →
      ∃ proxy request handle, requests[event.1]? = some (proxy, request) ∧ proxy.proxyKey = key ∧
        Rejected proxy (own event.1 before) handle) ∧
    ∀ (key : String) (kept : Kept κ), backend.now system.session.outside < kept.validUntil →
      (system.session.cache.get? key = some kept ↔ Unforgotten key kept events) := by
  have hfirst := tended_opening backend settings files (.start outside) requests
  refine ⟨?_, fun key kept hvalid => ⟨?_, ?_⟩⟩
  · rintro before later ⟨i, told⟩ key hevents hforget
    rw [hevents] at hruns
    obtain ⟨middle, clock, task, next, after, hsooner, htask, hchange, _⟩ := hruns.split
    obtain ⟨rest, hrest, _⟩ := hchange.of_told
    have hobey := hsooner.obey (obey_opening backend settings files (.start outside) requests)
    obtain ⟨⟨proxy, request, hrequest, hminds⟩, _⟩ := (hobey i task _ htask hrest).of_ask
    rw [hforget] at hminds
    obtain ⟨⟨hkey, _⟩, hrejected⟩ := hminds
    obtain ⟨handle, hhandle⟩ := hrejected rfl
    exact ⟨proxy, request, handle, hrequest, hkey.symm, hhandle⟩
  · exact hruns.unforgotten hclock hfirst rfl
  · exact fun hunforgotten => hruns.get?_of_unforgotten hclock hfirst hunforgotten hvalid

end System

/-! ### Three exchanges -/

namespace Rehearsal

/-- The library serves several negotiations at once, and the proxy refuses every request. -/
def refusing : Backend Stage Handle Context :=
  backend ⟨true, [], []⟩ (.answers (.replicate 5 (.ok (negotiated none), ⟨0⟩)))

def threeExchanges : System Stage Handle Context (Except Failure Response) :=
  .opening refusing lenient noFiles (.start .start)
    [(proxyUrl, .of .get targetUrl), (proxyUrl, .of .get targetUrl), (proxyUrl, .of .get targetUrl)]

/-- An exchange sends its request, is refused, and looks for a handle. -/
def looking (i : Nat) : List (Nat × Move) :=
  [(i, .proceed), (i, .deliver), (i, .proceed), (i, .proceed), (i, .proceed)]

/-- It acquires a handle, stores it, and gives the lock back. -/
def acquiring (i : Nat) : List (Nat × Move) :=
  [(i, .proceed), (i, .deliver), (i, .proceed), (i, .proceed)]

/-- It opens a context, sends its request again, is refused, and has the handle forgotten. -/
def failing (i : Nat) : List (Nat × Move) :=
  [(i, .proceed), (i, .deliver), (i, .proceed), (i, .proceed), (i, .deliver), (i, .proceed),
    (i, .proceed), (i, .proceed)]

/-- The first two exchanges get the same handle.  When the first was rejected, the third acquires
another handle, and then the second is rejected. -/
def overtaken : List (Nat × Move) :=
  looking 0 ++ acquiring 0 ++ looking 1 ++ [(1, .proceed)] ++ failing 0 ++ looking 2 ++ acquiring 2 ++
    failing 1

theorem kept_iff_unforgotten_overtaken :
    (2, ⟨.store proxyUrl.proxyKey 1 ⟨⟨2, none⟩, some (1 + farAhead)⟩, ()⟩) ∈
        threeExchanges.chronicle refusing overtaken ∧
      refusing.now (threeExchanges.follow refusing overtaken).session.outside < 1 + farAhead ∧
      (∃ before later,
        threeExchanges.chronicle refusing overtaken =
          before ++ (1, ⟨.forget proxyUrl.proxyKey, ()⟩) :: later ∧
        ∃ handle, Rejected proxyUrl (own 1 before) handle) ∧
      ¬ System.Unforgotten proxyUrl.proxyKey ⟨⟨2, none⟩, 1 + farAhead⟩
        (threeExchanges.chronicle refusing overtaken) := by
  have hruns : threeExchanges.Runs refusing _ _ := System.Runs.refl.follow overtaken
  obtain ⟨hforgets, hkept⟩ :=
    System.kept_iff_unforgotten refusing (backend_monotone _ _) lenient noFiles .start _ _ _ hruns
  have hvalid :
      refusing.now (threeExchanges.follow refusing overtaken).session.outside < 1 + farAhead := by
    decide
  have hforgotten :
      (1, ⟨.forget proxyUrl.proxyKey, ()⟩) ∈ threeExchanges.chronicle refusing overtaken :=
    List.mem_of_getElem? (i := 29) rfl
  refine ⟨List.mem_of_getElem? (i := 23) rfl, hvalid, ?_, ?_⟩
  · obtain ⟨before, later, hevents⟩ := List.append_of_mem hforgotten
    obtain ⟨proxy, request, handle, hrequest, _, hrejected⟩ :=
      hforgets before later _ proxyUrl.proxyKey hevents rfl
    cases hrequest
    exact ⟨before, later, hevents, handle, hrejected⟩
  · intro hunforgotten
    have hfound := (hkept proxyUrl.proxyKey ⟨⟨2, none⟩, 1 + farAhead⟩ hvalid).mpr hunforgotten
    have hnone :
        (threeExchanges.follow refusing overtaken).session.cache.get? proxyUrl.proxyKey = none := by
      rfl
    cases hnone.symm.trans hfound

end Rehearsal
end ProxyHandshake
