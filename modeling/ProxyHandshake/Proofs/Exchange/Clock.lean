import ProxyHandshake.Proofs.Exchange.Stages

/-!
# The clock during an exchange

When no call sets the clock back, no exchange does.  The moment at which an exchange looks for a
handle lies between its beginning and its end.
-/

namespace ProxyHandshake

variable {σ κ χ : Type}

/-- The clock never goes back. -/
structure Backend.Monotone (backend : Backend σ κ χ) : Prop where
  send : ∀ proxy request authorization outside,
    backend.now outside ≤ backend.now (backend.send proxy request authorization outside).2
  acquire : ∀ credentials outside,
    backend.now outside ≤ backend.now (backend.library.acquire credentials outside).2
  initiate : ∀ handle target mutualAuth outside,
    backend.now outside ≤
      backend.now (backend.library.initiate handle target mutualAuth outside).2
  step : ∀ context input outside,
    backend.now outside ≤ backend.now (backend.library.step context input outside).2
  close : ∀ context outside,
    backend.now outside ≤ backend.now (backend.library.close context outside)

namespace Session

variable {backend : Backend σ κ χ}

theorem now_le_initiate
    (hclock : backend.Monotone) (session : Session σ κ χ) (handle : κ)
    (target : ServicePrincipal) :
    backend.now session.outside ≤
      backend.now (session.initiate backend handle target).2.outside := by
  have hopening := hclock.initiate handle target true session.outside
  rcases hopened : backend.library.initiate handle target true session.outside
    with ⟨opened, later⟩
  rw [hopened] at hopening
  cases opened with
  | error e =>
      simp only [Session.initiate, hopened]
      exact hopening
  | ok context =>
      have hstepping := hclock.step context none later
      rcases hstepped : backend.library.step context none later with ⟨answer, last⟩
      rw [hstepped] at hstepping
      have hlast : backend.now session.outside ≤ backend.now last :=
        Int.le_trans hopening hstepping
      cases answer with
      | error e =>
          simp only [Session.initiate, hopened, Session.step, note, hstepped]
          exact Int.le_trans hlast (hclock.close context last)
      | ok first =>
          simp only [Session.initiate, hopened, Session.step, note, hstepped]
          exact hlast

theorem now_le_perform
    (hclock : backend.Monotone) (session : Session σ κ χ) (demand : Demand κ χ) :
    backend.now session.outside ≤ backend.now (session.perform backend demand).2.outside := by
  cases demand with
  | send proxy request authorization =>
      exact hclock.send proxy request authorization session.outside
  | acquire credentials => exact hclock.acquire credentials session.outside
  | initiate handle target => exact now_le_initiate hclock session handle target
  | step context token => exact hclock.step context (some token) session.outside
  | close context => exact hclock.close context session.outside
  | take | release | lookup | store | forget | count => exact Int.le_refl _

theorem now_le_run
    {α : Type} (hclock : backend.Monotone) (program : Exchange κ χ α)
    (session : Session σ κ χ) :
    backend.now session.outside ≤ backend.now (session.run backend program).2.outside := by
  induction program generalizing session with
  | done a => exact Int.le_refl _
  | ask demand next ih => exact Int.le_trans (now_le_perform hclock session demand) (ih _ _)

/-- An exchange whose request is sent ends after the answer to it has come. -/
theorem now_opening_le
    {settings : Settings} {files : FileSystem} {proxy : Url} {request : Request}
    (hclock : backend.Monotone) (hproxy : validateProxy proxy = .ok ())
    (hrequest : request.validate = .ok ()) (isReentrant : Bool) (session : Session σ κ χ) :
    backend.now (backend.opening proxy request session.outside).2 ≤
      backend.now
        (session.run backend
          (.handshake settings files isReentrant proxy request)).2.outside := by
  simp only [Exchange.handshake, hproxy, hrequest, Exchange.converse, run_bind, run_demand,
    perform]
  exact now_le_run hclock _ (session.send backend proxy request.stripped none).2

end Session
end ProxyHandshake
