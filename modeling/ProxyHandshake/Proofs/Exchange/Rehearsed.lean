import ProxyHandshake.Proofs.Exchange.Clock
import ProxyHandshake.Rehearsal.Script

/-!
# Rehearsed exchanges

The clock of a rehearsal goes on with every acquisition and is never set back, whatever the script
says.  The exchange that is rehearsed most goes to a proxy that asks once and lets every request with
a token through.
-/

namespace ProxyHandshake.Rehearsal

/-! ## The clock -/

theorem now_answer (script : ProxyScript) (authorization : Option HeaderValue) (stage : Stage) :
    (answer script authorization stage).2.now = stage.now := rfl

theorem now_follow
    (context : Context) (input : Option Token) (stage : Stage) (script : StepScript) :
    (context.follow input stage script).2.now = stage.now := by
  cases script with
  | fail e => rfl
  | more source => rfl
  | complete token => cases token <;> rfl
  | accept expected =>
      by_cases haccepted : input = some ⟨expected⟩
      · simp only [Context.follow, haccepted, if_true]
      · simp only [Context.follow, haccepted, if_false]

theorem backend_monotone (library : LibraryScript) (proxy : ProxyScript) :
    (backend library proxy).Monotone where
  send _ _ authorization stage := Int.le_of_eq (now_answer proxy authorization stage).symm
  acquire credentials stage := by
    have hlater : stage.acquisitions ≤ stage.acquisitions + 1 := Nat.le_succ _
    exact Int.ofNat_le.mpr hlater
  initiate _ _ _ _ := Int.le_refl _
  step context input stage := by
    change stage.now ≤ (Rehearsal.step context input stage).2.now
    rw [Rehearsal.step, now_follow]
    exact Int.le_refl _
  close _ _ := Int.le_refl _

/-! ## A proxy that lets through every token -/

def proxyUrl : Url :=
  { scheme := "http", username := "", password := none, host := some (.domain "proxy"),
    port := some 3128, path := .segments [""], query := none, fragment := none }

def targetUrl : Url :=
  { proxyUrl with host := some (.domain "target"), port := none }

def noFiles : FileSystem := ⟨.directory [], []⟩

def lenient : Settings := { proxy := proxyUrl, credentials := .ambient }

def negotiating : Backend Stage Handle Context :=
  backend ⟨false, [], []⟩ (.negotiating ⟨0⟩)

end ProxyHandshake.Rehearsal
