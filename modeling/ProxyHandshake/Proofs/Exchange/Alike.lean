import ProxyHandshake.Proofs.Exchange.Stages

/-!
# Exchanges side by side

Two exchanges that hear different responses to a request with authorization, and otherwise the same,
go side by side as long as they ask for the same.  Programs that ask for the same are alike, and
sessions in which alike programs run stay alike, with a deadline and without one.
-/

namespace ProxyHandshake

variable {σ κ χ : Type}

/-! ## Programs that ask for the same -/

/-- Answers to one demand, which may differ only where `request` is sent with authorization: there
they are `first` and `second`. -/
def Demand.AnsweredAlike (proxy : Url) (request : Request) (first second : Response) :
    (demand : Demand κ χ) → demand.Answer → demand.Answer → Prop
  | .send through sent (some _), a, b =>
      through = proxy → sent = request → a = Except.ok first ∧ b = Except.ok second
  | .send _ _ none, a, b => a = b
  | .acquire _, a, b => a = b
  | .initiate _ _, a, b => a = b
  | .step _ _, a, b => a = b
  | .lookup _, a, b => a = b
  | .close _, _, _ | .take _, _, _ | .release _, _, _ | .store _ _ _, _, _ | .forget _, _, _
  | .count _, _, _ => True

namespace Exchange

/-- Two programs that ask for the same, and end with what `R` relates. -/
inductive Alike (proxy : Url) (request : Request) (first second : Response) {α β : Type}
    (R : α → β → Prop) : Exchange κ χ α → Exchange κ χ β → Prop
  | done {a : α} {b : β} (hend : R a b) :
      Alike proxy request first second R (.done a) (.done b)
  | ask (demand : Demand κ χ) {next : demand.Answer → Exchange κ χ α}
      {other : demand.Answer → Exchange κ χ β}
      (hnext : ∀ a b, demand.AnsweredAlike proxy request first second a b →
        Alike proxy request first second R (next a) (other b)) :
      Alike proxy request first second R (.ask demand next) (.ask demand other)

namespace Alike

variable {proxy : Url} {request : Request} {first second : Response} {α β γ δ : Type}
  {R : α → β → Prop} {S : γ → δ → Prop}

theorem pure {a : α} {b : β} (hend : R a b) :
    Alike proxy request first second R (Pure.pure a : Exchange κ χ α) (Pure.pure b) :=
  .done hend

theorem bind
    {program : Exchange κ χ α} {other : Exchange κ χ β} {next : α → Exchange κ χ γ}
    {otherNext : β → Exchange κ χ δ}
    (halike : Alike proxy request first second R program other)
    (hnext : ∀ a b, R a b → Alike proxy request first second S (next a) (otherNext b)) :
    Alike proxy request first second S (program >>= next) (other >>= otherNext) := by
  change Alike proxy request first second S (program.bind next) (other.bind otherNext)
  induction halike with
  | done hend => exact hnext _ _ hend
  | ask demand _ ih => exact .ask demand fun a b hanswers => ih a b hanswers

theorem demand (demand : Demand κ χ) :
    Alike proxy request first second (demand.AnsweredAlike proxy request first second)
      (Exchange.demand demand) (Exchange.demand demand) :=
  .ask demand fun _ _ hanswers => .done hanswers

theorem holding
    {body other : Exchange κ χ α} {R : α → α → Prop} (lock : Lock)
    (halike : Alike proxy request first second R body other) :
    Alike proxy request first second R (.holding lock body) (.holding lock other) := by
  refine .ask _ fun _ _ _ => ?_
  refine halike.bind fun a b hend => ?_
  exact .ask _ fun _ _ _ => .done hend

theorem inTurn
    {body other : Exchange κ χ α} {R : α → α → Prop} (isReentrant : Bool)
    (halike : Alike proxy request first second R body other) :
    Alike proxy request first second R (.inTurn isReentrant proxy body)
      (.inTurn isReentrant proxy other) := by
  cases isReentrant with
  | true => exact halike
  | false => exact halike.holding _

end Alike
end Exchange

/-! ## Sessions in which they run -/

def Call.isStep : Call κ χ → Bool
  | .stepped .. => true
  | .sent .. | .acquired _ | .initiated .. | .closed _ => false

/-- The steps of contexts among the calls, in order. -/
def steps (calls : List (Call κ χ)) : List (Call κ χ) :=
  calls.filter Call.isStep

@[simp] theorem steps_append (calls later : List (Call κ χ)) :
    steps (calls ++ later) = steps calls ++ steps later :=
  List.filter_append ..

@[simp] theorem steps_sent
    (proxy : Url) (request : Request) (authorization : Option HeaderValue)
    (result : Except TransportError Response) (calls : List (Call κ χ)) :
    steps (.sent proxy request authorization result :: calls) = steps calls := rfl

/-- Two backends that differ only in what they answer to `request` with authorization. -/
structure Backend.Alike (proxy : Url) (request : Request) (first second : Response)
    (backend other : Backend σ κ χ) : Prop where
  library : backend.library = other.library
  now : backend.now = other.now
  plain : ∀ through sent, backend.send through sent none = other.send through sent none
  delay :
    ∀ through sent authorization outside,
      (backend.send through sent authorization outside).1.2 =
        (other.send through sent authorization outside).1.2
  later :
    ∀ through sent authorization outside,
      (backend.send through sent authorization outside).2 =
        (other.send through sent authorization outside).2
  first :
    ∀ header outside, (backend.send proxy request (some header) outside).1.1 = .ok first
  second :
    ∀ header outside, (other.send proxy request (some header) outside).1.1 = .ok second

namespace Session

/-- Two sessions that differ at most in the responses that came. -/
structure Alike (session other : Session σ κ χ) : Prop where
  outside : session.outside = other.outside
  cache : session.cache = other.cache
  counted : session.counted = other.counted
  steps : steps session.calls = steps other.calls

theorem Alike.refl (session : Session σ κ χ) : session.Alike session :=
  ⟨rfl, rfl, rfl, rfl⟩

section

variable {proxy : Url} {request : Request} {first second : Response}
  {backend opposite : Backend σ κ χ} {session other : Session σ κ χ}

theorem Alike.close (hbackends : backend.Alike proxy request first second opposite)
    (hsessions : session.Alike other) (context : χ) :
    (session.close backend context).Alike (other.close opposite context) := by
  refine ⟨?_, hsessions.cache, hsessions.counted, ?_⟩
  · simp only [Session.close, note, hbackends.library, hsessions.outside]
  · simp [Session.close, note, hsessions.steps]

theorem Alike.closeHeld (hbackends : backend.Alike proxy request first second opposite)
    (hsessions : session.Alike other) (held : Option χ) :
    (session.closeHeld backend held).Alike (other.closeHeld opposite held) := by
  cases held with
  | none => exact hsessions
  | some context => exact hsessions.close hbackends context

theorem Alike.send (hbackends : backend.Alike proxy request first second opposite)
    (hsessions : session.Alike other) (through : Url) (sent : Request)
    (authorization : Option HeaderValue) :
    (session.send backend through sent authorization).1.2 =
        (other.send opposite through sent authorization).1.2 ∧
      (session.send backend through sent authorization).2.Alike
        (other.send opposite through sent authorization).2 := by
  refine ⟨?_, ?_, hsessions.cache, hsessions.counted, ?_⟩
  · rw [Session.send, Session.send, hsessions.outside]
    exact hbackends.delay through sent authorization other.outside
  · rw [Session.send, Session.send, hsessions.outside]
    exact hbackends.later through sent authorization other.outside
  · simp [Session.send, note, hsessions.steps]

theorem Alike.acquire (hbackends : backend.Alike proxy request first second opposite)
    (hsessions : session.Alike other) (credentials : Credentials) :
    (session.acquire backend credentials).1 = (other.acquire opposite credentials).1 ∧
      (session.acquire backend credentials).2.Alike
        (other.acquire opposite credentials).2 := by
  rw [Session.acquire, Session.acquire, hbackends.library, hsessions.outside]
  exact ⟨rfl, rfl, hsessions.cache, hsessions.counted,
    by simp [note, hsessions.steps]⟩

theorem Alike.step (hbackends : backend.Alike proxy request first second opposite)
    (hsessions : session.Alike other) (context : χ) (input : Option Token) :
    (session.step backend context input).1 = (other.step opposite context input).1 ∧
      (session.step backend context input).2.Alike
        (other.step opposite context input).2 := by
  rw [Session.step, Session.step, hbackends.library, hsessions.outside]
  exact ⟨rfl, rfl, hsessions.cache, hsessions.counted,
    by simp [note, hsessions.steps]⟩

theorem Alike.initiate (hbackends : backend.Alike proxy request first second opposite)
    (hsessions : session.Alike other) (handle : κ) (target : ServicePrincipal) :
    (session.initiate backend handle target).1 = (other.initiate opposite handle target).1 ∧
      (session.initiate backend handle target).2.Alike
        (other.initiate opposite handle target).2 := by
  have hsame :
      other.initiate opposite handle target = other.initiate backend handle target := by
    simp only [Session.initiate, Session.step, Session.close, hbackends.library]
  obtain ⟨answer, later, calls, _, hinitiate⟩ :=
    initiate_opening backend handle target other.outside
  rw [hsame, hinitiate session hsessions.outside, hinitiate other rfl]
  exact ⟨rfl, rfl, hsessions.cache, hsessions.counted, by simp [hsessions.steps]⟩

/-- Meeting one demand keeps sessions alike. -/
theorem Alike.perform (hbackends : backend.Alike proxy request first second opposite)
    (hsessions : session.Alike other) (demand : Demand κ χ) :
    demand.AnsweredAlike proxy request first second
        (session.perform backend demand).1.1 (other.perform opposite demand).1.1 ∧
      (session.perform backend demand).1.2 = (other.perform opposite demand).1.2 ∧
      (session.perform backend demand).2.Alike (other.perform opposite demand).2 := by
  cases demand with
  | send through sent authorization =>
      refine ⟨?_, hsessions.send hbackends through sent authorization⟩
      cases authorization with
      | none =>
          change (session.send backend through sent none).1.1 =
            (other.send opposite through sent none).1.1
          simp only [Session.send, hsessions.outside, hbackends.plain]
      | some header =>
          rintro rfl rfl
          exact ⟨hbackends.first header session.outside,
            hbackends.second header other.outside⟩
  | initiate handle target =>
      obtain ⟨hanswer, hafter⟩ := hsessions.initiate hbackends handle target
      exact ⟨hanswer, rfl, hafter⟩
  | acquire credentials =>
      obtain ⟨hanswer, hafter⟩ := hsessions.acquire hbackends credentials
      exact ⟨hanswer, rfl, hafter⟩
  | step context token =>
      obtain ⟨hanswer, hafter⟩ := hsessions.step hbackends context (some token)
      exact ⟨hanswer, rfl, hafter⟩
  | close context => exact ⟨trivial, rfl, hsessions.close hbackends context⟩
  | lookup key =>
      have hlookup :
          session.cache.lookup key (backend.now session.outside) =
            other.cache.lookup key (opposite.now other.outside) := by
        rw [hbackends.now, hsessions.outside, hsessions.cache]
      refine ⟨?_, rfl, hsessions.outside, congrArg Prod.snd hlookup, hsessions.counted,
        hsessions.steps⟩
      exact Prod.ext (by rw [Session.perform, Session.perform, hbackends.now, hsessions.outside])
        (congrArg Prod.fst hlookup)
  | store key since acquired =>
      exact ⟨trivial, rfl, hsessions.outside,
        congrArg (·.store key since acquired) hsessions.cache, hsessions.counted,
        hsessions.steps⟩
  | forget key =>
      exact ⟨trivial, rfl, hsessions.outside, congrArg (·.forget key) hsessions.cache,
        hsessions.counted, hsessions.steps⟩
  | count counter =>
      exact ⟨trivial, rfl, hsessions.outside, hsessions.cache,
        congrArg (· ++ [counter]) hsessions.counted, hsessions.steps⟩
  | take lock | release lock => exact ⟨trivial, rfl, hsessions⟩

variable {α β : Type} {R : α → β → Prop} {program : Exchange κ χ α}
  {opposed : Exchange κ χ β}

/-- Alike programs, run side by side, end with what `R` relates. -/
theorem Alike.run (hbackends : backend.Alike proxy request first second opposite)
    (hprograms : program.Alike proxy request first second R opposed)
    (hsessions : session.Alike other) :
    R (session.run backend program).1 (other.run opposite opposed).1 ∧
      (session.run backend program).2.Alike (other.run opposite opposed).2 := by
  induction hprograms generalizing session other with
  | done hend => exact ⟨hend, hsessions⟩
  | ask demand _ ih =>
      obtain ⟨hanswers, _, hafter⟩ := hsessions.perform hbackends demand
      exact ih _ _ hanswers hafter

theorem heldAfter_eq
    {demand : Demand κ χ} {a b : demand.Answer}
    (hanswers : demand.AnsweredAlike proxy request first second a b) (held : Option χ) :
    heldAfter held demand a = heldAfter held demand b := by
  cases demand with
  | initiate handle target =>
      obtain rfl : a = b := hanswers
      rfl
  | _ => rfl

/-- So they do within a deadline, which cuts off both or neither. -/
theorem Alike.runWithin (hbackends : backend.Alike proxy request first second opposite)
    (hprograms : program.Alike proxy request first second R opposed)
    (hsessions : session.Alike other) (limit elapsed : Nat) (held : Option χ) :
    Option.Rel R (session.runWithin backend limit program elapsed held).1
        (other.runWithin opposite limit opposed elapsed held).1 ∧
      (session.runWithin backend limit program elapsed held).2.Alike
        (other.runWithin opposite limit opposed elapsed held).2 := by
  induction hprograms generalizing session other elapsed held with
  | done hend => exact ⟨.some hend, hsessions⟩
  | ask demand _ ih =>
      obtain ⟨hanswers, hdelay, hafter⟩ := hsessions.perform hbackends demand
      simp only [Session.runWithin]
      rw [← hdelay, ← heldAfter_eq hanswers]
      split
      · exact ⟨.none, hafter.closeHeld hbackends _⟩
      · exact ih _ _ hanswers hafter _ _

end
end Session
end ProxyHandshake
