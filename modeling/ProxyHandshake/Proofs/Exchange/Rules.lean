import ProxyHandshake.Exchange.Handshake
import ProxyHandshake.Proofs.Exchange.Run

/-!
# Rules for exchanges

What an exchange may ask for next depends on what it was told so far.  A program obeys a rule if every
demand that it puts is one that the rule allows at this point, whatever the answers are.

Whoever gets or forgets the handle for a proxy tends the slot in which it is kept: he takes the lock of
the slot, looks for the handle, acquires one only when he has found none, and gives the lock back.  The
program of an exchange does so, and it forgets the handle only if the one that it got itself was
rejected.
-/

namespace ProxyHandshake

variable {σ κ χ α β : Type}

/-! ## Rules -/

/-- A demand that was met, and the answer to it. -/
structure Told (κ χ : Type) where
  demand : Demand κ χ
  answer : demand.Answer

namespace Exchange

/-- A program that puts no demand but those that `rule` allows after what it was told, and that ends as
`last` says. -/
inductive Obeys (rule : List (Told κ χ) → Demand κ χ → Prop) (last : List (Told κ χ) → α → Prop) :
    List (Told κ χ) → Exchange κ χ α → Prop
  | done {past : List (Told κ χ)} (a : α) (hlast : last past a) : Obeys rule last past (.done a)
  | ask {past : List (Told κ χ)} (demand : Demand κ χ) {next : demand.Answer → Exchange κ χ α}
      (hallowed : rule past demand)
      (hnext : ∀ answer, Obeys rule last (past ++ [⟨demand, answer⟩]) (next answer)) :
      Obeys rule last past (.ask demand next)

section

variable {rule : List (Told κ χ) → Demand κ χ → Prop} {past : List (Told κ χ)}
  {last : List (Told κ χ) → α → Prop}

theorem Obeys.of_ask
    {demand : Demand κ χ} {next : demand.Answer → Exchange κ χ α}
    (hobeys : Obeys rule last past (.ask demand next)) :
    rule past demand ∧
      ∀ answer, Obeys rule last (past ++ [⟨demand, answer⟩]) (next answer) := by
  cases hobeys with
  | ask _ hallowed hnext => exact ⟨hallowed, hnext⟩

theorem Obeys.bind
    {middle : List (Told κ χ) → β → Prop} {program : Exchange κ χ β}
    {next : β → Exchange κ χ α} (hprogram : Obeys rule middle past program)
    (hnext : ∀ later b, middle later b → Obeys rule last later (next b)) :
    Obeys rule last past (program >>= next) := by
  change Obeys rule last past (program.bind next)
  induction hprogram with
  | done b hmiddle => exact hnext _ b hmiddle
  | ask demand hallowed _ ih => exact .ask demand hallowed ih

theorem Obeys.mono
    {wider : List (Told κ χ) → Demand κ χ → Prop} {weaker : List (Told κ χ) → α → Prop}
    {program : Exchange κ χ α} (hobeys : Obeys rule last past program)
    (hwider : ∀ past demand, rule past demand → wider past demand)
    (hweaker : ∀ past a, last past a → weaker past a) : Obeys wider weaker past program := by
  induction hobeys with
  | done a hlast => exact .done a (hweaker _ a hlast)
  | ask demand hallowed _ ih => exact .ask demand (hwider _ demand hallowed) ih

/-- Whoever meets the demands of the program, it ends as it should. -/
theorem Obeys.last_run
    {program : Exchange κ χ α} (hobeys : Obeys rule last past program)
    (backend : Backend σ κ χ) (session : Session σ κ χ) :
    ∃ later, last (past ++ later) (session.run backend program).1 := by
  induction hobeys generalizing session with
  | @done past a hlast =>
      refine ⟨[], ?_⟩
      rw [List.append_nil]
      exact hlast
  | ask demand _ _ ih =>
      obtain ⟨later, hlater⟩ :=
        ih (session.perform backend demand).1.1 (session.perform backend demand).2
      refine ⟨⟨demand, (session.perform backend demand).1.1⟩ :: later, ?_⟩
      rw [Session.run_ask]
      simpa using hlater

end

end Exchange

/-! ## The slot of a proxy -/

/-- How an exchange stands to the slot in which the handle for its proxy is kept. -/
inductive Grip (κ : Type) where
  | away
  /-- It holds the lock of the slot. -/
  | inside
  /-- It has found no handle there, and is to acquire one. -/
  | missing (since : Instant)
  /-- It has acquired a handle, and is to store it. -/
  | filling (since : Instant) (acquired : Acquired κ)

namespace Grip

/-- The grip when a demand has been met. -/
def after (grip : Grip κ) : (demand : Demand κ χ) → demand.Answer → Grip κ
  | .take (.handle _), _ => .inside
  | .release (.handle _), _ => .away
  | .lookup _, (_, some _) => .inside
  | .lookup _, (now, none) => .missing now
  | .acquire _, .error _ => .inside
  | .acquire _, .ok acquired =>
    match grip with
    | .missing since => .filling since acquired
    | _ => grip
  | .store .., _ => .inside
  | _, _ => grip

/-- The grip of an exchange that was told so much. -/
def of (past : List (Told κ χ)) : Grip κ :=
  past.foldl (fun grip told => grip.after told.demand told.answer) .away

@[simp] theorem of_nil : of ([] : List (Told κ χ)) = .away := rfl

@[simp] theorem of_append (past later : List (Told κ χ)) :
    of (past ++ later) =
      later.foldl (fun grip told => grip.after told.demand told.answer) (of past) :=
  List.foldl_append

end Grip

/-- Whether a demand is in order for whoever tends the slot of one proxy. -/
def Tends (key : String) (past : List (Told κ χ)) : Demand κ χ → Prop
  | .take (.handle slot) => slot = key ∧ Grip.of past = .away
  | .release (.handle slot) | .lookup slot | .forget slot => slot = key ∧ Grip.of past = .inside
  | .acquire _ => ∃ since, Grip.of past = .missing since
  | .store slot since acquired => slot = key ∧ Grip.of past = .filling since acquired
  | .take (.turn _) | .release (.turn _) | .send .. | .initiate .. | .step .. | .close .. |
    .count .. => True

/-- Whether a demand gives up what is kept in a slot. -/
def Demand.isForgetting : Demand κ χ → Bool
  | .forget _ => true
  | _ => false

/-- What someone who wants a handle was told from the first to the last, and what he got. -/
inductive Served (key : String) (credentials : Credentials) :
    List (Told κ χ) → Except NegotiateError κ → Prop
  | kept (now : Instant) (handle : κ) :
      Served key credentials
        [⟨.take (.handle key), ()⟩, ⟨.lookup key, (now, some handle)⟩,
          ⟨.release (.handle key), ()⟩]
        (.ok handle)
  | refused (now : Instant) (e : NegotiateError) :
      Served key credentials
        [⟨.take (.handle key), ()⟩, ⟨.lookup key, (now, none)⟩,
          ⟨.acquire credentials, .error e⟩, ⟨.release (.handle key), ()⟩]
        (.error e)
  | acquired (now : Instant) (acquired : Acquired κ) :
      Served key credentials
        [⟨.take (.handle key), ()⟩, ⟨.lookup key, (now, none)⟩,
          ⟨.acquire credentials, .ok acquired⟩, ⟨.store key now acquired, ()⟩,
          ⟨.release (.handle key), ()⟩]
        (.ok acquired.handle)

namespace Exchange

section

variable {key : String} {rule : List (Told κ χ) → Demand κ χ → Prop} {past : List (Told κ χ)}

theorem obeys_handleFor
    (hrule : ∀ past demand, Tends key past demand → demand.isForgetting = false →
      rule past demand)
    (hpast : Grip.of past = .away) (credentials : Credentials) :
    Obeys rule
      (fun later result =>
        Grip.of later = .away ∧ ∃ told, later = past ++ told ∧ Served key credentials told result)
      past (handleFor key credentials : Exchange κ χ (Except NegotiateError κ)) := by
  refine .ask (.take (.handle key)) (hrule _ _ ⟨rfl, hpast⟩ rfl) fun _ => ?_
  refine .ask (.lookup key) (hrule _ _ ⟨rfl, by simp [Grip.after]⟩ rfl) fun found => ?_
  obtain ⟨since, _ | handle⟩ := found
  · refine .ask (.acquire credentials) (hrule _ _ ⟨since, by simp [Grip.after]⟩ rfl) fun answer => ?_
    cases answer with
    | error e =>
        refine .ask (.release (.handle key)) (hrule _ _ ⟨rfl, by simp [Grip.after]⟩ rfl) fun _ => ?_
        refine .done _ ⟨by simp [Grip.after], _, ?_, .refused since e⟩
        simp only [List.append_assoc, List.cons_append, List.nil_append]
        rfl
    | ok acquired =>
        refine .ask (.store key since acquired) (hrule _ _ ⟨rfl, by simp [Grip.after]⟩ rfl)
          fun _ => ?_
        refine .ask (.release (.handle key)) (hrule _ _ ⟨rfl, by simp [Grip.after]⟩ rfl) fun _ => ?_
        refine .done _ ⟨by simp [Grip.after], _, ?_, .acquired since acquired⟩
        simp only [List.append_assoc, List.cons_append, List.nil_append]
        rfl
  · refine .ask (.release (.handle key)) (hrule _ _ ⟨rfl, by simp [Grip.after]⟩ rfl) fun _ => ?_
    refine .done _ ⟨by simp [Grip.after], _, ?_, .kept since handle⟩
    simp only [List.append_assoc, List.cons_append, List.nil_append]
    rfl

theorem obeys_forgetHandle
    (hrule : ∀ past demand, Tends key past demand → demand.isForgetting = false →
      rule past demand)
    (hpast : Grip.of past = .away)
    (hforget : rule (past ++ [⟨.take (.handle key), ()⟩]) (.forget key)) :
    Obeys rule
      (fun later _ => Grip.of later = .away ∧
        later = past ++
          [⟨.take (.handle key), ()⟩, ⟨.forget key, ()⟩, ⟨.release (.handle key), ()⟩])
      past (forgetHandle key : Exchange κ χ Unit) := by
  refine .ask (.take (.handle key)) (hrule _ _ ⟨rfl, hpast⟩ rfl) fun _ => ?_
  refine .ask (.forget key) hforget fun _ => ?_
  refine .ask (.release (.handle key)) (hrule _ _ ⟨rfl, by simp [Grip.after]⟩ rfl) fun _ => ?_
  refine .done _ ⟨by simp [Grip.after], ?_⟩
  simp only [List.append_assoc, List.cons_append, List.nil_append]
  rfl

end

end Exchange
end ProxyHandshake
