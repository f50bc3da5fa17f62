import ProxyHandshake.Exchange.Session

/-!
# Tallies

What the calls of a session add up to.
-/

namespace ProxyHandshake

structure Tally where
  sent : Nat
  acquisitions : Nat
  initiated : Nat
  /-- The contexts that were opened. -/
  opened : Nat
  steps : Nat
  released : Nat
  /-- The largest number of contexts that were open at the same time. -/
  mostOpen : Nat
deriving DecidableEq, Repr

namespace Tally

def empty : Tally := ⟨0, 0, 0, 0, 0, 0, 0⟩

/-- The contexts that are open now. -/
def inFlight (tally : Tally) : Nat :=
  tally.opened - tally.released

def opening (tally : Tally) : Tally :=
  let tally := { tally with opened := tally.opened + 1 }
  { tally with mostOpen := max tally.mostOpen tally.inFlight }

def add {κ χ : Type} (tally : Tally) : Call κ χ → Tally
  | .sent .. => { tally with sent := tally.sent + 1 }
  | .acquired _ => { tally with acquisitions := tally.acquisitions + 1 }
  | .initiated _ _ result =>
    let tally := { tally with initiated := tally.initiated + 1 }
    if result.isOk then tally.opening else tally
  | .stepped .. => { tally with steps := tally.steps + 1 }
  | .closed _ => { tally with released := tally.released + 1 }

def ofCalls {κ χ : Type} (calls : List (Call κ χ)) : Tally :=
  calls.foldl add empty

end Tally

/-- How often each counter went up, in the order in which they first did. -/
def Counter.totals (counted : List Counter) : List (Counter × Nat) :=
  counted.eraseDups.map fun counter => (counter, counted.count counter)

end ProxyHandshake
