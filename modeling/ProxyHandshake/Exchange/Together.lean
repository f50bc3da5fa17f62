import ProxyHandshake.Exchange.Session

/-!
# Exchanges at the same time

Several exchanges share a session.  At any moment one of them may make its next move: put its next
demand, or take the answer to a call that has ended.  A lock that another exchange holds has to be
waited for.  An exchange may also be abandoned at any point; it gives its locks back at once, while
a call of the library goes on to its end before what it opened is closed.

The moves say nothing of time or order.  A schedule lets the exchange go first whose moment comes
first, and of those the one that has waited longest; but a call of the library outlasts all that
others do at the same moment.
-/

namespace ProxyHandshake

variable {σ κ χ α : Type}

/-! ## Tasks -/

/-- Where an exchange stands. -/
inductive Phase (κ χ α : Type) where
  | running (program : Exchange κ χ α)
  /-- A call is going on; its answer is to be taken when it ends. -/
  | calling (demand : Demand κ χ) (answer : demand.Answer)
      (next : demand.Answer → Exchange κ χ α)
  | finished (a : α)
  /-- Abandoned while a call goes on. -/
  | leaving (demand : Demand κ χ) (answer : demand.Answer)
  | abandoned

structure Task (κ χ α : Type) where
  phase : Phase κ χ α
  /-- When the task came to this phase or, during a call, when the call ends. -/
  since : Nat
  deadline : Option Nat
  locks : List Lock
  held : Option χ

namespace Task

def start (deadline : Option Nat) (program : Exchange κ χ α) : Task κ χ α :=
  { phase := .running program, since := 0, deadline := deadline, locks := [], held := none }

def holds (task : Task κ χ α) (lock : Lock) : Bool :=
  task.locks.contains lock

/-- The locks that a task holds after a demand was met. -/
def locksAfter (locks : List Lock) : Demand κ χ → List Lock
  | .take lock => lock :: locks
  | .release lock => locks.filter (· ≠ lock)
  | _ => locks

/-- Whether a demand is met by a call that takes time. -/
def isCall : Demand κ χ → Bool
  | .send .. => true
  | demand => demand.isLibraryCall

/-- Whether a call of the library goes on. -/
def isInCall (task : Task κ χ α) : Bool :=
  match task.phase with
  | .calling demand _ _ | .leaving demand _ => demand.isLibraryCall
  | .running _ | .finished _ | .abandoned => false

end Task

/-! ## Moves -/

structure System (σ κ χ α : Type) where
  session : Session σ κ χ
  clock : Nat
  tasks : List (Task κ χ α)

inductive Move where
  /-- Go on with the program: put its next demand, or end. -/
  | proceed
  /-- Take the end of a call. -/
  | deliver
  | abandon
deriving DecidableEq, Repr

namespace System

def isFree (system : System σ κ χ α) (lock : Lock) : Bool :=
  !system.tasks.any (·.holds lock)

/-- Whether the next demand of a task waits for a lock. -/
def isBlocked (system : System σ κ χ α) (task : Task κ χ α) : Bool :=
  match task.phase with
  | .running (.ask (.take lock) _) => !system.isFree lock
  | _ => false

/-- The task after its program went on. -/
def proceed (backend : Backend σ κ χ) (system : System σ κ χ α) (task : Task κ χ α) :
    Option (Task κ χ α × Session σ κ χ) :=
  match task.phase with
  | .running (.done a) =>
    some ({ task with phase := .finished a, since := system.clock }, system.session)
  | .running (.ask demand next) =>
    if system.isBlocked task then none
    else
      let ((answer, delay), session) := system.session.perform backend demand
      let task :=
        { task with
          since := system.clock + delay.nanoseconds
          locks := Task.locksAfter task.locks demand
          held := Session.heldAfter task.held demand answer }
      if Task.isCall demand then some ({ task with phase := .calling demand answer next }, session)
      else some ({ task with phase := .running (next answer) }, session)
  | _ => none

/-- The task after its call ended; what an abandoned task still holds is closed. -/
def deliver (backend : Backend σ κ χ) (system : System σ κ χ α) (task : Task κ χ α) :
    Option (Task κ χ α × Session σ κ χ) :=
  match task.phase with
  | .calling _ answer next => some ({ task with phase := .running (next answer) }, system.session)
  | .leaving _ _ =>
    some ({ task with phase := .abandoned, held := none },
      system.session.closeHeld backend task.held)
  | _ => none

/-- The task after it was abandoned. -/
def abandon (backend : Backend σ κ χ) (system : System σ κ χ α) (task : Task κ χ α) :
    Option (Task κ χ α × Session σ κ χ) :=
  let gone : Task κ χ α := { task with phase := .abandoned, locks := [], held := none }
  match task.phase with
  | .running _ => some (gone, system.session.closeHeld backend task.held)
  | .calling demand answer _ =>
    if demand.isLibraryCall then
      some ({ task with phase := .leaving demand answer, locks := [] }, system.session)
    else some (gone, system.session.closeHeld backend task.held)
  | _ => none

/-- The system after the task at `index` made a move. -/
def move (backend : Backend σ κ χ) (system : System σ κ χ α) (index : Nat) (m : Move) :
    Option (System σ κ χ α) := do
  let task ← system.tasks[index]?
  let (task, session) ←
    match m with
    | .proceed => system.proceed backend task
    | .deliver => system.deliver backend task
    | .abandon => system.abandon backend task
  some { system with session := session, tasks := system.tasks.set index task }

/-! ## Schedule -/

/-- The next move of a task and its moment, unless it waits for another task or has ended. -/
def nextMove? (system : System σ κ χ α) (task : Task κ χ α) : Option (Nat × Move) :=
  let now := system.clock
  match task.phase with
  | .running _ =>
    if !system.isBlocked task then some (now, .proceed)
    else task.deadline.map fun deadline => (max now deadline, .abandon)
  | .calling demand _ _ =>
    let cut := task.deadline.filter fun deadline =>
      deadline < task.since || (demand.isLibraryCall && deadline ≤ now)
    match cut with
    | some deadline => some (max now deadline, .abandon)
    | none => some (max now task.since, .deliver)
  | .leaving _ _ => some (max now task.since, .deliver)
  | .finished _ | .abandoned => none

/-- A move that can be made. -/
structure Choice where
  moment : Nat
  /-- Whether the move is the end of a call of the library. -/
  endsCall : Bool
  since : Nat
  index : Nat
  move : Move

/-- Whether `a` goes before `b`. -/
def Choice.isBefore (a b : Choice) : Bool :=
  let isLonger := a.since < b.since || (a.since == b.since && a.index < b.index)
  a.moment < b.moment ||
    (a.moment == b.moment &&
      ((!a.endsCall && b.endsCall) || (a.endsCall == b.endsCall && isLonger)))

def choices (system : System σ κ χ α) : List Choice :=
  system.tasks.zipIdx.filterMap fun (task, index) =>
    (system.nextMove? task).map fun (moment, move) =>
      ⟨moment, task.isInCall && move == .deliver, task.since, index, move⟩

def first? : List Choice → Option Choice
  | [] => none
  | choice :: rest =>
    match first? rest with
    | none => some choice
    | some other => if other.isBefore choice then some other else some choice

/-- Let the tasks move until none can, for at most `fuel` moves. -/
def runFuel (backend : Backend σ κ χ) : Nat → System σ κ χ α → System σ κ χ α
  | 0, system => system
  | fuel + 1, system =>
    match first? system.choices with
    | none => system
    | some choice =>
      match ({ system with clock := choice.moment }).move backend choice.index choice.move with
      | none => system
      | some system => runFuel backend fuel system

end System

namespace Session

/-- More moves than an exchange makes. -/
def movesPerExchange : Nat := 64

/-- The result of a task, if it has one. -/
def taskResult? (timeout : Option Duration) (task : Task κ χ (Except Failure Response)) :
    Option (Except Failure Response) :=
  match task.phase, timeout with
  | .finished result, _ => some result
  | .abandoned, some limit => some (resultWithin limit none)
  | _, _ => none

/-- Send requests through their proxies, all at the same time. -/
def authenticateTogether (backend : Backend σ κ χ) (settings : Settings) (files : FileSystem)
    (requests : List (Url × Request)) (session : Session σ κ χ) :
    List (Option (Except Failure Response)) × Session σ κ χ :=
  let deadline := settings.timeout.map Duration.nanoseconds
  let task := fun (proxy, request) => Task.start deadline
    (Exchange.handshake settings files backend.library.isReentrant proxy request)
  let system : System σ κ χ (Except Failure Response) :=
    { session := session, clock := 0, tasks := requests.map task }
  let system := system.runFuel backend (movesPerExchange * requests.length)
  let results := system.tasks.map (taskResult? settings.timeout)
  (results, (results.filterMap id).foldl countResult system.session)

end Session

end ProxyHandshake
