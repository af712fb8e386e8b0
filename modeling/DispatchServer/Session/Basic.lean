import DispatchServer.Server

/-! Sessions: the main thread drives a queue or a server step by step. Server threads begin messages
only where a step lets them; a step that takes its time lets them wake up and take a message each,
but not begin it. With one server thread every answer is then determined. -/
namespace DispatchServer

/-- A spawner that refuses one index and dooms some others. -/
structure SpawnPlan where
  failAt : Option Nat
  panicAt : List Nat

def SpawnPlan.spawner (plan : SpawnPlan) : Spawner Unit := fun index state =>
  (if plan.failAt = some index then .refused "simulated spawn failure"
    else if plan.panicAt.contains index then .doomed "simulated thread panic"
    else .serving, state)

/-- What a step of a session shows. -/
inductive Result
  | ok
  | panicked (text : String)
  | error (error : ServerError)
  | status (status : ReplyStatus)
  | statuses (all : List ReplyStatus)
  | unknown
  | nothing
  | wouldBlock
  | taken (message : Message)
  | nothingHeld
  | descriptions (all : List (Option String))
  | number (n : Nat)
  | flag (b : Bool)
  | state (state : ServerState)
  | launched (pool : Pool)
  | settled
  | listening
  | outcome (joined drained : Nat)
  | report (requested started drained : Nat) (reason : Option ShutdownReason)
  | devices (positions : List (Option Nat))

/-- What the queue, its token and the coordinator look like from outside. -/
structure View where
  length : Nat
  closed : Bool
  cancelled : Bool
  state : ServerState
  reason : Option ShutdownReason
  deriving DecidableEq, Repr

def Shared.view (s : Shared) : View :=
  ⟨s.channel.length, s.closing, s.cancelled, s.state, s.reason⟩

def sortedLines (lines : List String) : List String :=
  lines.mergeSort fun a b => !decide (b < a)

/-- The machine with the numbers of threads that have a part of their own, and the messages that the
main thread has taken. The journal was shown up to a count of events; its lines are sorted when
several threads may have written them. -/
structure Session where
  world : World
  pool : Option Pool
  held : List Message
  waiters : List Nat
  listener : Option Nat
  shown : Nat
  crowded : Bool
  mixed : Bool

namespace Session

def ofWorld (world : World) (pool : Option Pool) : Session where
  world := world
  pool := pool
  held := []
  waiters := []
  listener := none
  shown := 0
  crowded := match pool with
    | none => false
    | some pool => 1 < pool.started
  mixed := false

def shared (session : Session) : Shared := session.world.shared

def history (session : Session) : History := session.world.shared.rig.history

/-- The main thread makes a call; `read` turns its answer into a result. -/
def call (session : Session) (frames : List Frame) (read : Answer → Result) : Result × Session :=
  let world := session.world.call mainNumber frames
  (match world.panic? mainNumber with
    | some text => .panicked text
    | none => read (world.answer mainNumber), { session with world := world })

/-- The started threads of a pool that is not joined. -/
def workers (session : Session) : List Nat :=
  match session.pool with
  | none => []
  | some pool => pool.threads

/-- Whose turn it is when the server threads run. Lowest first, and then all once more: one that
sleeps by then may have been woken by a later one. -/
def turns (session : Session) : List Nat := session.workers ++ session.workers

/-- Lets the server threads run. -/
def settle (session : Session) : Session :=
  { session with world := session.world.advanceAll session.turns }

/-- Gives the server threads the time to act on what has happened. -/
def linger (session : Session) : Session :=
  { session with world := session.world.approachAll session.workers }

/-- The main thread makes a call that waits for the server threads. -/
def callJoining (session : Session) (frames : List Frame) (read : Answer → Result) :
    Result × Session :=
  let world := (session.world.call mainNumber frames).advanceAll session.turns
  let world := world.advance mainNumber
  (match world.panic? mainNumber with
    | some text => .panicked text
    | none => read (world.answer mainNumber), { session with world := world })

/-- The journal since it was last shown. -/
def journal (session : Session) : List String :=
  let lines := (session.history.since session.shown).filterMap Event.journal?
  if session.crowded || session.mixed then sortedLines lines else lines

/-- The journal was shown. -/
def markShown (session : Session) : Session := { session with shown := session.history.size }

def enqueue (session : Session) (plan : Blueprint) : Result × Session :=
  let (m, shared) := session.shared.build plan
  { session with world := { session.world with shared := shared } }.call [.enqueue m] fun
    | .accepted => .ok
    | _ => .error .queueClosed

def status (session : Session) (name : String) : Result :=
  match session.shared.ledger.lastNamed? name with
  | none => .unknown
  | some ticket =>
    match session.shared.ledger.status? ticket with
    | none => .unknown
    | some status => .status status

def wait (session : Session) (name : String) : Result :=
  match session.status name with
  | .status .queued => .nothing
  | result => result

/-- One more thread waits for a reply. -/
def waitAside (session : Session) (name : String) : Result × Session :=
  match session.shared.ledger.lastNamed? name with
  | none => (.unknown, session)
  | some ticket =>
    let number := session.world.threads.length
    let waiter := Thread.calling "waiter" [.awaitReply ticket]
    let waiters := session.waiters ++ [number]
    (.number waiters.length, { session with
      world := (session.world.start waiter).advance number
      waiters := waiters })

def waitJoin (session : Session) : Result × Session :=
  let world := session.world.advanceAll session.waiters
  (.statuses (session.waiters.map fun number => match world.answer number with
    | .status status => status
    | _ => .queued), { session with world := world, waiters := [] })

def request (session : Session) (reason : ShutdownReason) : Result × Session :=
  session.call [.request reason] fun
    | .flag first => .flag first
    | _ => .ok

/-- Starts the thread that listens for signals. -/
def listen (session : Session) : Result × Session :=
  let number := session.world.threads.length
  (.listening, { session with
    world := (session.world.start (.calling signalThread [.listen])).advance number
    listener := some number })

/-- Sends a signal and lets the listener act on it. -/
def signal (session : Session) (signal : Signal) : Result × Session :=
  let world := session.world.signalled signal
  let world := match session.listener with
    | none => world
    | some number => world.advance number
  (.state world.shared.state, { session with world := world })

def loggingThreads (session : Session) : List String :=
  [mainThread, signalThread] ++ if session.crowded then [] else [workerName 0]

end Session

end DispatchServer
