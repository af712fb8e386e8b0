import DispatchServer.Session.Basic

/-! Sessions on a queue with its token, a coordinator and a few devices. -/
namespace DispatchServer

/-- What happens while several threads are blocked in a dequeue. -/
inductive Stimulus
  | cancel
  | close
  | request
  | enqueue (plans : List Blueprint)
  | none

inductive QueueStep
  | enqueue (plan : Blueprint)
  | status (name : String)
  | wait (name : String)
  | waitAside (name : String)
  | waitJoin
  | dequeue
  | process (held : Nat)
  | fail (held : Nat) (error : ServerError)
  | drop (held : Nat)
  | cancel
  | close
  | blocked (waiters : Nat) (stimulus : Stimulus)
  | request (reason : ShutdownReason)
  | launch (threads : Nat) (plan : SpawnPlan)
  | settle
  | join
  | finish
  | listen
  | signal (signal : Signal)
  | giveUp

/-- Whether a step takes so long that other threads act on what has happened before. -/
def QueueStep.lingers : QueueStep → Bool
  | wait _ | waitAside _ | waitJoin | blocked .. | listen | signal _ => true
  | _ => false

/-- What a step shows: its result, and the journal and the view where they can be told. -/
structure QueueEntry where
  result : Result
  journal : Option (List String)
  view : Option View

structure QueueSession extends Session where
  gone : Bool

namespace QueueSession

/-- A queue over so many devices of one mebibyte each. -/
def create (devices : Nat) : QueueSession :=
  let rig := Rig.ofHost (.ofSizes (List.replicate devices mebibyte) false) .always Faults.none
  let (set, rig) := DeviceSet.create rig.host.devices rig
  let set := match set with
    | .ok set => set
    | .error _ => ⟨0, [], []⟩
  let world := World.fresh { rig with history := .empty } set ⟨0, devices⟩
  { Session.ofWorld world none with gone := false }

/-- Takes the held message at a position and makes a call with it. -/
def useHeld (session : Session) (position : Nat) (frame : Message → Frame) : Result × Session :=
  match session.held[position]? with
  | none => (.nothingHeld, session)
  | some m =>
    { session with held := session.held.eraseIdx position }.call [frame m] fun _ => .ok

def dequeue (session : Session) : Result × Session :=
  let s := session.shared
  if s.channel.isEmpty && !s.closing && !s.cancelled then (.wouldBlock, session)
  else
    let (result, session) := session.call [.dequeue] fun
      | .received (some m) => .taken m
      | _ => .nothing
    match result with
    | .taken m => (result, { session with held := session.held ++ [m] })
    | _ => (result, session)

/-- Builds and enqueues messages one after the other, up to the first panic. -/
def enqueueAll (session : Session) : List Blueprint → Result × Session
  | [] => (.ok, session)
  | plan :: plans =>
    match session.enqueue plan with
    | (.panicked text, session) => (.panicked text, session)
    | (_, session) => enqueueAll session plans

def stimulate (session : Session) : Stimulus → Result × Session
  | .cancel => session.call [.cancel] fun _ => .ok
  | .close => session.call [.close] fun _ => .ok
  | .request => session.request .terminate
  | .enqueue plans => enqueueAll session plans
  | .none => (.ok, session)

/-- Descriptions in ascending order, with nothing before everything. -/
def descLe : Option Message → Option Message → Bool
  | none, _ => true
  | some _, none => false
  | some a, some b => !decide (b.plan.desc < a.plan.desc)

/-- So many threads are blocked in a dequeue while something happens. What they took is held, but
dropped if that panics. -/
def blocked (session : Session) (waiters : Nat) (stimulus : Stimulus) : Result × Session :=
  let first := session.world.threads.length
  let numbers := List.range' first waiters
  let world := numbers.foldl
    (fun world _ => world.start (.calling "dequeuer" [.dequeue])) session.world
  let (result, session) :=
    stimulate { session with world := world.advanceAll numbers } stimulus
  let world := session.world.advanceAll numbers
  let got := (numbers.map fun number => match world.answer number with
    | .received m => m
    | _ => none).mergeSort descLe
  let world := numbers.foldl (fun world number => world.assign number []) world
  match result with
  | .panicked text =>
    let shared := (got.filterMap id).foldl (fun shared m => shared.drop m true) world.shared
    (.panicked text, { session with world := { world with shared := shared } })
  | _ =>
    (.descriptions (got.map fun m => m.map (·.plan.desc)),
      { session with world := world, held := session.held ++ got.filterMap id })

def launch (session : Session) (threads : Nat) (plan : SpawnPlan) : Result × Session :=
  let (pool, world, _) := session.world.launch threads plan.spawner ()
  (.launched pool, { session with
    world := world
    pool := some pool
    crowded := session.crowded || decide (1 < pool.started) })

def join (session : Session) : Result × Session :=
  let (result, session) := session.callJoining [(session.pool.getD .none).joining] fun
    | .count joined => .number joined
    | _ => .ok
  (result, { session with pool := none })

def finish (session : Session) : Result × Session :=
  let (result, session) := session.callJoining (session.pool.getD .none).finishing fun
    | .outcome joined drained => .outcome joined drained
    | _ => .ok
  (result, { session with pool := none })

def kept (session : Session) : Bool :=
  session.listener.isSome || session.workers.any fun number => !session.world.finished number

/-- Drops whatever is left in the channel. -/
def empty (session : Session) : Session :=
  let left := session.shared.channel.toList
  let shared := { session.shared with channel := .empty }
  ({ session with world := { session.world with shared := shared } }.call
    (left.map Frame.discard) fun _ => .ok).2

def perform (session : Session) : QueueStep → Result × Session
  | .enqueue plan => session.enqueue plan
  | .status name => (session.status name, session)
  | .wait name => (session.wait name, session)
  | .waitAside name => session.waitAside name
  | .waitJoin => session.waitJoin
  | .dequeue => dequeue session
  | .process held => useHeld session held .process
  | .fail held error => useHeld session held (.fail · error)
  | .drop held => useHeld session held .discard
  | .cancel => session.call [.cancel] fun _ => .ok
  | .close => session.call [.close] fun
    | .count n => .number n
    | _ => .ok
  | .blocked waiters stimulus => blocked session waiters stimulus
  | .request reason => session.request reason
  | .launch threads plan => launch session threads plan
  | .settle => (.settled, session.settle)
  | .join => join session
  | .finish => finish session
  | .listen => session.listen
  | .signal signal => session.signal signal
  | .giveUp => (.ok, session)

/-- The queue ends, with everything in it, once it was given up and nobody keeps it. -/
def release (gone : Bool) (session : Session) : Session :=
  if gone && !kept session then empty session else session

/-- A step that takes its time gives it to the other threads before its result is known, and what
the step itself has done is seen by them too. -/
def step (session : QueueSession) (step : QueueStep) : QueueEntry × QueueSession :=
  let rest (basic : Session) : Session := if step.lingers then basic.linger else basic
  let (result, basic) := perform (release session.gone (rest session.toSession)) step
  let gone := session.gone || step matches .giveUp
  let basic := release gone (rest basic)
  let told := basic.workers.isEmpty || step matches .settle
  (⟨result, if told then some basic.journal else none,
      if told && !gone then some basic.shared.view else none⟩,
    { toSession := if told then basic.markShown else basic, gone := gone })

def steps (session : QueueSession) : List QueueStep → List QueueEntry × QueueSession
  | [] => ([], session)
  | first :: rest =>
    let (entry, session) := session.step first
    let (entries, session) := session.steps rest
    (entry :: entries, session)

/-- Cancels and joins a pool that is still there. -/
def conclude (session : QueueSession) : Session :=
  match session.pool with
  | none => session.toSession
  | some _ => (join ((session.call [.cancel] fun _ => .ok).2)).2

end QueueSession

end DispatchServer
