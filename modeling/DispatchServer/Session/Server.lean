import DispatchServer.Session.Basic

/-! Sessions on a whole server, from its start to its end and beyond: what producers hold keeps
answering after the server is gone. -/
namespace DispatchServer

inductive ServerStep
  | enqueue (plan : Blueprint)
  | submit (plan : Blueprint)
  | select
  | produce (threads times : Nat) (plan : Blueprint)
  | status (name : String)
  | wait (name : String)
  | waitAside (name : String)
  | waitJoin
  | request (reason : ShutdownReason)
  | settle
  | listen
  | signal (signal : Signal)
  | waitForShutdown

/-- Whether a step takes so long that the server threads act on what has happened before. -/
def ServerStep.lingers : ServerStep → Bool
  | produce .. | wait _ | waitAside _ | waitJoin | listen | signal _ => true
  | _ => false

/-- What a step shows: its result, how many buffers are pinned, and the journal and the stage of the
server's life where they can be told. -/
structure ServerEntry where
  result : Result
  pinned : Nat
  journal : Option (List String)
  stage : Option (ServerState × Option ShutdownReason)

structure ServerSession extends Session where
  ending : Option (List Frame)

namespace ServerSession

def ofServer (server : Server) : ServerSession :=
  { Session.ofWorld server.world (some server.pool) with ending := some server.ending }

def rig (session : Session) : Rig := session.world.shared.rig

def pinned (session : Session) : Nat := (rig session).host.buffers.size

def submit (session : Session) (plan : Blueprint) : Result × Session :=
  session.call [.submit plan] fun
    | .device position => .number position
    | _ => .error .queueClosed

def select (session : Session) : Result × Session :=
  session.call [.select] fun
    | .device position => .number position
    | _ => .ok

/-- Refused submissions first, then devices in ascending order: the order of concurrent threads is
their own affair. -/
def tally (positions : List (Option Nat)) : List (Option Nat) :=
  positions.filter (·.isNone) ++ ((positions.filterMap id).mergeSort).map some

def produce (session : Session) (threads times : Nat) (plan : Blueprint) : Result × Session :=
  let numbers := List.range' session.world.threads.length threads
  let world := numbers.foldl
    (fun world _ => world.start (.calling "producer" [.produce plan times []])) session.world
  let world := world.advanceAll numbers
  (.devices (tally (numbers.flatMap fun number => match world.answer number with
    | .devices positions => positions
    | _ => [])),
    { session with world := world, mixed := session.mixed || decide (1 < threads) })

/-- Waits for the server to end, with the server threads running meanwhile. -/
def waitForShutdown (session : Session) (frames : List Frame) : Result × Session :=
  let (result, session) := session.callJoining frames fun
    | .report requested started drained reason => .report requested started drained reason
    | _ => .ok
  (result, { session with pool := none })

def perform (session : Session) (ending : List Frame) : ServerStep → Result × Session
  | .enqueue plan => session.enqueue plan
  | .submit plan => submit session plan
  | .select => select session
  | .produce threads times plan => produce session threads times plan
  | .status name => (session.status name, session)
  | .wait name => (session.wait name, session)
  | .waitAside name => session.waitAside name
  | .waitJoin => session.waitJoin
  | .request reason => session.request reason
  | .settle => (.settled, session.settle)
  | .listen => session.listen
  | .signal signal => session.signal signal
  | .waitForShutdown => waitForShutdown session ending

def step (session : ServerSession) (step : ServerStep) : ServerEntry × ServerSession :=
  let rest (basic : Session) : Session := if step.lingers then basic.linger else basic
  let (result, basic) := perform (rest session.toSession) (session.ending.getD []) step
  let basic := rest basic
  let told := basic.workers.isEmpty || step matches .settle
  let staged := told || step matches .request _ || step matches .signal _
  let shared := basic.shared
  (⟨result, pinned basic, if told then some basic.journal else none,
      if staged then some (shared.state, shared.reason) else none⟩,
    { toSession := if told then basic.markShown else basic
      ending := if step matches .waitForShutdown then none else session.ending })

def steps (session : ServerSession) : List ServerStep → List ServerEntry × ServerSession
  | [] => ([], session)
  | first :: rest =>
    let (entry, session) := session.step first
    let (entries, session) := session.steps rest
    (entry :: entries, session)

/-- Ends a server that is still there. -/
def conclude (session : ServerSession) : Session :=
  match session.ending with
  | none => session.toSession
  | some frames => (waitForShutdown (session.request .terminate).2 frames).2

end ServerSession

end DispatchServer
