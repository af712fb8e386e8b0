import DispatchServer.Machine.Channel
import DispatchServer.Machine.Frame
import DispatchServer.Memory.Pinning
import DispatchServer.RoundRobin

/-! Everything that the threads share, and the atomic operations on it. The channel is an unbounded
queue whose sends fail once it is closed and which still hands out what it holds then; the token is
a flag and a wakeup; the coordinator is a state and a reason that is written once. -/
namespace DispatchServer

/-- Closing the queue has begun before its channel is sealed, and the token is cancelled before
those who wait for it are woken. Signals are pending in the order in which they are consumed. -/
structure Shared where
  rig : Rig
  devices : DeviceSet
  channel : Channel
  sealed : Bool
  closing : Bool
  cancelled : Bool
  woken : Bool
  state : ServerState
  reason : Option ShutdownReason
  ledger : Ledger
  robin : RoundRobin
  signals : List Signal

namespace Shared

def record (s : Shared) (event : Event) : Shared := { s with rig := s.rig.record event }

def log (s : Shared) (thread : String) (notice : Notice) : Shared :=
  s.record (.logged thread notice)

def write (s : Shared) (line : String) : Shared := s.record (.wrote line)

def build (s : Shared) (plan : Blueprint) : Message × Shared :=
  let (m, ledger) := s.ledger.issue plan
  (m, { s with ledger := ledger }.record (.built m.ticket))

def publish (s : Shared) (m : Message) (status : ReplyStatus) : Shared :=
  { s with ledger := s.ledger.publish m status }

def drop (s : Shared) (m : Message) (panicking : Bool) : Shared :=
  { s with ledger := s.ledger.drop m panicking }.record (.dropped m.ticket panicking)

def setState (s : Shared) (state : ServerState) : Shared :=
  { s with state := state }.record (.stateChanged state)

end Shared

end DispatchServer
