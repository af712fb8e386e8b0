import DispatchServer.History

/-! The accelerator as the server holds it: the host's tables behind a front that counts the calls
and may refuse any of them, with everything written to one history. -/
namespace DispatchServer

/-- The name of the thread that starts and stops the server. -/
def mainThread : String := "main"

/-- What a served call gives back besides the new tables. -/
structure Served where
  handle : Handle
  stuck : Option (Nat × Errno)
  host : Host

def Host.serve (host : Host) (locks : PageLocks) : Call → Except AcceleratorError Served
  | .createContext devices => (host.createContext devices).map fun (h, host) => ⟨h, none, host⟩
  | .createQueue context device properties =>
    (host.createQueue context device properties).map fun (h, host) => ⟨h, none, host⟩
  | .createBuffer context flags address length =>
    (host.createBuffer locks context flags address length).map fun (h, host) => ⟨h, none, host⟩
  | .releaseBuffer buffer =>
    (host.releaseBuffer locks buffer).map fun (stuck, host) => ⟨buffer, stuck, host⟩

/-- How often each kind of call was made, refused ones included. -/
structure CallCounts where
  contexts : Nat
  queues : Nat
  buffers : Nat
  releases : Nat
  deriving DecidableEq, Repr

namespace CallCounts

def zero : CallCounts := ⟨0, 0, 0, 0⟩

def of (counts : CallCounts) : Call → Nat
  | .createContext .. => counts.contexts
  | .createQueue .. => counts.queues
  | .createBuffer .. => counts.buffers
  | .releaseBuffer .. => counts.releases

def add (counts : CallCounts) : Call → CallCounts
  | .createContext .. => { counts with contexts := counts.contexts + 1 }
  | .createQueue .. => { counts with queues := counts.queues + 1 }
  | .createBuffer .. => { counts with buffers := counts.buffers + 1 }
  | .releaseBuffer .. => { counts with releases := counts.releases + 1 }

def toList (counts : CallCounts) : List Nat :=
  [counts.contexts, counts.queues, counts.buffers, counts.releases]

end CallCounts

/-- Which calls are refused out of hand: the number of earlier calls of the same kind and the call
decide. -/
abbrev Faults := Nat → Call → Option AcceleratorError

def Faults.none : Faults := fun _ _ => Option.none

/-- Faults that hit every context, one queue, one buffer and some releases. -/
structure FaultPlan where
  context : Bool
  queueAt : Option Nat
  bufferAt : Option Nat
  releaseAt : List Nat

def FaultPlan.faults (plan : FaultPlan) : Faults
  | _, .createContext _ => if plan.context then some .noDevices else none
  | n, .createQueue _ device _ =>
    if plan.queueAt = some n then some (.deviceNotFound device) else none
  | n, .createBuffer _ _ _ length =>
    if plan.bufferAt = some n then some (.invalidBufferSize length 0) else none
  | n, .releaseBuffer buffer =>
    if plan.releaseAt.contains n then some (.invalidBuffer buffer) else none

structure Rig where
  host : Host
  locks : PageLocks
  faults : Faults
  counts : CallCounts
  history : History

namespace Rig

def ofHost (host : Host) (locks : PageLocks) (faults : Faults) : Rig :=
  ⟨host, locks, faults, .zero, .empty⟩

def record (rig : Rig) (event : Event) : Rig := { rig with history := rig.history.record event }

def log (rig : Rig) (notice : Notice) : Rig := rig.record (.logged mainThread notice)

/-- One call. A refused call leaves the host's tables as they were. -/
def call (rig : Rig) (c : Call) : Except AcceleratorError Handle × Rig :=
  let counted := { rig with counts := rig.counts.add c }
  match rig.faults (rig.counts.of c) c with
  | some error => (.error error, counted.record (.called c (.error error)))
  | none =>
    match rig.host.serve rig.locks c with
    | .error error => (.error error, counted.record (.called c (.error error)))
    | .ok served =>
      let answered := { counted with host := served.host }.record (.called c (.ok served.handle))
      (.ok served.handle, match served.stuck with
        | none => answered
        | some (address, errno) => answered.log (.unlockFailed address errno))

/-- What is said of each buffer that is still there when the accelerator is given up. Its pages
stay as they are: the memory may be gone or belong to someone else by then. -/
def leaks (rig : Rig) : List Notice :=
  rig.host.buffers.toList.map fun (handle, buffer) =>
    .neverReleased handle buffer.address buffer.length

end Rig

end DispatchServer
