import Std.Data.TreeMap.Basic
import DispatchServer.Failure

/-! An accelerator made of the host's own memory. Contexts, queues and buffers are entries of three
tables that share one handle counter, a word that starts over after the largest one; a creation is
refused by the same rules as on a real device. -/
namespace DispatchServer

/-- The kernel's answers to locking and unlocking the pages of a range; `none` is success. -/
structure PageLocks where
  lock : (address length : Nat) → Option Errno
  unlock : (address length : Nat) → Option Errno

/-- A kernel that refuses nothing. -/
def PageLocks.always : PageLocks := ⟨fun _ _ => none, fun _ _ => none⟩

structure CommandQueue where
  context : Handle
  device : DeviceId
  properties : QueueProperties
  deriving DecidableEq, Repr

structure HostBuffer where
  context : Handle
  address : Nat
  length : Nat
  locked : Bool
  deriving DecidableEq, Repr

/-- What exists, by its handle. -/
abbrev Table (α : Type) := Std.TreeMap Handle α

structure Host where
  devices : List Device
  lockPages : Bool
  next : UInt64
  contexts : Table (List DeviceId)
  queues : Table CommandQueue
  buffers : Table HostBuffer

namespace Host

/-- Devices numbered from the given position on; a device's identity is one more than that. -/
def simulated : (index : Nat) → List Nat → List Device
  | _, [] => []
  | index, size :: sizes =>
    ⟨index + 1, index, s!"host-cpu-{index}", size⟩ :: simulated (index + 1) sizes

def ofSizes (sizes : List Nat) (lockPages : Bool) : Host :=
  ⟨simulated 0 sizes, lockPages, 1, ∅, ∅, ∅⟩

def maxAlloc? (host : Host) (device : DeviceId) : Option Nat :=
  (host.devices.find? (·.id == device)).map (·.maxAlloc)

def contextDevices? (host : Host) (context : Handle) : Option (List DeviceId) :=
  host.contexts[context]?

def queue? (host : Host) (queue : Handle) : Option CommandQueue := host.queues[queue]?

def buffer? (host : Host) (buffer : Handle) : Option HostBuffer := host.buffers[buffer]?

/-- The handle that the next creation gets. -/
def handle (host : Host) : Handle := host.next.toNat

/-- The smallest limit among the known devices of a context. -/
def bufferLimit (host : Host) (members : List DeviceId) : Nat :=
  ((members.filterMap host.maxAlloc?).min?).getD 0

def createContext (host : Host) (devices : List DeviceId) :
    Except AcceleratorError (Handle × Host) :=
  if devices.isEmpty then .error .noDevices
  else match devices.find? (fun device => (host.maxAlloc? device).isNone) with
    | some unknown => .error (.deviceNotFound unknown)
    | none => .ok (host.handle, { host with
        next := host.next + 1
        contexts := host.contexts.insert host.handle devices })

def createQueue (host : Host) (context : Handle) (device : DeviceId)
    (properties : QueueProperties) : Except AcceleratorError (Handle × Host) :=
  match host.contextDevices? context with
  | none => .error (.invalidContext context)
  | some members =>
    if members.contains device then
      .ok (host.handle, { host with
        next := host.next + 1
        queues := host.queues.insert host.handle ⟨context, device, properties⟩ })
    else .error (.deviceNotFound device)

/-- What the kernel says to locking the pages of a new buffer, if they are locked at all. -/
def lockRefused? (host : Host) (locks : PageLocks) (address length : Nat) : Option Errno :=
  if host.lockPages then locks.lock address length else none

/-- Flags, context, size and page lock are checked in this order, before a handle is taken. -/
def createBuffer (host : Host) (locks : PageLocks) (context : Handle) (flags : MemFlags)
    (address length : Nat) : Except AcceleratorError (Handle × Host) :=
  if !flags.useHostPtr then .error (.invalidMemFlags flags)
  else match host.contextDevices? context with
    | none => .error (.invalidContext context)
    | some members =>
      let limit := host.bufferLimit members
      if length = 0 ∨ limit < length then .error (.invalidBufferSize length limit)
      else match host.lockRefused? locks address length with
        | some errno => .error (.pageLockFailed length errno)
        | none => .ok (host.handle, { host with
            next := host.next + 1
            buffers := host.buffers.insert host.handle
              ⟨context, address, length, host.lockPages⟩ })

/-- The buffer is gone even if its pages cannot be unlocked, and the kernel's refusal is given
beside the new state together with the address it was about. -/
def releaseBuffer (host : Host) (locks : PageLocks) (buffer : Handle) :
    Except AcceleratorError (Option (Nat × Errno) × Host) :=
  match host.buffer? buffer with
  | none => .error (.invalidBuffer buffer)
  | some held =>
    let refused := if held.locked then locks.unlock held.address held.length else none
    .ok (refused.map (held.address, ·),
      { host with buffers := host.buffers.erase buffer })

end Host

end DispatchServer
