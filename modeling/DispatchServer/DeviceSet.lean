import DispatchServer.Accelerator.Rig

/-! The devices the server dispatches to, with one context over all of them and one command queue
for each. -/
namespace DispatchServer

/-- The queue at a position belongs to the device at that position. -/
structure DeviceSet where
  context : Handle
  devices : List Device
  queues : List Handle
  deriving DecidableEq, Repr

/-- The smallest limit of all devices, so that a zone of this length fits each of them. -/
def zoneLength? (devices : List Device) : Option Nat := (devices.map (·.maxAlloc)).min?

namespace DeviceSet

/-- Queues for the devices from a position on, up to the first refusal. -/
def createQueues (context : Handle) : (position : Nat) → List Device → Rig →
    Except ServerError (List Handle) × Rig
  | _, [], rig => (.ok [], rig)
  | position, device :: devices, rig =>
    match rig.call (.createQueue context device.id .dispatch) with
    | (.error source, rig) =>
      (.error (.queueCreation position source), rig.log (.queueFailed device.name source))
    | (.ok queue, rig) =>
      match createQueues context (position + 1) devices rig with
      | (.error error, rig) => (.error error, rig)
      | (.ok queues, rig) => (.ok (queue :: queues), rig)

/-- Any refusal aborts; there is no partial set. -/
def create (devices : List Device) (rig : Rig) : Except ServerError DeviceSet × Rig :=
  if devices.isEmpty then (.error .noDevices, rig.log .noDevices)
  else
    match rig.call (.createContext (devices.map (·.id))) with
    | (.error source, rig) => (.error (.contextCreation source), rig.log (.contextFailed source))
    | (.ok context, rig) =>
      match createQueues context 0 devices rig with
      | (.error error, rig) => (.error error, rig)
      | (.ok queues, rig) =>
        (.ok ⟨context, devices, queues⟩, rig.log (.contextCreated context devices.length))

def device? (set : DeviceSet) (position : Nat) : Option Device := set.devices[position]?

def queue? (set : DeviceSet) (position : Nat) : Option Handle := set.queues[position]?

def zoneLength (set : DeviceSet) : Nat := (zoneLength? set.devices).getD 0

end DeviceSet

end DispatchServer
