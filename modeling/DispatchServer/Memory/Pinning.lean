import DispatchServer.DeviceSet
import DispatchServer.Memory.Zone

/-! Pinning the zones of a segment: each zone becomes a buffer of the context, and either all zones
are pinned or none stays so. -/
namespace DispatchServer.Rig

def pinZone (rig : Rig) (context : Handle) (address length : Nat) :
    Except ServerError Handle × Rig :=
  match rig.call (.createBuffer context .zone address length) with
  | (.ok buffer, rig) => (.ok buffer, rig.log (.zonePinned address length))
  | (.error source, rig) =>
    (.error (.zoneRegistration address length source), rig.log (.zoneRefused address length source))

/-- A release that fails is only logged; the memory is about to go away anyway. -/
def unpinZone (rig : Rig) (buffer : Handle) : Rig :=
  match rig.call (.releaseBuffer buffer) with
  | (.ok _, rig) => rig
  | (.error source, rig) => rig.log (.releaseFailed buffer source)

def unpinZones (rig : Rig) (buffers : List Handle) : Rig := buffers.foldl unpinZone rig

/-- Pins one more zone and remembers its buffer before those pinned earlier. -/
def pinNext (context : Handle) (address length : Nat) (state : Rig × List Handle) :
    Except ServerError Handle × Rig × List Handle :=
  match state.1.pinZone context address length with
  | (.ok buffer, rig) => (.ok buffer, rig, buffer :: state.2)
  | (.error error, rig) => (.error error, rig, state.2)

/-- Creates the device set and pins the whole segment in its context. If a zone cannot be pinned,
the zones pinned before it are released again, in the order in which they were pinned. -/
def initialise (rig : Rig) (devices : List Device) (segment : Segment) :
    Except ServerError (DeviceSet × ZoneTable) × Rig :=
  match DeviceSet.create devices rig with
  | (.error error, rig) => (.error error, rig)
  | (.ok set, rig) =>
    let rig := rig.log (.settingUpMemory set.zoneLength)
    match segment.setupZones set.zoneLength (pinNext set.context) (rig, []) with
    | (.error error, rig, pinned) => (.error error, rig.unpinZones pinned.reverse)
    | (.ok table, rig, _) =>
      (.ok (set, table), rig.log (.zonesPinned table.zones.length segment.size))

end DispatchServer.Rig
