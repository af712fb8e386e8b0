import DispatchServer.Failure

/-! A shared segment and its split into zones. A device accepts buffers only up to a limit far below
the size of the segment, so the segment is carved into zones that are registered one by one. -/
namespace DispatchServer

structure Segment where
  base : Nat
  size : Nat
  deriving DecidableEq, Repr

def Segment.unmappable : Nat := 0x800000000000

/-- Maps a segment at the address that the kernel chose for it. -/
def Segment.allocate (base size : Nat) : Except ServerError Segment :=
  if size = 0 then .error (.sharedMemory .emptySegment)
  else if Segment.unmappable ≤ size then .error (.sharedMemory (.mapFailed size .outOfMemory))
  else .ok ⟨base, size⟩

/-- Offsets are distances from the start of the segment. -/
structure Zone where
  index : Nat
  offset : Nat
  length : Nat
  buffer : Handle
  deriving DecidableEq, Repr

structure ZoneTable where
  base : Nat
  zoneLength : Nat
  zones : List Zone
  deriving DecidableEq, Repr

namespace Segment

def zoneCount (segment : Segment) (zoneLength : Nat) : Nat :=
  segment.size / zoneLength + if segment.size % zoneLength = 0 then 0 else 1

variable {σ : Type}

/-- Registers the next zones in address order; the first refusal ends it. -/
def registerZones (segment : Segment) (zoneLength : Nat)
    (register : Nat → Nat → σ → Except ServerError Handle × σ) :
    (remaining index : Nat) → σ → Except ServerError (List Zone) × σ
  | 0, _, state => (.ok [], state)
  | remaining + 1, index, state =>
    let offset := index * zoneLength
    let length := min zoneLength (segment.size - offset)
    match register (segment.base + offset) length state with
    | (.error error, state) => (.error error, state)
    | (.ok buffer, state) =>
      match registerZones segment zoneLength register remaining (index + 1) state with
      | (.error error, state) => (.error error, state)
      | (.ok zones, state) => (.ok (⟨index, offset, length, buffer⟩ :: zones), state)

/-- Splits the segment into zones of the given length, of which the last may be shorter. The
callback gets the address and the length of each zone and keeps a state of its own. -/
def setupZones (segment : Segment) (zoneLength : Nat)
    (register : Nat → Nat → σ → Except ServerError Handle × σ) (state : σ) :
    Except ServerError ZoneTable × σ :=
  if zoneLength = 0 then (.error (.sharedMemory .emptyZone), state)
  else
    match registerZones segment zoneLength register (segment.zoneCount zoneLength) 0 state with
    | (.error error, state) => (.error error, state)
    | (.ok zones, state) => (.ok ⟨segment.base, zoneLength, zones⟩, state)

end Segment

namespace ZoneTable

def get? (table : ZoneTable) (index : Nat) : Option Zone := table.zones[index]?

/-- Whether a zone of this table holds the byte at an address. -/
def holds (table : ZoneTable) (address : Nat) (zone : Zone) : Bool :=
  table.base + zone.offset ≤ address && address < table.base + zone.offset + zone.length

/-- The zone that holds the byte at an address, found by one division. -/
def zoneFor? (table : ZoneTable) (address : Nat) : Option Zone :=
  if address < table.base then none
  else
    let offset := address - table.base
    match table.zones[offset / table.zoneLength]? with
    | none => none
    | some zone => if offset < zone.offset + zone.length then some zone else none

/-- The same by looking at one zone after the other. -/
def search? (table : ZoneTable) (address : Nat) : Option Zone :=
  table.zones.find? (table.holds address)

def buffers (table : ZoneTable) : List Handle := table.zones.map (·.buffer)

end ZoneTable

end DispatchServer
