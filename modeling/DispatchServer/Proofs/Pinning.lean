import Mathlib.Order.Bounds.Basic
import DispatchServer.Proofs.Handles
import DispatchServer.Proofs.Zones

/-! Who gives the accelerator back what. The setup pins one buffer for each zone, and whatever it
has pinned when it fails it releases again; all that others have there stays as it is. -/
namespace DispatchServer

/-- The handles that the setup asks for: one for the context, one for the queue of each device, and
one for the buffer of each zone. -/
def Segment.demand (segment : Segment) (devices : List Device) : Nat :=
  1 + devices.length + segment.zoneCount ((zoneLength? devices).getD 0)

theorem Segment.of_allocate {base size : Nat} {segment : Segment}
    (h : allocate base size = .ok segment) : segment = ⟨base, size⟩ ∧ size < unmappable := by
  unfold allocate at h
  split at h
  · cases h
  · split at h <;> cases h
    rename_i mappable
    exact ⟨rfl, Nat.lt_of_not_le mappable⟩

theorem zoneLength?_eq_some_iff {devices : List Device} {length : Nat} :
    zoneLength? devices = some length ↔
      IsLeast {max | ∃ d ∈ devices, d.maxAlloc = max} length := by
  rw [zoneLength?, List.min?_eq_some_iff]
  simp [IsLeast, lowerBounds]

theorem DeviceSet.isLeast_zoneLength {set : DeviceSet} (positive : 0 < set.zoneLength) :
    IsLeast {max | ∃ d ∈ set.devices, d.maxAlloc = max} set.zoneLength := by
  rw [zoneLength] at positive ⊢
  cases known : zoneLength? set.devices with
  | none => simp [known] at positive
  | some length => exact zoneLength?_eq_some_iff.1 known

namespace Rig

/-- What was there is still there, with the same contents. -/
structure Keeps (rig rig' : Rig) : Prop where
  contexts : ∀ h devices, rig.host.contextDevices? h = some devices →
    rig'.host.contextDevices? h = some devices
  queues : ∀ h queue, rig.host.queue? h = some queue → rig'.host.queue? h = some queue
  buffers : ∀ h buffer, rig.host.buffer? h = some buffer → rig'.host.buffer? h = some buffer

theorem Keeps.trans {a b c : Rig} (first : a.Keeps b) (second : b.Keeps c) : a.Keeps c where
  contexts h devices here := second.contexts h devices (first.contexts h devices here)
  queues h queue here := second.queues h queue (first.queues h queue here)
  buffers h buffer here := second.buffers h buffer (first.buffers h buffer here)

theorem Keeps.of_host {rig rig' : Rig} (host : rig'.host = rig.host) : rig.Keeps rig' :=
  ⟨by simp [host], by simp [host], by simp [host]⟩

theorem keeps_of_draws {rig rig' : Rig} {n : Nat} (draws : rig.host.Draws rig'.host n)
    (spare : rig.host.Spare n) : rig.Keeps rig' where
  contexts h devices here := by
    rw [draws.contexts h fun i less same => ?_, here]
    simp [← same, spare.contexts i less] at here
  queues h queue here := by
    rw [draws.queues h fun i less same => ?_, here]
    simp [← same, spare.queues i less] at here
  buffers h buffer here := by
    rw [draws.buffers h fun i less same => ?_, here]
    simp [← same, spare.buffers i less] at here

structure Prepares (rig rig' : Rig) (drawn : Nat) : Prop where
  tells : rig.Tells rig' [] []
  draws : rig.host.Draws rig'.host drawn
  buffers : rig'.host.buffers = rig.host.buffers
  lockPages : rig'.host.lockPages = rig.host.lockPages

variable {rig rig' : Rig} {m n : Nat}

theorem Prepares.trans {a b c : Rig} (first : a.Prepares b m) (second : b.Prepares c n) :
    a.Prepares c (m + n) where
  tells := first.tells.trans second.tells
  draws := first.draws.trans second.draws
  buffers := second.buffers.trans first.buffers
  lockPages := second.lockPages.trans first.lockPages

theorem Prepares.buffer? (prepares : rig.Prepares rig' n) (h : Handle) :
    rig'.host.buffer? h = rig.host.buffer? h :=
  congrArg (·[h]?) prepares.buffers

theorem Prepares.of_host (host : rig'.host = rig.host) (tells : rig.Tells rig' [] []) :
    rig.Prepares rig' 0 :=
  ⟨tells, by rw [host]; exact .refl _, by rw [host], by rw [host]⟩

theorem prepares_log (rig : Rig) (notice : Notice) : rig.Prepares (rig.log notice) 0 :=
  .of_host rfl (rig.tells_log notice)

theorem Calls.prepares {c : Call} {answer : Except AcceleratorError Handle}
    (calls : rig.Calls c answer rig') (kind : (∃ devices, c = .createContext devices) ∨
      ∃ context device properties, c = .createQueue context device properties) :
    ∃ drawn ≤ 1, rig.Prepares rig' drawn := by
  cases calls with
  | refused error host tells =>
    refine ⟨0, Nat.zero_le 1, .of_host host ?_⟩
    rcases kind with ⟨_, rfl⟩ | ⟨_, _, _, rfl⟩ <;> exact tells
  | answered serves host tells =>
    have draws := host ▸ serves.draws (by rcases kind with ⟨_, rfl⟩ | ⟨_, _, _, rfl⟩ <;> simp)
    rcases kind with ⟨_, rfl⟩ | ⟨_, _, _, rfl⟩ <;> cases serves <;>
      exact ⟨1, Nat.le_refl 1, tells, draws, by rw [host], by rw [host]⟩

theorem prepares_createQueues {context position : Nat} {devices : List Device}
    {result : Except ServerError (List Handle)}
    (h : DeviceSet.createQueues context position devices rig = (result, rig')) :
    ∃ drawn ≤ devices.length, rig.Prepares rig' drawn := by
  induction devices generalizing position rig result rig' with
  | nil =>
    cases h
    exact ⟨0, Nat.le_refl 0, .of_host rfl ⟨[], by simp, rfl, rfl⟩⟩
  | cons device devices ih =>
    unfold DeviceSet.createQueues at h
    split at h <;> rename_i next called
    all_goals
      obtain ⟨one, few, first⟩ := (calls_of_call called).prepares (.inr ⟨_, _, _, rfl⟩)
      simp only [List.length_cons]
    · cases h
      exact ⟨one + 0, by omega, first.trans (prepares_log _ _)⟩
    · split at h <;> rename_i created <;> cases h
      all_goals
        obtain ⟨more, few', rest⟩ := ih created
        exact ⟨one + more, by omega, first.trans rest⟩

theorem prepares_create {devices : List Device} {result : Except ServerError DeviceSet}
    (h : DeviceSet.create devices rig = (result, rig')) :
    ∃ drawn ≤ 1 + devices.length, rig.Prepares rig' drawn := by
  unfold DeviceSet.create at h
  split at h
  · cases h
    exact ⟨0, Nat.zero_le _, prepares_log _ _⟩
  · split at h <;> rename_i next called
    all_goals
      obtain ⟨one, few, first⟩ := (calls_of_call called).prepares (.inl ⟨_, rfl⟩)
    · cases h
      exact ⟨one + 0, by omega, first.trans (prepares_log _ _)⟩
    · split at h <;> rename_i created <;> cases h
      all_goals obtain ⟨more, few', queues⟩ := prepares_createQueues created
      · exact ⟨one + more, by omega, first.trans queues⟩
      · exact ⟨one + more + 0, by omega, (first.trans queues).trans (prepares_log _ _)⟩

def zoneBuffer (rig : Rig) (context : Handle) (base : Nat) (zone : Zone) : HostBuffer :=
  ⟨context, base + zone.offset, zone.length, rig.host.lockPages⟩

/-- The zones were pinned one after the other, under the next handles. -/
structure Pins (context : Handle) (base : Nat) (rig rig' : Rig) (zones : List Zone) : Prop where
  tells : rig.Tells rig' (zones.map (·.buffer)) []
  handles : zones.map (·.buffer) = (List.range zones.length).map rig.host.upcoming
  others : ∀ h, h ∉ zones.map (·.buffer) → rig'.host.buffer? h = rig.host.buffer? h
  zoned : zones.length ≤ 2 ^ 64 → ∀ zone ∈ zones,
    rig'.host.buffer? zone.buffer = some (rig.zoneBuffer context base zone)
  contexts : rig'.host.contexts = rig.host.contexts
  queues : rig'.host.queues = rig.host.queues

variable {context base : Nat}

theorem Pins.nil (host : rig'.host = rig.host) (tells : rig.Tells rig' [] []) :
    Pins context base rig rig' [] :=
  ⟨tells, rfl, by simp [host], by simp, by rw [host], by rw [host]⟩

/-- One zone more is pinned, before the others. -/
theorem Pins.cons {mid : Rig} {zone : Zone} {zones : List Zone}
    (handle : zone.buffer = rig.host.handle)
    (host : mid.host = { rig.host with
      next := rig.host.next + 1
      buffers := rig.host.buffers.insert rig.host.handle (rig.zoneBuffer context base zone) })
    (tells : rig.Tells mid [zone.buffer] []) (pins : Pins context base mid rig' zones) :
    Pins context base rig rig' (zone :: zones) := by
  have next : mid.host.next = rig.host.next + 1 := by rw [host]
  have buffers (h : Handle) : mid.host.buffer? h =
      if rig.host.handle = h then some (rig.zoneBuffer context base zone)
      else rig.host.buffer? h := by
    rw [host]
    exact Host.getElem?_insert _ _ _ _
  have same : mid.zoneBuffer context base = rig.zoneBuffer context base := by
    unfold zoneBuffer
    rw [host]
  refine ⟨tells.trans pins.tells, ?_, fun h other => ?_, fun few => ?_, by rw [pins.contexts, host],
    by rw [pins.queues, host]⟩
  · rw [List.map_cons, pins.handles, handle, List.length_cons, Host.map_upcoming next]
  · rw [List.map_cons, List.mem_cons, not_or, handle] at other
    rw [pins.others h other.2, buffers, if_neg (Ne.symm other.1)]
  · rw [List.length_cons] at few
    refine List.forall_mem_cons.2 ⟨?_, fun later member => ?_⟩
    · -- The others have handles of their own.
      have apart : zone.buffer ∉ zones.map (·.buffer) := by
        rw [pins.handles, handle, ← Host.upcoming_zero, List.mem_map]
        rintro ⟨i, inside, again⟩
        have inside := List.mem_range.1 inside
        rw [Host.upcoming_of_next next] at again
        have := Host.upcoming_inj (by omega) (by omega) again
        omega
      rw [pins.others _ apart, buffers, if_pos handle.symm]
    · rw [pins.zoned (Nat.le_of_succ_le few) later member, same]

/-- One call that pins a zone, and what is logged of it. -/
theorem pinNext_cases {pinned pinned' : List Handle} {address length : Nat}
    {result : Except ServerError Handle}
    (h : pinNext context address length (rig, pinned) = (result, rig', pinned')) :
    (∃ error, result = .error error ∧ pinned' = pinned ∧ rig'.host = rig.host ∧
      rig.Tells rig' [] []) ∨
    (result = .ok rig.host.handle ∧ pinned' = rig.host.handle :: pinned ∧
      rig'.host = { rig.host with
        next := rig.host.next + 1
        buffers := rig.host.buffers.insert rig.host.handle
          ⟨context, address, length, rig.host.lockPages⟩ } ∧
      rig.Tells rig' [rig.host.handle] []) := by
  unfold pinNext pinZone at h
  cases called : rig.call (.createBuffer context .zone address length) with
  | mk answer mid =>
    have calls := calls_of_call called
    rw [called] at h
    cases calls with
    | refused error host tells =>
      cases h
      refine .inl ⟨_, rfl, rfl, host, ?_⟩
      simpa using tells.trans (tells_log _ _)
    | answered serves host tells =>
      cases serves
      cases h
      refine .inr ⟨rfl, rfl, host, ?_⟩
      simpa using tells.trans (tells_log _ _)

/-- However many zones are pinned before one is refused, the list that the callback keeps names
their buffers, the latest first; and if none is refused they are the zones of the table. -/
theorem pins_registerZones {segment : Segment} {zoneLength remaining index : Nat}
    {pinned pinned' : List Handle} {result : Except ServerError (List Zone)}
    (h : segment.registerZones zoneLength (pinNext context) remaining index (rig, pinned) =
      (result, rig', pinned')) :
    ∃ zones, Pins context segment.base rig rig' zones ∧ zones.length ≤ remaining ∧
      pinned' = (zones.map (·.buffer)).reverse ++ pinned ∧
      ∀ table, result = .ok table → table = zones := by
  -- Over the zones that remain, for any rig, since each zone leaves another one behind.
  induction remaining generalizing index rig rig' pinned pinned' result with
  | zero =>
    cases h
    exact ⟨[], .nil rfl ⟨[], by simp, rfl, rfl⟩, Nat.le_refl 0, rfl, by simp⟩
  | succ remaining ih =>
    unfold Segment.registerZones at h
    cases called : pinNext context (segment.base + index * zoneLength)
      (min zoneLength (segment.size - index * zoneLength)) (rig, pinned) with
    | mk answer state =>
      obtain ⟨mid, kept⟩ := state
      simp only [called] at h
      rcases pinNext_cases called with ⟨error, rfl, rfl, host, tells⟩ | ⟨rfl, rfl, host, tells⟩
      · cases h
        exact ⟨[], .nil host tells, Nat.zero_le _, rfl, by simp⟩
      · let zone : Zone := ⟨index, index * zoneLength,
          min zoneLength (segment.size - index * zoneLength), rig.host.handle⟩
        cases rest : segment.registerZones zoneLength (pinNext context) remaining (index + 1)
          (mid, rig.host.handle :: pinned) with
        | mk answer state =>
          obtain ⟨last, kept⟩ := state
          simp only [rest] at h
          obtain ⟨zones, pins, few, kept, table⟩ := ih rest
          have more : Pins context segment.base rig last (zone :: zones) :=
            .cons rfl host tells pins
          have few : (zone :: zones).length ≤ remaining + 1 := Nat.succ_le_succ few
          cases answer with
          | error error =>
            cases h
            exact ⟨zone :: zones, more, few, by rw [kept]; simp [zone], by simp⟩
          | ok zones' =>
            cases h
            obtain rfl := table zones' rfl
            exact ⟨zone :: zones', more, few, by rw [kept]; simp [zone], by simp [zone]⟩

theorem pins_setupZones {segment : Segment} {zoneLength : Nat} {pinned : List Handle}
    {result : Except ServerError ZoneTable}
    (h : segment.setupZones zoneLength (pinNext context) (rig, []) = (result, rig', pinned)) :
    ∃ zones, Pins context segment.base rig rig' zones ∧
      zones.length ≤ segment.zoneCount zoneLength ∧ pinned.reverse = zones.map (·.buffer) ∧
      ∀ table, result = .ok table → table.zones = zones := by
  unfold Segment.setupZones at h
  split at h
  · cases h
    exact ⟨[], .nil rfl ⟨[], by simp, rfl, rfl⟩, Nat.zero_le _, rfl, by simp⟩
  · split at h <;> rename_i registered <;> cases h
    all_goals
      obtain ⟨zones, pins, few, kept, table⟩ := pins_registerZones registered
      refine ⟨zones, pins, few, by simp [kept], ?_⟩
    · simp
    · rintro _ ⟨rfl⟩
      exact table _ rfl

theorem pins_of_setup {devices : List Device} {segment : Segment} {set : DeviceSet}
    {next mid : Rig} {pinned : List Handle} {answer : Except ServerError ZoneTable}
    (created : DeviceSet.create devices rig = (.ok set, next))
    (setup : segment.setupZones set.zoneLength (pinNext set.context)
      (next.log (.settingUpMemory set.zoneLength), []) = (answer, mid, pinned)) :
    ∃ drawn zones, drawn + zones.length ≤ segment.demand devices ∧ zones.length ≤ segment.size ∧
      rig.Prepares (next.log (.settingUpMemory set.zoneLength)) drawn ∧
      Pins set.context segment.base (next.log (.settingUpMemory set.zoneLength)) mid zones ∧
      pinned.reverse = zones.map (·.buffer) ∧
      ∀ table, answer = .ok table → table.zones = zones := by
  obtain ⟨drawn, few, prepares⟩ := prepares_create created
  obtain ⟨zones, pins, count, kept, table⟩ := pins_setupZones setup
  obtain ⟨_, _, _, _, _, _, rfl, _⟩ := create_cases created
  exact ⟨drawn, zones, Nat.add_le_add few count, count.trans (segment.zoneCount_le _),
    prepares.trans (prepares_log _ _), pins, kept, table⟩

/-- Each buffer is released once, in the given order, and is gone unless its release failed. -/
structure Unpins (rig rig' : Rig) (released : List (Handle × Bool)) : Prop where
  tells : rig.Tells rig' [] released
  buffers : ∀ h, rig'.host.buffer? h =
    if (h, true) ∈ released then none else rig.host.buffer? h
  contexts : rig'.host.contexts = rig.host.contexts
  queues : rig'.host.queues = rig.host.queues

theorem unpins_unpinZone (rig : Rig) (buffer : Handle) :
    ∃ worked, Unpins rig (rig.unpinZone buffer) [(buffer, worked)] := by
  unfold unpinZone
  cases called : rig.call (.releaseBuffer buffer) with
  | mk answer mid =>
    cases calls_of_call called with
    | refused error host tells =>
      refine ⟨false, tells.trans (tells_log _ _), fun h => ?_, ?_, ?_⟩
      · rw [if_neg (by simp)]
        simp only [log, record, host]
      · simp only [log, record, host]
      · simp only [log, record, host]
    | answered serves host tells =>
      cases serves
      refine ⟨true, tells, fun h => ?_, by rw [host], by rw [host]⟩
      rw [host]
      simp [Host.buffer?, Host.getElem?_erase, eq_comm]

theorem unpins_unpinZones (rig : Rig) (buffers : List Handle) :
    ∃ released, Unpins rig (rig.unpinZones buffers) released ∧
      released.map Prod.fst = buffers := by
  induction buffers generalizing rig with
  | nil => exact ⟨[], ⟨⟨[], by simp [unpinZones], rfl, rfl⟩, by simp [unpinZones], rfl, rfl⟩, rfl⟩
  | cons buffer buffers ih =>
    obtain ⟨worked, first⟩ := rig.unpins_unpinZone buffer
    obtain ⟨released, rest, named⟩ := ih (rig.unpinZone buffer)
    refine ⟨(buffer, worked) :: released, ⟨first.tells.trans rest.tells, fun h => ?_, ?_, ?_⟩,
      by rw [List.map_cons, named]⟩
    · show ((rig.unpinZone buffer).unpinZones buffers).host.buffer? h = _
      rw [rest.buffers, first.buffers]
      by_cases later : (h, true) ∈ released
      · rw [if_pos later, if_pos (List.mem_cons_of_mem _ later)]
      · rw [if_neg later]
        simp only [List.mem_cons, List.not_mem_nil, or_false, later]
    · exact rest.contexts.trans first.contexts
    · exact rest.queues.trans first.queues

namespace Pins

variable {zones : List Zone}

theorem log (pins : Pins context base rig rig' zones) (notice : Notice) :
    Pins context base rig (rig'.log notice) zones :=
  { pins with tells := by simpa using pins.tells.trans (tells_log _ notice) }

theorem nodup (pins : Pins context base rig rig' zones) (few : zones.length ≤ 2 ^ 64) :
    (zones.map (·.buffer)).Nodup := by
  rw [pins.handles]
  exact rig.host.nodup_upcoming few

theorem fresh (pins : Pins context base rig rig' zones) (spare : rig.host.Spare zones.length)
    {h : Handle} (member : h ∈ zones.map (·.buffer)) : rig.host.buffer? h = none := by
  rw [pins.handles] at member
  obtain ⟨i, inside, rfl⟩ := List.mem_map.1 member
  exact spare.buffers i (List.mem_range.1 inside)

/-- A pinned buffer is that of its zone; the others are as before. -/
theorem buffer_iff (pins : Pins context base rig rig' zones) (spare : rig.host.Spare zones.length)
    (h : Handle) (buffer : HostBuffer) :
    rig'.host.buffer? h = some buffer ↔ rig.host.buffer? h = some buffer ∨
      ∃ zone ∈ zones, zone.buffer = h ∧ buffer = rig.zoneBuffer context base zone := by
  by_cases member : h ∈ zones.map (·.buffer)
  · rw [pins.fresh spare member]
    constructor
    · intro here
      obtain ⟨zone, among, rfl⟩ := List.mem_map.1 member
      rw [pins.zoned spare.few zone among] at here
      exact .inr ⟨zone, among, rfl, (Option.some.inj here).symm⟩
    · rintro (none | ⟨zone, among, rfl, rfl⟩)
      · cases none
      · exact pins.zoned spare.few zone among
  · rw [pins.others h member]
    refine ⟨.inl, ?_⟩
    rintro (here | ⟨zone, among, rfl, -⟩)
    · exact here
    · exact absurd (List.mem_map_of_mem among) member

theorem keeps (pins : Pins context base rig rig' zones) (spare : rig.host.Spare zones.length) :
    rig.Keeps rig' where
  contexts h devices here := by
    rw [Host.contextDevices?, pins.contexts]
    exact here
  queues h queue here := by
    rw [Host.queue?, pins.queues]
    exact here
  buffers h buffer here := (pins.buffer_iff spare h buffer).2 (.inl here)

/-- Once the zones are released, what is left is what was there before, and what would not be
released. -/
theorem released {mid : Rig} {released : List (Handle × Bool)}
    (pins : Pins context base rig mid zones) (spare : rig.host.Spare zones.length)
    (unpins : Unpins mid rig' released) (named : released.map Prod.fst = zones.map (·.buffer)) :
    rig.Keeps rig' ∧ ∀ h, (rig'.host.buffer? h).isSome ↔
      (rig.host.buffer? h).isSome ∨ (h, false) ∈ released := by
  have zoned {h : Handle} {worked : Bool} (member : (h, worked) ∈ released) :
      h ∈ zones.map (·.buffer) := by
    rw [← named]
    exact List.mem_map_of_mem (f := Prod.fst) member
  have unzoned {h : Handle} {buffer : HostBuffer} (here : rig.host.buffer? h = some buffer) :
      h ∉ zones.map (·.buffer) := by
    intro member
    rw [pins.fresh spare member] at here
    cases here
  have once {h : Handle} (gone : (h, true) ∈ released) : (h, false) ∉ released := by
    intro left
    have nodup := named ▸ pins.nodup spare.few
    simpa using List.inj_on_of_nodup_map nodup gone left rfl
  have keeps := pins.keeps spare
  refine ⟨⟨fun h devices here => ?_, fun h queue here => ?_, fun h buffer here => ?_⟩, fun h => ?_⟩
  · rw [Host.contextDevices?, unpins.contexts]
    exact keeps.contexts h devices here
  · rw [Host.queue?, unpins.queues]
    exact keeps.queues h queue here
  · rw [unpins.buffers, if_neg fun gone => unzoned here (zoned gone)]
    exact (pins.buffer_iff spare h buffer).2 (.inl here)
  · rw [unpins.buffers]
    split
    · rename_i gone
      simp [pins.fresh spare (zoned gone), once gone]
    · rename_i kept
      rw [Option.isSome_iff_exists, Option.isSome_iff_exists]
      constructor
      · rintro ⟨buffer, here⟩
        rcases (pins.buffer_iff spare h buffer).1 here with here | ⟨zone, member, rfl, -⟩
        · exact .inl ⟨buffer, here⟩
        · right
          have named' : zone.buffer ∈ released.map Prod.fst := by
            rw [named]
            exact List.mem_map_of_mem member
          obtain ⟨⟨_, worked⟩, member, rfl⟩ := List.mem_map.1 named'
          cases worked
          · exact member
          · exact absurd member kept
      · rintro (⟨buffer, here⟩ | left)
        · exact ⟨buffer, (pins.buffer_iff spare h buffer).2 (.inl here)⟩
        · obtain ⟨zone, member, rfl⟩ := List.mem_map.1 (zoned left)
          exact ⟨_, (pins.buffer_iff spare _ _).2 (.inr ⟨zone, member, rfl, rfl⟩)⟩

end Pins

end Rig

/-- As long as the counter has words left that it has not given out: a failed setup has released
every buffer that it had pinned, once each and in that order, and leaves nothing but what it could
not release. A setup that succeeds has pinned one buffer for each zone, and giving the zones up
releases each of them once; its zones tile the segment, as long as the smallest device allows. What
others have there is kept. -/
theorem initialise_accounts {rig rig' : Rig} {devices : List Device} {segment : Segment}
    {result : Except ServerError (DeviceSet × ZoneTable)} {created : Nat}
    (arises : rig.host.Arises created) (few : created + segment.demand devices ≤ 2 ^ 64)
    (h : rig.initialise devices segment = (result, rig')) :
    rig.Keeps rig' ∧ match result with
      | .error _ => ∃ pinned released,
        (∃ mid, rig.Tells mid pinned [] ∧ mid.Tells rig' [] released) ∧
        released.map Prod.fst = pinned ∧ pinned.Nodup ∧
        ∀ h, (rig'.host.buffer? h).isSome ↔
          (rig.host.buffer? h).isSome ∨ (h, false) ∈ released
      | .ok (set, table) =>
        (∃ length, 0 < length ∧ IsLeast {max | ∃ d ∈ devices, d.maxAlloc = max} length ∧
          table.Tiles segment length) ∧
        rig.Tells rig' table.buffers [] ∧ table.buffers.Nodup ∧
        (∀ buffer ∈ table.buffers, rig.host.buffer? buffer = none) ∧
        (∀ h buffer, rig'.host.buffer? h = some buffer ↔ rig.host.buffer? h = some buffer ∨
          ∃ zone ∈ table.zones, zone.buffer = h ∧
            buffer = ⟨set.context, segment.base + zone.offset, zone.length, rig.host.lockPages⟩) ∧
        ∃ released, rig'.Tells (rig'.unpinZones table.buffers) [] released ∧
          released.map Prod.fst = table.buffers ∧ rig.Keeps (rig'.unpinZones table.buffers) ∧
          ∀ h, ((rig'.unpinZones table.buffers).host.buffer? h).isSome ↔
            (rig.host.buffer? h).isSome ∨ (h, false) ∈ released := by
  have spare {n : Nat} (less : n ≤ segment.demand devices) : rig.host.Spare n :=
    (arises.spare few).mono less
  cases Rig.initialises_of_initialise h with
  | uncreated createdNot =>
    obtain ⟨drawn, less, prepares⟩ := Rig.prepares_create createdNot
    have keeps := Rig.keeps_of_draws prepares.draws
      (spare (less.trans (Nat.le_add_right _ _)))
    exact ⟨keeps, [], [], ⟨rig, ⟨[], by simp, rfl, rfl⟩, prepares.tells⟩, rfl,
      List.nodup_nil, fun h => by simp [prepares.buffer?]⟩
  | @unpinned set next mid error pinned createdSet setup =>
    obtain ⟨drawn, zones, less, -, prepares, pins, kept, -⟩ := Rig.pins_of_setup createdSet setup
    have before := Rig.keeps_of_draws prepares.draws
      (spare ((Nat.le_add_right _ _).trans less))
    have spare := (spare less).draws prepares.draws
    obtain ⟨released, unpins, named⟩ := mid.unpins_unpinZones pinned.reverse
    obtain ⟨keeps, live⟩ := pins.released spare unpins (named.trans kept)
    refine ⟨before.trans keeps, pinned.reverse, released, ⟨mid, ?_, unpins.tells⟩,
      named, kept ▸ pins.nodup spare.few, fun h => by rw [live, prepares.buffer?]⟩
    simpa [kept] using prepares.tells.trans pins.tells
  | @pinned set next mid table pinned createdSet setup =>
    obtain ⟨drawn, zones, less, -, prepares, pins, -, zoned⟩ := Rig.pins_of_setup createdSet setup
    obtain rfl := zoned table rfl
    have before := Rig.keeps_of_draws prepares.draws
      (spare ((Nat.le_add_right _ _).trans less))
    have spare := (spare less).draws prepares.draws
    have laid := ZoneTable.laid_of_setupZones setup
    have pins := pins.log (.zonesPinned table.zones.length segment.size)
    obtain ⟨released, unpins, named⟩ := Rig.unpins_unpinZones
      (mid.log (.zonesPinned table.zones.length segment.size)) table.buffers
    obtain ⟨keeps, live⟩ := pins.released spare unpins named
    refine ⟨before.trans (pins.keeps spare), ⟨set.zoneLength, laid.positive, ?_, laid.tiles⟩, ?_,
      pins.nodup spare.few, fun buffer member => ?_, fun h buffer => ?_, released,
      unpins.tells, named, before.trans keeps, fun h => by rw [live, prepares.buffer?]⟩
    · obtain ⟨_, _, _, _, _, _, rfl, _⟩ := Rig.create_cases createdSet
      exact DeviceSet.isLeast_zoneLength laid.positive
    · simpa [ZoneTable.buffers] using prepares.tells.trans pins.tells
    · rw [← prepares.buffer?]
      exact pins.fresh spare member
    · rw [pins.buffer_iff spare, prepares.buffer?]
      simp only [Rig.zoneBuffer, prepares.lockPages]

def Rig.faulty (bufferAt : Option Nat) (releaseAt : List Nat) : Rig :=
  .ofHost (.ofSizes [10] false) .always (FaultPlan.faults ⟨false, none, bufferAt, releaseAt⟩)

/-- The third of three zones cannot be pinned and the first one not released; and if nothing is
refused at first, the second zone cannot be released at the end. -/
theorem initialise_accounts_of_faults :
    (∃ rig', Rig.initialise (.faulty (some 2) [0]) (Host.simulated 0 [10]) ⟨0x1000, 25⟩ =
        (.error (.zoneRegistration 0x1014 5 (.invalidBufferSize 5 0)), rig') ∧
      (∃ mid, Rig.Tells (.faulty (some 2) [0]) mid [3, 4] [] ∧
        mid.Tells rig' [] [(3, false), (4, true)]) ∧
      ∀ h, (rig'.host.buffer? h).isSome ↔ h = 3) ∧
    ∃ set table rig', Rig.initialise (.faulty none [1]) (Host.simulated 0 [10]) ⟨0x1000, 25⟩ =
        (.ok (set, table), rig') ∧
      table.Tiles ⟨0x1000, 25⟩ 10 ∧ table.buffers = [3, 4, 5] ∧
      Rig.Tells (.faulty none [1]) rig' [3, 4, 5] [] ∧
      (∀ h buffer, rig'.host.buffer? h = some buffer ↔ ∃ zone ∈ table.zones, zone.buffer = h ∧
        buffer = ⟨1, 0x1000 + zone.offset, zone.length, false⟩) ∧
      ∀ h, ((rig'.unpinZones [3, 4, 5]).host.buffer? h).isSome ↔ h = 4 := by
  have empty (bufferAt releaseAt h) : (Rig.faulty bufferAt releaseAt).host.buffer? h = none := by
    simp [Rig.faulty, Rig.ofHost, Host.ofSizes, Host.buffer?]
  constructor
  · have failed : (Rig.initialise (.faulty (some 2) [0]) (Host.simulated 0 [10]) ⟨0x1000, 25⟩).1 =
        .error (.zoneRegistration 0x1014 5 (.invalidBufferSize 5 0)) := by rfl
    obtain ⟨-, pinned, released, ⟨mid, pins, unpins⟩, -, -, left⟩ :=
      initialise_accounts (.fresh [10] false) (by decide) (Prod.ext failed rfl)
    have told : Rig.Tells (.faulty (some 2) [0]) (Rig.initialise (.faulty (some 2) [0])
        (Host.simulated 0 [10]) ⟨0x1000, 25⟩).2 [3, 4] [(3, false), (4, true)] :=
      ⟨_, rfl, by rfl, by rfl⟩
    obtain ⟨rfl, rfl⟩ : pinned = [3, 4] ∧ released = [(3, false), (4, true)] := by
      simpa using (pins.trans unpins).unique told
    exact ⟨_, Prod.ext failed rfl, ⟨mid, pins, unpins⟩, fun h => by rw [left, empty]; simp⟩
  · have worked : (Rig.initialise (.faulty none [1]) (Host.simulated 0 [10]) ⟨0x1000, 25⟩).1 =
        .ok (⟨1, Host.simulated 0 [10], [2]⟩, ⟨0x1000, 10,
          [⟨0, 0, 10, 3⟩, ⟨1, 10, 10, 4⟩, ⟨2, 20, 5, 5⟩]⟩) := by rfl
    obtain ⟨-, ⟨length, -, -, tiles⟩, pins, -, -, live, released, unpins, -, -, left⟩ :=
      initialise_accounts (.fresh [10] false) (by decide) (Prod.ext worked rfl)
    have told : Rig.Tells (Rig.initialise (.faulty none [1]) (Host.simulated 0 [10]) ⟨0x1000, 25⟩).2
        (Rig.unpinZones (Rig.initialise (.faulty none [1]) (Host.simulated 0 [10])
          ⟨0x1000, 25⟩).2 [3, 4, 5]) [] [(3, true), (4, false), (5, true)] :=
      ⟨_, rfl, by rfl, by rfl⟩
    obtain rfl := tiles.zoneLength
    obtain ⟨-, rfl⟩ := unpins.unique told
    refine ⟨_, _, _, Prod.ext worked rfl, tiles, rfl, pins, fun h buffer => ?_,
      fun h => (left h).trans ?_⟩
    · rw [live, empty]
      simp only [reduceCtorEq, false_or]
      rfl
    · rw [empty]
      simp

end DispatchServer
