import Mathlib.Algebra.Group.Nat.Defs
import Mathlib.Data.List.Nodup
import Std.Data.TreeMap.Lemmas
import DispatchServer.Memory.Pinning

/-! What calls do to the accelerator. A served call adds one entry under the handle that the counter
stands at, or erases the one that it releases; a refused call does nothing but leave a trace in the
history. -/
namespace DispatchServer

def Call.creations : Call → Nat
  | .releaseBuffer _ => 0
  | _ => 1

namespace Host

/-- What a served call does. -/
inductive Serves (host : Host) (locks : PageLocks) : Call → Served → Prop
  | context (devices : List DeviceId) : Serves host locks (.createContext devices)
      ⟨host.handle, none, { host with
        next := host.next + 1
        contexts := host.contexts.insert host.handle devices }⟩
  | queue (context : Handle) (device : DeviceId) (properties : QueueProperties) :
      Serves host locks (.createQueue context device properties)
        ⟨host.handle, none, { host with
          next := host.next + 1
          queues := host.queues.insert host.handle ⟨context, device, properties⟩ }⟩
  | buffer (context : Handle) (flags : MemFlags) (address length : Nat) :
      Serves host locks (.createBuffer context flags address length)
        ⟨host.handle, none, { host with
          next := host.next + 1
          buffers := host.buffers.insert host.handle
            ⟨context, address, length, host.lockPages⟩ }⟩
  | release (buffer : Handle) (stuck : Option (Nat × Errno)) :
      Serves host locks (.releaseBuffer buffer)
        ⟨buffer, stuck, { host with buffers := host.buffers.erase buffer }⟩

theorem serves_of_serve {host : Host} {locks : PageLocks} {c : Call} {served : Served}
    (h : host.serve locks c = .ok served) : host.Serves locks c served := by
  cases c with
  | createContext devices =>
    simp only [serve, createContext] at h
    (repeat' split at h) <;> cases h
    exact .context devices
  | createQueue context device properties =>
    simp only [serve, createQueue] at h
    (repeat' split at h) <;> cases h
    exact .queue context device properties
  | createBuffer context flags address length =>
    simp only [serve, createBuffer] at h
    (repeat' split at h) <;> cases h
    exact .buffer context flags address length
  | releaseBuffer buffer =>
    simp only [serve, releaseBuffer] at h
    split at h <;> cases h
    exact .release buffer _

theorem getElem?_insert {α : Type} (table : Table α) (key h : Handle) (entry : α) :
    (table.insert key entry)[h]? = if key = h then some entry else table[h]? := by
  simp [Std.TreeMap.getElem?_insert]

theorem getElem?_erase {α : Type} (table : Table α) (key h : Handle) :
    (table.erase key)[h]? = if key = h then none else table[h]? := by
  simp [Std.TreeMap.getElem?_erase]

/-- The handle that the counter will stand at after so many creations. -/
def upcoming (host : Host) (i : Nat) : Handle := (host.next.toNat + i) % 2 ^ 64

variable {host host' : Host} {m n : Nat}

@[simp] theorem upcoming_zero (host : Host) : host.upcoming 0 = host.handle :=
  Nat.mod_eq_of_lt host.next.toNat_lt

theorem upcoming_of_next (next : host'.next = host.next + 1) (i : Nat) :
    host'.upcoming i = host.upcoming (1 + i) := by
  rw [upcoming, upcoming, next, UInt64.toNat_add]
  show ((host.next.toNat + 1) % 2 ^ 64 + i) % 2 ^ 64 = _
  omega

/-- The counter does not come back to a handle before it has been through all words. -/
theorem upcoming_inj {i j : Nat} (first : i < 2 ^ 64) (second : j < 2 ^ 64)
    (same : host.upcoming i = host.upcoming j) : i = j := by
  have same : (host.next.toNat + i) % 2 ^ 64 = (host.next.toNat + j) % 2 ^ 64 := same
  omega

theorem map_upcoming (next : host'.next = host.next + 1) (n : Nat) :
    host.handle :: (List.range n).map host'.upcoming =
      (List.range (n + 1)).map host.upcoming := by
  rw [List.range_succ_eq_map, List.map_cons, List.map_map, upcoming_zero]
  refine congrArg _ (List.map_congr_left fun i _ => ?_)
  rw [upcoming_of_next next, Nat.add_comm]
  rfl

theorem nodup_upcoming (host : Host) (few : n ≤ 2 ^ 64) :
    ((List.range n).map host.upcoming).Nodup :=
  List.nodup_range.map_on fun _ first _ second same => upcoming_inj
    (Nat.lt_of_lt_of_le (List.mem_range.1 first) few)
    (Nat.lt_of_lt_of_le (List.mem_range.1 second) few) same

/-- So many handles were given out, and nothing has changed under the others. -/
structure Draws (host host' : Host) (n : Nat) : Prop where
  upcoming : ∀ i, host'.upcoming i = host.upcoming (n + i)
  contexts : ∀ h, (∀ i < n, host.upcoming i ≠ h) → host'.contextDevices? h = host.contextDevices? h
  queues : ∀ h, (∀ i < n, host.upcoming i ≠ h) → host'.queue? h = host.queue? h
  buffers : ∀ h, (∀ i < n, host.upcoming i ≠ h) → host'.buffer? h = host.buffer? h

theorem Draws.refl (host : Host) : host.Draws host 0 :=
  ⟨fun i => by rw [Nat.zero_add], fun _ _ => rfl, fun _ _ => rfl, fun _ _ => rfl⟩

theorem Draws.trans {a b c : Host} (first : a.Draws b m) (second : b.Draws c n) :
    a.Draws c (m + n) := by
  have before {h : Handle} (other : ∀ i < m + n, a.upcoming i ≠ h) : ∀ i < m, a.upcoming i ≠ h :=
    fun i less => other i (Nat.lt_add_right n less)
  have behind {h : Handle} (other : ∀ i < m + n, a.upcoming i ≠ h) :
      ∀ i < n, b.upcoming i ≠ h := fun i less => by
    rw [first.upcoming]
    exact other _ (Nat.add_lt_add_left less m)
  exact ⟨fun i => by rw [second.upcoming, first.upcoming, Nat.add_assoc],
    fun h other => (second.contexts h (behind other)).trans (first.contexts h (before other)),
    fun h other => (second.queues h (behind other)).trans (first.queues h (before other)),
    fun h other => (second.buffers h (behind other)).trans (first.buffers h (before other))⟩

theorem Serves.draws {locks : PageLocks} {c : Call} {served : Served}
    (serves : host.Serves locks c served) (creates : ∀ buffer, c ≠ .releaseBuffer buffer) :
    host.Draws served.host 1 := by
  have apart {h : Handle} (other : ∀ i < 1, host.upcoming i ≠ h) : host.handle ≠ h := by
    rw [← upcoming_zero]
    exact other 0 Nat.one_pos
  cases serves with
  | context devices =>
    refine ⟨upcoming_of_next rfl, fun h other => ?_, fun _ _ => rfl, fun _ _ => rfl⟩
    exact (getElem?_insert _ _ _ _).trans (if_neg (apart other))
  | queue context device properties =>
    refine ⟨upcoming_of_next rfl, fun _ _ => rfl, fun h other => ?_, fun _ _ => rfl⟩
    exact (getElem?_insert _ _ _ _).trans (if_neg (apart other))
  | buffer context flags address length =>
    refine ⟨upcoming_of_next rfl, fun _ _ => rfl, fun _ _ => rfl, fun h other => ?_⟩
    exact (getElem?_insert _ _ _ _).trans (if_neg (apart other))
  | release buffer => exact absurd rfl (creates buffer)

structure Spare (host : Host) (n : Nat) : Prop where
  few : n ≤ 2 ^ 64
  contexts : ∀ i < n, host.contextDevices? (host.upcoming i) = none
  queues : ∀ i < n, host.queue? (host.upcoming i) = none
  buffers : ∀ i < n, host.buffer? (host.upcoming i) = none

theorem Spare.mono (spare : host.Spare n) (less : m ≤ n) : host.Spare m where
  few := Nat.le_trans less spare.few
  contexts i inside := spare.contexts i (Nat.lt_of_lt_of_le inside less)
  queues i inside := spare.queues i (Nat.lt_of_lt_of_le inside less)
  buffers i inside := spare.buffers i (Nat.lt_of_lt_of_le inside less)

theorem Spare.draws (spare : host.Spare (m + n)) (draws : host.Draws host' m) : host'.Spare n := by
  have few := spare.few
  have inside {i : Nat} (less : i < n) : m + i < m + n := Nat.add_lt_add_left less m
  have apart {i : Nat} (less : i < n) (j : Nat) (drawn : j < m) :
      host.upcoming j ≠ host.upcoming (m + i) := fun same => by
    have := upcoming_inj (by omega) (by omega) same
    omega
  refine ⟨by omega, fun i less => ?_, fun i less => ?_, fun i less => ?_⟩ <;>
    rw [draws.upcoming]
  · exact (draws.contexts _ (apart less)).trans (spare.contexts _ (inside less))
  · exact (draws.queues _ (apart less)).trans (spare.queues _ (inside less))
  · exact (draws.buffers _ (apart less)).trans (spare.buffers _ (inside less))

theorem Serves.spare {locks : PageLocks} {c : Call} {served : Served}
    (serves : host.Serves locks c served) (spare : host.Spare (c.creations + n)) :
    served.host.Spare n := by
  cases c with
  | releaseBuffer buffer =>
    cases serves
    rw [Call.creations, Nat.zero_add] at spare
    refine ⟨spare.few, spare.contexts, spare.queues, fun i less => ?_⟩
    refine (getElem?_erase _ _ _).trans ?_
    split
    · rfl
    · exact spare.buffers i less
  | _ => exact spare.draws (serves.draws (by simp))

/-- Hosts that calls have brought about, and how many handles were given out. -/
inductive Arises : Nat → Host → Prop
  | fresh (sizes : List Nat) (lockPages : Bool) : Arises 0 (.ofSizes sizes lockPages)
  | served {created : Nat} {host : Host} {locks : PageLocks} {c : Call} {served : Served}
      (before : host.Arises created) (h : host.serve locks c = .ok served) :
      Arises (created + c.creations) served.host

/-- Up to the size of a word no handle is given out twice. -/
theorem Arises.spare {created : Nat} (arises : host.Arises created)
    (few : created + n ≤ 2 ^ 64) : host.Spare n := by
  induction arises generalizing n with
  | fresh sizes lockPages =>
    refine ⟨by omega, ?_, ?_, ?_⟩ <;> intros <;>
      simp [contextDevices?, queue?, buffer?, ofSizes]
  | served before h ih => exact (serves_of_serve h).spare (ih (by omega))

end Host

@[simp] def Event.pinned? : Event → Option Handle
  | called (.createBuffer ..) (.ok buffer) => some buffer
  | _ => none

@[simp] def Event.released? : Event → Option (Handle × Bool)
  | called (.releaseBuffer buffer) answer => some (buffer, answer.isOk)
  | _ => none

namespace Rig

def Tells (rig rig' : Rig) (pinned : List Handle) (released : List (Handle × Bool)) : Prop :=
  ∃ new, rig'.history.events = rig.history.events ++ new ∧
    new.filterMap Event.pinned? = pinned ∧ new.filterMap Event.released? = released

theorem Tells.trans {a b c : Rig} {pinned pinned' : List Handle}
    {released released' : List (Handle × Bool)} (first : a.Tells b pinned released)
    (second : b.Tells c pinned' released') :
    a.Tells c (pinned ++ pinned') (released ++ released') := by
  obtain ⟨new, events, rfl, rfl⟩ := first
  obtain ⟨new', events', rfl, rfl⟩ := second
  exact ⟨new ++ new', by rw [events', events, List.append_assoc], by simp, by simp⟩

theorem Tells.unique {a b : Rig} {pinned pinned' : List Handle}
    {released released' : List (Handle × Bool)} (first : a.Tells b pinned released)
    (second : a.Tells b pinned' released') : pinned = pinned' ∧ released = released' := by
  obtain ⟨new, events, rfl, rfl⟩ := first
  obtain ⟨new', events', rfl, rfl⟩ := second
  obtain rfl := List.append_cancel_left (events.symm.trans events')
  exact ⟨rfl, rfl⟩

theorem tells_record (rig : Rig) (event : Event) :
    rig.Tells (rig.record event) event.pinned?.toList event.released?.toList := by
  refine ⟨[event], by simp [record], ?_, ?_⟩
  · rw [List.filterMap_cons, List.filterMap_nil]
    split <;> rename_i h <;> rw [h] <;> rfl
  · rw [List.filterMap_cons, List.filterMap_nil]
    split <;> rename_i h <;> rw [h] <;> rfl

theorem tells_log (rig : Rig) (notice : Notice) : rig.Tells (rig.log notice) [] [] :=
  rig.tells_record _

/-- A call is refused and changes nothing, or it is served. -/
inductive Calls (rig : Rig) (c : Call) : Except AcceleratorError Handle → Rig → Prop
  | refused (error : AcceleratorError) {rig' : Rig} (host : rig'.host = rig.host)
      (tells : rig.Tells rig' [] (Event.called c (.error error)).released?.toList) :
      Calls rig c (.error error) rig'
  | answered {served : Served} {rig' : Rig} (serves : rig.host.Serves rig.locks c served)
      (host : rig'.host = served.host)
      (tells : rig.Tells rig' (Event.called c (.ok served.handle)).pinned?.toList
        (Event.called c (.ok served.handle)).released?.toList) :
      Calls rig c (.ok served.handle) rig'

theorem calls_of_call {rig rig' : Rig} {c : Call} {answer : Except AcceleratorError Handle}
    (h : rig.call c = (answer, rig')) : rig.Calls c answer rig' := by
  have unpinned (error : AcceleratorError) : (Event.called c (.error error)).pinned? = none := by
    cases c <;> rfl
  have told (other : Rig) (same : other.history = rig.history) (event : Event) :
      rig.Tells (other.record event) event.pinned?.toList event.released?.toList := by
    obtain ⟨new, events, tells⟩ := other.tells_record event
    exact ⟨new, by rw [events, same], tells⟩
  have refused (error : AcceleratorError) :
      rig.Calls c (.error error)
        ({ rig with counts := rig.counts.add c }.record (.called c (.error error))) := by
    refine .refused error rfl ?_
    have tells := told { rig with counts := rig.counts.add c } rfl (.called c (.error error))
    rwa [unpinned] at tells
  unfold call at h
  split at h
  · cases h
    exact refused _
  · split at h
    · cases h
      exact refused _
    · rename_i served serves
      cases h
      refine .answered (Host.serves_of_serve serves) ?_ ?_
      · split <;> rfl
      · have tells := told { rig with counts := rig.counts.add c, host := served.host } rfl
          (.called c (.ok served.handle))
        split
        · exact tells
        · rename_i address errno _
          have tells := tells.trans (tells_log _ (.unlockFailed address errno))
          rwa [List.append_nil, List.append_nil] at tells

/-- The first device gets a queue under the next handle, and then the others get theirs. -/
theorem createQueues_cases {rig rig' : Rig} {context position : Nat} {device : Device}
    {devices : List Device} {queues : List Handle}
    (h : DeviceSet.createQueues context position (device :: devices) rig = (.ok queues, rig')) :
    ∃ mid later, rig.Calls (.createQueue context device.id .dispatch) (.ok rig.host.handle) mid ∧
      mid.host = { rig.host with
        next := rig.host.next + 1
        queues := rig.host.queues.insert rig.host.handle ⟨context, device.id, .dispatch⟩ } ∧
      DeviceSet.createQueues context (position + 1) devices mid = (.ok later, rig') ∧
      queues = rig.host.handle :: later := by
  unfold DeviceSet.createQueues at h
  split at h <;> rename_i mid called
  · cases h
  · split at h <;> rename_i created <;> cases h
    have calls := calls_of_call called
    cases calls with
    | answered serves host tells =>
      cases serves
      exact ⟨mid, _, .answered (.queue ..) host tells, host, created, rfl⟩

/-- The context has the next handle, and the queues come after it. -/
theorem create_cases {rig rig' : Rig} {devices : List Device} {set : DeviceSet}
    (h : DeviceSet.create devices rig = (.ok set, rig')) :
    ∃ mid last queues, rig.Calls (.createContext (devices.map (·.id))) (.ok rig.host.handle) mid ∧
      mid.host = { rig.host with
        next := rig.host.next + 1
        contexts := rig.host.contexts.insert rig.host.handle (devices.map (·.id)) } ∧
      DeviceSet.createQueues rig.host.handle 0 devices mid = (.ok queues, last) ∧
      set = ⟨rig.host.handle, devices, queues⟩ ∧
      rig' = last.log (.contextCreated rig.host.handle devices.length) := by
  unfold DeviceSet.create at h
  split at h
  · cases h
  · split at h <;> rename_i mid called
    · cases h
    · split at h <;> rename_i last created <;> cases h
      have calls := calls_of_call called
      cases calls with
      | answered serves host tells =>
        cases serves
        exact ⟨mid, last, _, .answered (.context ..) host tells, host, created, rfl, rfl⟩

/-- The device set cannot be created, or one of the zones cannot be pinned and those before it are
released again, or all zones are pinned. -/
inductive Initialises (rig : Rig) (devices : List Device) (segment : Segment) :
    Except ServerError (DeviceSet × ZoneTable) → Rig → Prop
  | uncreated {error : ServerError} {rig' : Rig}
      (created : DeviceSet.create devices rig = (.error error, rig')) :
      Initialises rig devices segment (.error error) rig'
  | unpinned {set : DeviceSet} {next mid : Rig} {error : ServerError} {pinned : List Handle}
      (created : DeviceSet.create devices rig = (.ok set, next))
      (setup : segment.setupZones set.zoneLength (pinNext set.context)
        (next.log (.settingUpMemory set.zoneLength), []) = (.error error, mid, pinned)) :
      Initialises rig devices segment (.error error) (mid.unpinZones pinned.reverse)
  | pinned {set : DeviceSet} {next mid : Rig} {table : ZoneTable} {pinned : List Handle}
      (created : DeviceSet.create devices rig = (.ok set, next))
      (setup : segment.setupZones set.zoneLength (pinNext set.context)
        (next.log (.settingUpMemory set.zoneLength), []) = (.ok table, mid, pinned)) :
      Initialises rig devices segment (.ok (set, table))
        (mid.log (.zonesPinned table.zones.length segment.size))

theorem initialises_of_initialise {rig rig' : Rig} {devices : List Device} {segment : Segment}
    {result : Except ServerError (DeviceSet × ZoneTable)}
    (h : rig.initialise devices segment = (result, rig')) :
    rig.Initialises devices segment result rig' := by
  unfold initialise at h
  split at h <;> rename_i created
  · cases h
    exact .uncreated created
  · dsimp only at h
    split at h <;> rename_i setup <;> cases h
    · exact .unpinned created setup
    · exact .pinned created setup

end Rig

end DispatchServer
