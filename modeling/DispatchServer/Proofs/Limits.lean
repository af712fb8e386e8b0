import Mathlib.Order.Bounds.Basic
import Mathlib.Order.Nat
import DispatchServer.Proofs.Pinning
import DispatchServer.Proofs.Startup

/-! Whether the memory can be set up. Where no call is refused out of hand, this is a matter of
limits alone: those that the given devices name, those that the host itself knows of them, and the
size of the segment. -/
namespace DispatchServer

namespace Host

theorem lt_id_of_simulated {index : Nat} {sizes : List Nat} {device : Device}
    (here : device ∈ simulated index sizes) : index < device.id := by
  induction sizes generalizing index with
  | nil => cases here
  | cons size sizes ih =>
    rcases List.mem_cons.1 here with rfl | here
    · exact Nat.lt_succ_self index
    · exact Nat.lt_of_succ_lt (ih here)

theorem find?_simulated {index : Nat} {sizes : List Nat} {device : Device}
    (here : device ∈ simulated index sizes) :
    (simulated index sizes).find? (·.id == device.id) = some device := by
  induction sizes generalizing index with
  | nil => cases here
  | cons size sizes ih =>
    rcases List.mem_cons.1 here with rfl | here
    · simp [simulated]
    · have other : index + 1 ≠ device.id := Nat.ne_of_lt (lt_id_of_simulated here)
      simpa [simulated, other] using ih here

theorem Arises.devices {host : Host} {created : Nat} (arises : host.Arises created) :
    ∃ sizes, host.devices = simulated 0 sizes := by
  induction arises with
  | fresh sizes lockPages => exact ⟨sizes, rfl⟩
  | served before h ih =>
    obtain ⟨sizes, devices⟩ := ih
    exact ⟨sizes, by cases serves_of_serve h <;> exact devices⟩

theorem Arises.maxAlloc? {host : Host} {created : Nat} (arises : host.Arises created)
    {device : Device} (here : device ∈ host.devices) :
    host.maxAlloc? device.id = some device.maxAlloc := by
  obtain ⟨sizes, devices⟩ := arises.devices
  rw [devices] at here
  rw [Host.maxAlloc?, devices, find?_simulated here]
  rfl

theorem bufferLimit_eq {host : Host} {devices : List Device} {limit : Nat}
    (least : IsLeast {max | ∃ d ∈ devices, host.maxAlloc? d.id = some max} limit) :
    host.bufferLimit (devices.map (·.id)) = limit := by
  have smallest : ((devices.map (·.id)).filterMap host.maxAlloc?).min? = some limit := by
    refine List.min?_eq_some_iff.2 ⟨?_, fun max member => least.2 ?_⟩
    · simpa using least.1
    · simpa using member
  rw [bufferLimit, smallest]
  rfl

end Host

namespace Rig

/-- No call is refused out of hand, and if pages are locked, those of the segment can be. -/
structure Willing (rig : Rig) (segment : Segment) : Prop where
  faults : rig.faults = .none
  locks : rig.host.lockPages = true → ∀ address length, segment.base ≤ address →
    address + length ≤ segment.base + segment.size → rig.locks.lock address length = none

structure Follows (rig rig' : Rig) : Prop where
  devices : rig'.host.devices = rig.host.devices
  lockPages : rig'.host.lockPages = rig.host.lockPages
  contexts : rig'.host.contexts = rig.host.contexts
  locks : rig'.locks = rig.locks
  faults : rig'.faults = rig.faults

variable {rig rig' : Rig} {segment : Segment} {devices : List Device}

theorem Follows.refl (rig : Rig) : rig.Follows rig := ⟨rfl, rfl, rfl, rfl, rfl⟩

theorem Follows.trans {a b c : Rig} (first : a.Follows b) (second : b.Follows c) : a.Follows c where
  devices := second.devices.trans first.devices
  lockPages := second.lockPages.trans first.lockPages
  contexts := second.contexts.trans first.contexts
  locks := second.locks.trans first.locks
  faults := second.faults.trans first.faults

theorem Follows.willing (follows : rig.Follows rig') (willing : rig.Willing segment) :
    rig'.Willing segment where
  faults := follows.faults.trans willing.faults
  locks locked := by
    rw [follows.locks]
    exact willing.locks (follows.lockPages ▸ locked)

theorem faults_call (rig : Rig) (c : Call) : (rig.call c).2.faults = rig.faults := by
  unfold call
  split
  · rfl
  · split
    · rfl
    · dsimp only
      split <;> rfl

theorem call_of_serve {c : Call} {served : Served} (faults : rig.faults = .none)
    (h : rig.host.serve rig.locks c = .ok served) :
    ∃ rig', rig.call c = (.ok served.handle, rig') ∧ rig'.host = served.host ∧
      rig'.locks = rig.locks ∧ rig'.faults = rig.faults := by
  refine ⟨(rig.call c).2, ?_, ?_⟩
  · simp [call, faults, Faults.none, h]
  · simp only [call, faults, Faults.none, h]
    split <;> exact ⟨rfl, rfl, rfl⟩

theorem call_of_refuse {c : Call} {error : AcceleratorError} (faults : rig.faults = .none)
    (h : rig.host.serve rig.locks c = .error error) : (rig.call c).1 = .error error := by
  simp [call, faults, Faults.none, h]

theorem createQueues_ok {context : Nat} {members : List DeviceId} (position : Nat)
    (faults : rig.faults = .none) (here : rig.host.contextDevices? context = some members)
    (among : ∀ d ∈ devices, d.id ∈ members) :
    ∃ queues rig', DeviceSet.createQueues context position devices rig = (.ok queues, rig') ∧
      rig.Follows rig' := by
  induction devices generalizing position rig with
  | nil => exact ⟨[], rig, rfl, .refl rig⟩
  | cons device devices ih =>
    have member : device.id ∈ members := among device List.mem_cons_self
    have serve : rig.host.serve rig.locks (.createQueue context device.id .dispatch) =
        .ok ⟨rig.host.handle, none, { rig.host with
          next := rig.host.next + 1
          queues := rig.host.queues.insert rig.host.handle ⟨context, device.id, .dispatch⟩ }⟩ := by
      simp [Host.serve, Host.createQueue, here, member, Except.map]
    obtain ⟨mid, called, host, locks, faults'⟩ := call_of_serve faults serve
    have first : rig.Follows mid := ⟨by rw [host], by rw [host], by rw [host], locks, faults'⟩
    have here' : mid.host.contextDevices? context = some members := by
      rw [Host.contextDevices?, first.contexts]
      exact here
    obtain ⟨queues, last, created, rest⟩ := ih (position + 1)
      (faults'.trans faults) here' fun d later => among d (List.mem_cons_of_mem _ later)
    exact ⟨rig.host.handle :: queues, last, by simp [DeviceSet.createQueues, called, created],
      first.trans rest⟩

theorem create_unknown {device : Device} (faults : rig.faults = .none)
    (first : devices.find? (fun d => (rig.host.maxAlloc? d.id).isNone) = some device) :
    (DeviceSet.create devices rig).1 = .error (.contextCreation (.deviceNotFound device.id)) := by
  have given : devices ≠ [] := List.ne_nil_of_mem (List.mem_of_find?_eq_some first)
  have found : (devices.map (·.id)).find? (fun id => (rig.host.maxAlloc? id).isNone) =
      some device.id := by
    rw [List.find?_map, Function.comp_def, first]
    rfl
  have refuse : rig.host.serve rig.locks (.createContext (devices.map (·.id))) =
      .error (.deviceNotFound device.id) := by
    simp [Host.serve, Host.createContext, found, given, Except.map]
  have called := call_of_refuse faults refuse
  unfold DeviceSet.create
  rw [if_neg (by simpa using given)]
  cases answer : rig.call (.createContext (devices.map (·.id))) with
  | mk answer next =>
    rw [answer] at called
    cases called
    rfl

/-- A context over devices that the host knows is created with all of its queues. -/
theorem create_ok (faults : rig.faults = .none) (given : devices ≠ [])
    (known : ∀ d ∈ devices, (rig.host.maxAlloc? d.id).isSome) :
    ∃ set rig', DeviceSet.create devices rig = (.ok set, rig') ∧ set.devices = devices ∧
      rig'.host.contextDevices? set.context = some (devices.map (·.id)) ∧
      rig'.host.devices = rig.host.devices ∧ rig'.host.lockPages = rig.host.lockPages ∧
      rig'.locks = rig.locks ∧ rig'.faults = rig.faults := by
  have found : (devices.map (·.id)).find? (fun id => (rig.host.maxAlloc? id).isNone) = none := by
    simpa [Option.isSome_iff_ne_none] using known
  have serve : rig.host.serve rig.locks (.createContext (devices.map (·.id))) =
      .ok ⟨rig.host.handle, none, { rig.host with
        next := rig.host.next + 1
        contexts := rig.host.contexts.insert rig.host.handle (devices.map (·.id)) }⟩ := by
    simp only [Host.serve, Host.createContext, found]
    simp [given, Except.map]
  obtain ⟨mid, called, host, locks, faults'⟩ := call_of_serve faults serve
  have here : mid.host.contextDevices? rig.host.handle = some (devices.map (·.id)) := by
    rw [host, Host.contextDevices?, Host.getElem?_insert, if_pos rfl]
  obtain ⟨queues, last, created, follows⟩ := createQueues_ok 0
    (faults'.trans faults) here fun d member => List.mem_map_of_mem member
  refine ⟨⟨rig.host.handle, devices, queues⟩,
    last.log (.contextCreated rig.host.handle devices.length),
    by simp [DeviceSet.create, given, called, created], rfl, ?_, ?_, ?_, ?_, ?_⟩
  · show last.host.contexts[rig.host.handle]? = _
    rw [follows.contexts]
    exact here
  · exact follows.devices.trans (by rw [host])
  · exact follows.lockPages.trans (by rw [host])
  · exact follows.locks.trans locks
  · exact follows.faults.trans faults'

section

variable {context address length limit : Nat} {members : List DeviceId} {pinned : List Handle}

theorem pinNext_ok (pinned : List Handle) (faults : rig.faults = .none)
    (here : rig.host.contextDevices? context = some members) (positive : 0 < length)
    (fits : length ≤ rig.host.bufferLimit members)
    (locks : rig.host.lockRefused? rig.locks address length = none) :
    ∃ buffer rig', pinNext context address length (rig, pinned) =
      (.ok buffer, rig', buffer :: pinned) ∧ rig.Follows rig' := by
  have serve : rig.host.serve rig.locks (.createBuffer context .zone address length) =
      .ok ⟨rig.host.handle, none, { rig.host with
        next := rig.host.next + 1
        buffers := rig.host.buffers.insert rig.host.handle
          ⟨context, address, length, rig.host.lockPages⟩ }⟩ := by
    have bounds : ¬ (length = 0 ∨ rig.host.bufferLimit members < length) := by omega
    simp [Host.serve, Host.createBuffer, MemFlags.zone, here, bounds, locks, Except.map]
  obtain ⟨mid, called, host, locks', faults'⟩ := call_of_serve faults serve
  exact ⟨rig.host.handle, mid.log (.zonePinned address length), by simp [pinNext, pinZone, called],
    by rw [log, record, host], by rw [log, record, host], by rw [log, record, host], locks',
    faults'⟩

theorem pinNext_refused (address : Nat) (pinned : List Handle) (faults : rig.faults = .none)
    (here : rig.host.contextDevices? context = some members)
    (exceeds : rig.host.bufferLimit members < length) :
    (pinNext context address length (rig, pinned)).1 = .error
      (.zoneRegistration address length (.invalidBufferSize length (rig.host.bufferLimit members)))
    := by
  have refuse : rig.host.serve rig.locks (.createBuffer context .zone address length) =
      .error (.invalidBufferSize length (rig.host.bufferLimit members)) := by
    simp [Host.serve, Host.createBuffer, MemFlags.zone, here, exceeds, Except.map]
  have called := call_of_refuse faults refuse
  unfold pinNext pinZone
  cases answer : rig.call (.createBuffer context .zone address length) with
  | mk answer next =>
    rw [answer] at called
    cases called
    rfl

/-- All the remaining zones are pinned, if the longest of them is within the limit. -/
theorem registerZones_ok {zoneLength remaining : Nat} (index : Nat) (pinned : List Handle)
    (willing : rig.Willing segment)
    (here : rig.host.contextDevices? context = some members) (positive : 0 < zoneLength)
    (fits : min zoneLength segment.size ≤ rig.host.bufferLimit members)
    (within : ∀ i < index + remaining, i * zoneLength < segment.size) :
    ∃ zones state, segment.registerZones zoneLength (pinNext context) remaining index
        (rig, pinned) = (.ok zones, state) ∧
      ∀ zone ∈ zones, 0 < zone.length ∧ zone.length ≤ min zoneLength segment.size := by
  -- Over the zones that remain, for any rig that is willing, since pinning one keeps it so.
  induction remaining generalizing rig index pinned with
  | zero => exact ⟨[], (rig, pinned), rfl, by simp⟩
  | succ remaining ih =>
    have start := within index (by omega)
    have least : 0 < min zoneLength (segment.size - index * zoneLength) := by omega
    have most : min zoneLength (segment.size - index * zoneLength) ≤
        min zoneLength segment.size := by omega
    have locks : rig.host.lockRefused? rig.locks (segment.base + index * zoneLength)
        (min zoneLength (segment.size - index * zoneLength)) = none := by
      unfold Host.lockRefused?
      split
      · exact willing.locks ‹_› _ _ (by omega) (by omega)
      · rfl
    obtain ⟨buffer, mid, first, follows⟩ :=
      pinNext_ok pinned willing.faults here least (most.trans fits) locks
    have limit : mid.host.bufferLimit members = rig.host.bufferLimit members := by
      have same : mid.host.maxAlloc? = rig.host.maxAlloc? := by
        funext id
        rw [Host.maxAlloc?, Host.maxAlloc?, follows.devices]
      rw [Host.bufferLimit, Host.bufferLimit, same]
    obtain ⟨zones, state, rest, lengths⟩ := ih (index + 1) (buffer :: pinned)
      (follows.willing willing) (by rw [Host.contextDevices?, follows.contexts]; exact here)
      (by rwa [limit]) fun i less => within i (by omega)
    refine ⟨⟨index, index * zoneLength, min zoneLength (segment.size - index * zoneLength),
      buffer⟩ :: zones, state, by simp only [Segment.registerZones, first, rest], ?_⟩
    intro zone member
    rcases List.mem_cons.1 member with rfl | member
    · exact ⟨least, most⟩
    · exact lengths zone member

end

variable {zoneLength limit : Nat}

/-- What the limits decide, those that the devices name and those that the host knows of them. -/
inductive Verdict (max? : DeviceId → Option Nat) (segment : Segment) :
    List Device → Except ServerError (DeviceSet × ZoneTable) → Prop
  | noDevices : Verdict max? segment [] (.error .noDevices)
  | unknown {devices : List Device} {device : Device}
      (first : devices.find? (fun d => (max? d.id).isNone) = some device) :
      Verdict max? segment devices (.error (.contextCreation (.deviceNotFound device.id)))
  | emptyZone {devices : List Device} (given : devices ≠ [])
      (known : ∀ d ∈ devices, (max? d.id).isSome)
      (empty : IsLeast {max | ∃ d ∈ devices, d.maxAlloc = max} 0) :
      Verdict max? segment devices (.error (.sharedMemory .emptyZone))
  | tooLong {devices : List Device} {zoneLength limit : Nat} (given : devices ≠ [])
      (known : ∀ d ∈ devices, (max? d.id).isSome)
      (named : IsLeast {max | ∃ d ∈ devices, d.maxAlloc = max} zoneLength)
      (knows : IsLeast {max | ∃ d ∈ devices, max? d.id = some max} limit)
      (positive : 0 < zoneLength) (exceeds : limit < min zoneLength segment.size) :
      Verdict max? segment devices (.error (.zoneRegistration segment.base
        (min zoneLength segment.size) (.invalidBufferSize (min zoneLength segment.size) limit)))
  | fits {devices : List Device} {zoneLength limit : Nat} {set : DeviceSet} {table : ZoneTable}
      (given : devices ≠ []) (known : ∀ d ∈ devices, (max? d.id).isSome)
      (named : IsLeast {max | ∃ d ∈ devices, d.maxAlloc = max} zoneLength)
      (knows : IsLeast {max | ∃ d ∈ devices, max? d.id = some max} limit)
      (positive : 0 < zoneLength) (fits : min zoneLength segment.size ≤ limit)
      (lengths : ∀ zone ∈ table.zones,
        0 < zone.length ∧ zone.length ≤ min zoneLength segment.size) :
      Verdict max? segment devices (.ok (set, table))

/-- What becomes of the zones in a context with such limits. -/
theorem verdict_of_setupZones {set : DeviceSet} (pinned : List Handle)
    (willing : rig.Willing segment) (mapped : 0 < segment.size) (given : devices ≠ [])
    (here : rig.host.contextDevices? set.context = some (devices.map (·.id)))
    (known : ∀ d ∈ devices, (rig.host.maxAlloc? d.id).isSome)
    (named : IsLeast {max | ∃ d ∈ devices, d.maxAlloc = max} zoneLength)
    (knows : IsLeast {max | ∃ d ∈ devices, rig.host.maxAlloc? d.id = some max} limit) :
    Verdict rig.host.maxAlloc? segment devices ((segment.setupZones zoneLength (pinNext set.context)
      (rig, pinned)).1.map fun table => (set, table)) := by
  have limited := Host.bufferLimit_eq knows
  rcases Nat.eq_zero_or_pos zoneLength with rfl | positive
  · exact .emptyZone given known named
  have begins (i : Nat) (less : i < 0 + segment.zoneCount zoneLength) :
      i * zoneLength < segment.size := Segment.offset_lt positive (by omega)
  unfold Segment.setupZones
  rw [if_neg (Nat.ne_of_gt positive)]
  rcases Nat.lt_or_ge limit (min zoneLength segment.size) with exceeds | fits
  · obtain ⟨count, zones⟩ : ∃ count, segment.zoneCount zoneLength = count + 1 :=
      Nat.exists_eq_succ_of_ne_zero (Segment.zoneCount_ne_zero zoneLength mapped)
    have refused := pinNext_refused segment.base pinned willing.faults here (by rwa [limited])
    rw [limited] at refused
    cases first : pinNext set.context segment.base (min zoneLength segment.size) (rig, pinned) with
    | mk answer state =>
      rw [first] at refused
      cases refused
      simp only [zones, Segment.registerZones, Nat.zero_mul, Nat.add_zero, Nat.sub_zero, first]
      exact .tooLong given known named knows positive exceeds
  · obtain ⟨zones, state, registered, lengths⟩ := registerZones_ok 0 pinned willing here
      positive (by rwa [limited]) begins
    simp only [registered]
    exact .fits given known named knows positive fits lengths

/-- The outcome of the setup is what the limits decide. -/
theorem verdict_initialise (devices : List Device) (willing : rig.Willing segment)
    (mapped : 0 < segment.size) :
    Verdict rig.host.maxAlloc? segment devices (rig.initialise devices segment).1 := by
  by_cases given : devices = []
  · subst given
    exact .noDevices
  cases found : devices.find? fun d => (rig.host.maxAlloc? d.id).isNone with
  | some device =>
    have created := create_unknown willing.faults found
    unfold initialise
    cases answer : DeviceSet.create devices rig with
    | mk answer next =>
      rw [answer] at created
      cases created
      exact .unknown found
  | none =>
    have known : ∀ d ∈ devices, (rig.host.maxAlloc? d.id).isSome := by
      simpa [Option.isSome_iff_ne_none] using found
    obtain ⟨first, member⟩ := List.exists_mem_of_ne_nil devices given
    obtain ⟨max, knows⟩ := Option.isSome_iff_exists.1 (known first member)
    classical
    -- The zones are as long as the devices say that they may be, and the host holds the buffers to
    -- what it knows of them itself.
    obtain ⟨zoneLength, named⟩ : ∃ least, IsLeast {max | ∃ d ∈ devices, d.maxAlloc = max} least :=
      ⟨_, Nat.isLeast_find ⟨_, first, member, rfl⟩⟩
    obtain ⟨limit, knows⟩ :
        ∃ least, IsLeast {max | ∃ d ∈ devices, rig.host.maxAlloc? d.id = some max} least :=
      ⟨_, Nat.isLeast_find ⟨max, first, member, knows⟩⟩
    obtain ⟨set, next, created, same, here, devices', lockPages, locks, faults⟩ :=
      create_ok willing.faults given known
    have length : set.zoneLength = zoneLength := by
      rw [DeviceSet.zoneLength, same, zoneLength?_eq_some_iff.2 named]
      rfl
    have alike : next.host.maxAlloc? = rig.host.maxAlloc? := by
      funext id
      rw [Host.maxAlloc?, Host.maxAlloc?, devices']
    have willing' : (next.log (.settingUpMemory zoneLength)).Willing segment :=
      ⟨faults.trans willing.faults, fun locked => by
        rw [show (next.log (.settingUpMemory zoneLength)).locks = rig.locks from locks]
        exact willing.locks (lockPages ▸ locked)⟩
    have logged : (next.log (.settingUpMemory zoneLength)).host.maxAlloc? = rig.host.maxAlloc? :=
      alike
    have verdict := verdict_of_setupZones [] willing' mapped given here
      (by rwa [logged]) named (by rwa [logged])
    rw [logged] at verdict
    unfold initialise
    simp only [created, length]
    cases registered : segment.setupZones zoneLength (pinNext set.context)
        (next.log (.settingUpMemory zoneLength), []) with
    | mk answer state =>
      rw [registered] at verdict
      cases answer <;> exact verdict

namespace Verdict

variable {max? : DeviceId → Option Nat} {outcome : Except ServerError (DeviceSet × ZoneTable)}

theorem not_known {device : Device}
    (first : devices.find? (fun d => (max? d.id).isNone) = some device) :
    ¬ ∀ d ∈ devices, (max? d.id).isSome := by
  intro known
  have none := List.find?_some first
  have some := known device (List.mem_of_find?_eq_some first)
  simp_all

theorem ok_iff (verdict : Verdict max? segment devices outcome) :
    (∃ set table, outcome = .ok (set, table)) ↔
      devices ≠ [] ∧ (∀ d ∈ devices, (max? d.id).isSome) ∧
        ∃ zoneLength limit, IsLeast {max | ∃ d ∈ devices, d.maxAlloc = max} zoneLength ∧
          IsLeast {max | ∃ d ∈ devices, max? d.id = some max} limit ∧
          0 < zoneLength ∧ min zoneLength segment.size ≤ limit := by
  cases verdict with
  | noDevices => simp
  | @unknown _ device first =>
    refine ⟨by simp, fun ⟨_, known, _⟩ => ?_⟩
    exact absurd known (not_known first)
  | emptyZone given known empty =>
    refine ⟨by simp, fun ⟨_, _, zoneLength, limit, named, _, positive, _⟩ => ?_⟩
    exact absurd (named.unique empty) (Nat.ne_of_gt positive)
  | tooLong given known named knows positive exceeds =>
    refine ⟨by simp, fun ⟨_, _, zoneLength, limit, named', knows', _, within⟩ => ?_⟩
    rw [named'.unique named, knows'.unique knows] at within
    exact absurd exceeds (Nat.not_lt.2 within)
  | @fits _ _ _ set table given known named knows positive fits lengths =>
    exact ⟨fun _ => ⟨given, known, _, _, named, knows, positive, fits⟩, fun _ => ⟨set, table, rfl⟩⟩

theorem of_unknown {device : Device} (verdict : Verdict max? segment devices outcome)
    (first : devices.find? (fun d => (max? d.id).isNone) = some device) :
    outcome = .error (.contextCreation (.deviceNotFound device.id)) := by
  cases verdict with
  | noDevices => cases first
  | unknown first' =>
    cases first.symm.trans first'
    rfl
  | emptyZone _ known => exact absurd known (not_known first)
  | tooLong _ known => exact absurd known (not_known first)
  | fits _ known => exact absurd known (not_known first)

theorem of_known {zoneLength limit : Nat} (verdict : Verdict max? segment devices outcome)
    (given : devices ≠ []) (known : ∀ d ∈ devices, (max? d.id).isSome)
    (named : IsLeast {max | ∃ d ∈ devices, d.maxAlloc = max} zoneLength)
    (knows : IsLeast {max | ∃ d ∈ devices, max? d.id = some max} limit) :
    (zoneLength = 0 → outcome = .error (.sharedMemory .emptyZone)) ∧
      (0 < zoneLength → limit < min zoneLength segment.size →
        outcome = .error (.zoneRegistration segment.base (min zoneLength segment.size)
          (.invalidBufferSize (min zoneLength segment.size) limit))) := by
  cases verdict with
  | noDevices => exact absurd rfl given
  | @unknown _ device first =>
    exact absurd known (not_known first)
  | emptyZone _ _ empty =>
    obtain rfl := named.unique empty
    exact ⟨fun _ => rfl, fun positive => absurd positive (Nat.lt_irrefl _)⟩
  | tooLong _ _ named' knows' positive =>
    obtain rfl := named.unique named'
    obtain rfl := knows.unique knows'
    exact ⟨fun empty => absurd empty (Nat.ne_of_gt positive), fun _ _ => rfl⟩
  | fits _ _ named' knows' positive fits =>
    obtain rfl := named.unique named'
    obtain rfl := knows.unique knows'
    exact ⟨fun empty => absurd empty (Nat.ne_of_gt positive),
      fun _ exceeds => absurd exceeds (Nat.not_lt.2 fits)⟩

theorem lengths_le {set : DeviceSet} {table : ZoneTable} {zone : Zone}
    (verdict : Verdict max? segment devices (.ok (set, table))) (here : zone ∈ table.zones) :
    0 < zone.length ∧
      ∀ d ∈ devices, zone.length ≤ d.maxAlloc ∧ ∀ max ∈ max? d.id, zone.length ≤ max := by
  obtain _ | _ | _ | _ | ⟨_, _, named, knows, _, fits, lengths⟩ := verdict
  obtain ⟨least, most⟩ := lengths zone here
  refine ⟨least, fun d member => ⟨?_, fun max known => ?_⟩⟩
  · exact most.trans ((min_le_left _ _).trans (named.2 ⟨d, member, rfl⟩))
  · exact most.trans (fits.trans (knows.2 ⟨d, member, known⟩))

theorem error_cases {error : ServerError} (verdict : Verdict max? segment devices (.error error)) :
    (∀ position source, error ≠ .queueCreation position source) ∧
      ∀ address length source, error = .zoneRegistration address length source →
        address = segment.base := by
  cases verdict <;> simp +contextual

end Verdict

/-- Of the devices that the host discovers, all are known with their very limits, so that none of
them may be of no use at all. -/
theorem initialise_discovered {created : Nat} (arises : rig.host.Arises created)
    (willing : rig.Willing segment) (mapped : 0 < segment.size) :
    (∃ set table, (rig.initialise rig.host.devices segment).1 = .ok (set, table)) ↔
      rig.host.devices ≠ [] ∧ ∀ d ∈ rig.host.devices, 0 < d.maxAlloc := by
  rw [(verdict_initialise rig.host.devices willing mapped).ok_iff]
  have limits : {max | ∃ d ∈ rig.host.devices, rig.host.maxAlloc? d.id = some max} =
      {max | ∃ d ∈ rig.host.devices, d.maxAlloc = max} := by
    ext max
    refine exists_congr fun d => and_congr_right fun here => ?_
    rw [arises.maxAlloc? here]
    exact Option.some_inj
  rw [limits]
  constructor
  · rintro ⟨given, -, zoneLength, limit, named, -, positive, -⟩
    exact ⟨given, fun d here => positive.trans_le (named.2 ⟨d, here, rfl⟩)⟩
  · rintro ⟨given, positive⟩
    refine ⟨given, fun d here => by rw [arises.maxAlloc? here]; rfl, ?_⟩
    obtain ⟨first, member⟩ := List.exists_mem_of_ne_nil _ given
    classical
    obtain ⟨least, named⟩ :
        ∃ least, IsLeast {max | ∃ d ∈ rig.host.devices, d.maxAlloc = max} least :=
      ⟨_, Nat.isLeast_find ⟨_, first, member, rfl⟩⟩
    obtain ⟨d, here, same⟩ := named.1
    exact ⟨least, least, named, named, same ▸ positive d here, min_le_left _ _⟩

end Rig

/-- What the setup of the memory comes to, for any devices at all and for those that the host
discovers, of which the start of a server makes no more than the setup does. -/
theorem initialise_decided {rig : Rig} {segment : Segment} (devices : List Device)
    (willing : rig.Willing segment) (mapped : 0 < segment.size) :
    ((∃ set table, (rig.initialise devices segment).1 = .ok (set, table)) ↔
      devices ≠ [] ∧ (∀ d ∈ devices, (rig.host.maxAlloc? d.id).isSome) ∧
        ∃ zoneLength limit, IsLeast {max | ∃ d ∈ devices, d.maxAlloc = max} zoneLength ∧
          IsLeast {max | ∃ d ∈ devices, rig.host.maxAlloc? d.id = some max} limit ∧
          0 < zoneLength ∧ min zoneLength segment.size ≤ limit) ∧
    (devices = [] → (rig.initialise devices segment).1 = .error .noDevices) ∧
    (∀ before device after, devices = before ++ device :: after →
      (∀ d ∈ before, (rig.host.maxAlloc? d.id).isSome) → rig.host.maxAlloc? device.id = none →
      (rig.initialise devices segment).1 =
        .error (.contextCreation (.deviceNotFound device.id))) ∧
    (devices ≠ [] → (∀ d ∈ devices, (rig.host.maxAlloc? d.id).isSome) → ∀ zoneLength limit,
      IsLeast {max | ∃ d ∈ devices, d.maxAlloc = max} zoneLength →
      IsLeast {max | ∃ d ∈ devices, rig.host.maxAlloc? d.id = some max} limit →
      (zoneLength = 0 →
        (rig.initialise devices segment).1 = .error (.sharedMemory .emptyZone)) ∧
      (0 < zoneLength → limit < min zoneLength segment.size →
        (rig.initialise devices segment).1 =
          .error (.zoneRegistration segment.base (min zoneLength segment.size)
            (.invalidBufferSize (min zoneLength segment.size) limit)))) ∧
    (∀ error, (rig.initialise devices segment).1 = .error error →
      (∀ position source, error ≠ .queueCreation position source) ∧
      ∀ address length source, error = .zoneRegistration address length source →
        address = segment.base) ∧
    (∀ set table, (rig.initialise devices segment).1 = .ok (set, table) →
      ∀ zone ∈ table.zones, 0 < zone.length ∧ ∀ d ∈ devices,
        zone.length ≤ d.maxAlloc ∧ ∀ max ∈ rig.host.maxAlloc? d.id, zone.length ≤ max) ∧
    (∀ created, rig.host.Arises created →
      ((∃ set table, (rig.initialise rig.host.devices segment).1 = .ok (set, table)) ↔
        rig.host.devices ≠ [] ∧ ∀ d ∈ rig.host.devices, 0 < d.maxAlloc) ∧
      ∀ (σ : Type) surroundings settings (spawner : Spawner σ) (state : σ),
        Segment.allocate surroundings.base settings.memory = .ok segment →
        ((∃ pair, Server.start rig surroundings rig.host.devices settings spawner state =
            .ok pair) ↔
          rig.host.devices ≠ [] ∧ ∀ d ∈ rig.host.devices, 0 < d.maxAlloc) ∧
        ∀ server state', Server.start rig surroundings rig.host.devices settings spawner state =
            .ok (server, state') →
          ∀ zone ∈ server.table.zones, 0 < zone.length ∧
            ∀ d ∈ rig.host.devices, zone.length ≤ d.maxAlloc) := by
  have verdict := Rig.verdict_initialise devices willing mapped
  refine ⟨verdict.ok_iff, ?_, ?_, fun given known zoneLength limit named knows =>
    verdict.of_known given known named knows, fun error failed =>
    Rig.Verdict.error_cases (failed ▸ verdict), fun set table ok zone here =>
    Rig.Verdict.lengths_le (ok ▸ verdict) here, fun created arises =>
    ⟨Rig.initialise_discovered arises willing mapped, ?_⟩⟩
  · rintro rfl
    rfl
  · rintro before device after rfl known unknown
    refine verdict.of_unknown (List.find?_eq_some_iff_append.2 ⟨by simp [unknown], before, after,
      rfl, fun d here => by simp [known d here]⟩)
  · intro σ surroundings settings spawner state allocated
    have willing : (rig.record (.mapped segment.size)).Willing segment :=
      ⟨willing.faults, willing.locks⟩
    obtain ⟨ok, same⟩ :=
      Server.start_eq_ok_iff rig rig.host.devices spawner state allocated
    refine ⟨ok.trans (Rig.initialise_discovered arises willing mapped),
      fun server state' started zone here => ?_⟩
    obtain ⟨set, initialised⟩ := same server state' started
    have verdict := Rig.verdict_initialise rig.host.devices willing mapped
    obtain ⟨least, most⟩ := Rig.Verdict.lengths_le (initialised ▸ verdict) here
    exact ⟨least, fun d member => (most d member).1⟩

/-- Both devices are named with more memory than the host knows of the first one. -/
theorem initialise_decided_of_promises :
    let rig := Rig.ofHost (.ofSizes [10, 20] true) .always .none
    rig.Willing ⟨0x1000, 25⟩ ∧ 0 < (Segment.mk 0x1000 25).size ∧
      (rig.initialise [⟨1, 0, "first", 30⟩, ⟨2, 1, "second", 40⟩] ⟨0x1000, 25⟩).1 =
        .error (.zoneRegistration 0x1000 25 (.invalidBufferSize 25 10)) := by
  have willing : (Rig.ofHost (.ofSizes [10, 20] true) .always .none).Willing ⟨0x1000, 25⟩ :=
    ⟨rfl, fun _ _ _ _ _ => rfl⟩
  refine ⟨willing, by decide, ?_⟩
  obtain ⟨-, -, -, known, -⟩ := initialise_decided
    [⟨1, 0, "first", 30⟩, ⟨2, 1, "second", 40⟩] willing (by decide)
  refine (known (by simp) (by decide) 30 10 ?_ ?_).2 (by decide) (by decide)
  · refine ⟨by simp, ?_⟩
    rintro max ⟨d, here, rfl⟩
    revert d
    decide
  · refine ⟨⟨⟨1, 0, "first", 30⟩, by simp, rfl⟩, ?_⟩
    rintro max ⟨d, here, max_eq⟩
    simp only [List.mem_cons, List.not_mem_nil, or_false] at here
    rcases here with rfl | rfl <;> cases max_eq <;> decide

end DispatchServer
