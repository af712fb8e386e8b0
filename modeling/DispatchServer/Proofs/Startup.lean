import DispatchServer.Proofs.Handles
import DispatchServer.Server

/-! What the start of a server can come to. Before there are any threads it fails with its memory,
and after that it does not fail any more. -/
namespace DispatchServer

def Event.deed : Event → Bool
  | called .. | logged .. => false
  | _ => true

namespace Rig

def deeds (rig : Rig) : List Event := rig.history.events.filter Event.deed

theorem deeds_record (rig : Rig) (event : Event) :
    (rig.record event).deeds = rig.deeds ++ if event.deed then [event] else [] := by
  simp only [deeds, record, History.events_record, List.filter_append, List.filter_cons,
    List.filter_nil]

theorem deeds_log (rig : Rig) (notice : Notice) : (rig.log notice).deeds = rig.deeds := by
  rw [log, deeds_record]
  exact List.append_nil _

theorem deeds_call (rig : Rig) (c : Call) : (rig.call c).2.deeds = rig.deeds := by
  have told (other : Rig) (same : other.history = rig.history)
      (answer : Except AcceleratorError Handle) :
      (other.record (.called c answer)).deeds = rig.deeds := by
    rw [deeds_record, deeds, same]
    exact List.append_nil _
  unfold call
  split
  · exact told _ rfl _
  · split
    · exact told _ rfl _
    · dsimp only
      split
      · exact told _ rfl _
      · rw [deeds_log]
        exact told _ rfl _

/-- What is kept by everything that is only asked of the accelerator or logged. -/
structure Lasts (kind : Rig → Prop) : Prop where
  call : ∀ rig c, kind rig → kind (rig.call c).2
  log : ∀ rig notice, kind rig → kind (rig.log notice)

theorem lasts_deeds (deeds : List Event) : Lasts (·.deeds = deeds) :=
  ⟨fun rig c h => (rig.deeds_call c).trans h, fun rig notice h => (rig.deeds_log notice).trans h⟩

variable {rig rig' : Rig}

namespace Lasts

variable {kind : Rig → Prop} (lasts : Lasts kind)
include lasts

theorem of_call {c : Call} {answer : Except AcceleratorError Handle}
    (h : rig.call c = (answer, rig')) (kept : kind rig) : kind rig' := by
  have called := lasts.call rig c kept
  rwa [h] at called

theorem of_createQueues {context position : Nat} {devices : List Device}
    {result : Except ServerError (List Handle)}
    (h : DeviceSet.createQueues context position devices rig = (result, rig'))
    (kept : kind rig) : kind rig' := by
  induction devices generalizing position rig result rig' with
  | nil =>
    cases h
    exact kept
  | cons device devices ih =>
    unfold DeviceSet.createQueues at h
    split at h <;> rename_i next called <;> have kept := lasts.of_call called kept
    · cases h
      exact lasts.log next _ kept
    · split at h <;> rename_i created <;> cases h <;> exact ih created kept

theorem of_create {devices : List Device} {result : Except ServerError DeviceSet}
    (h : DeviceSet.create devices rig = (result, rig')) (kept : kind rig) : kind rig' := by
  unfold DeviceSet.create at h
  split at h
  · cases h
    exact lasts.log rig _ kept
  · split at h <;> rename_i next called <;> have kept := lasts.of_call called kept
    · cases h
      exact lasts.log next _ kept
    · split at h <;> rename_i created <;> cases h
      · exact lasts.of_createQueues created kept
      · exact lasts.log _ _ (lasts.of_createQueues created kept)

theorem pinNext (context address length : Nat) {state : Rig × List Handle}
    (kept : kind state.1) : kind (Rig.pinNext context address length state).2.1 := by
  unfold Rig.pinNext pinZone
  cases called : state.1.call (.createBuffer context .zone address length) with
  | mk answer mid =>
    cases answer <;> exact lasts.log mid _ (lasts.of_call called kept)

theorem registerZones (segment : Segment) (zoneLength context remaining index : Nat)
    {state : Rig × List Handle} (kept : kind state.1) :
    kind (segment.registerZones zoneLength (Rig.pinNext context) remaining index state).2.1 := by
  induction remaining generalizing index state with
  | zero => exact kept
  | succ remaining ih =>
    unfold Segment.registerZones
    dsimp only
    split <;> rename_i next pinned
    all_goals
      have first := lasts.pinNext context (segment.base + index * zoneLength)
        (min zoneLength (segment.size - index * zoneLength)) kept
      rw [pinned] at first
    · exact first
    · have rest := ih (index + 1) first
      split <;> rename_i registered <;> rw [registered] at rest <;> exact rest

theorem setupZones (segment : Segment) (zoneLength context : Nat) {state : Rig × List Handle}
    (kept : kind state.1) :
    kind (segment.setupZones zoneLength (Rig.pinNext context) state).2.1 := by
  unfold Segment.setupZones
  split
  · exact kept
  · have zones := lasts.registerZones segment zoneLength context (segment.zoneCount zoneLength) 0
      kept
    split <;> rename_i registered <;> rw [registered] at zones <;> exact zones

theorem unpinZone (buffer : Handle) (kept : kind rig) : kind (rig.unpinZone buffer) := by
  unfold Rig.unpinZone
  split <;> rename_i called
  · exact lasts.of_call called kept
  · exact lasts.log _ _ (lasts.of_call called kept)

theorem unpinZones (buffers : List Handle) (kept : kind rig) : kind (rig.unpinZones buffers) := by
  induction buffers generalizing rig with
  | nil => exact kept
  | cons buffer buffers ih => exact ih (lasts.unpinZone buffer kept)

/-- Setting up the memory is a matter of calls and notices alone. -/
theorem of_initialise {devices : List Device} {segment : Segment}
    {result : Except ServerError (DeviceSet × ZoneTable)}
    (h : rig.initialise devices segment = (result, rig')) (kept : kind rig) : kind rig' := by
  have zones {set : DeviceSet} {next mid : Rig} {pinned : List Handle}
      {answer : Except ServerError ZoneTable}
      (created : DeviceSet.create devices rig = (.ok set, next))
      (setup : segment.setupZones set.zoneLength (Rig.pinNext set.context)
        (next.log (.settingUpMemory set.zoneLength), []) = (answer, mid, pinned)) : kind mid := by
    have ready : kind (next.log (.settingUpMemory set.zoneLength), ([] : List Handle)).1 :=
      lasts.log _ _ (lasts.of_create created kept)
    simpa only [setup] using lasts.setupZones segment set.zoneLength set.context ready
  cases initialises_of_initialise h with
  | uncreated created => exact lasts.of_create created kept
  | unpinned created setup => exact lasts.unpinZones _ (zones created setup)
  | pinned created setup => exact lasts.log _ _ (zones created setup)

end Lasts

theorem deeds_of_create {devices : List Device} {result : Except ServerError DeviceSet}
    (h : DeviceSet.create devices rig = (result, rig')) : rig'.deeds = rig.deeds :=
  (lasts_deeds rig.deeds).of_create h rfl

theorem deeds_setupZones (segment : Segment) (zoneLength context : Nat)
    (state : Rig × List Handle) :
    (segment.setupZones zoneLength (pinNext context) state).2.1.deeds = state.1.deeds :=
  (lasts_deeds state.1.deeds).setupZones segment zoneLength context rfl

theorem deeds_unpinZone (rig : Rig) (buffer : Handle) :
    (rig.unpinZone buffer).deeds = rig.deeds :=
  (lasts_deeds rig.deeds).unpinZone buffer rfl

theorem deeds_of_initialise {devices : List Device} {segment : Segment}
    {result : Except ServerError (DeviceSet × ZoneTable)}
    (h : rig.initialise devices segment = (result, rig')) : rig'.deeds = rig.deeds :=
  (lasts_deeds rig.deeds).of_initialise h rfl

end Rig

/-- A device set is made of the devices that were asked for, and it is not empty. -/
theorem DeviceSet.devices_of_create {devices : List Device} {rig rig' : Rig} {set : DeviceSet}
    (h : create devices rig = (.ok set, rig')) : set.devices = devices ∧ devices ≠ [] := by
  unfold create at h
  split at h
  · cases h
  · rename_i some
    (repeat' split at h) <;> cases h
    exact ⟨rfl, by simpa using some⟩

theorem Rig.devices_of_initialise {rig rig' : Rig} {devices : List Device} {segment : Segment}
    {set : DeviceSet} {table : ZoneTable}
    (h : rig.initialise devices segment = (.ok (set, table), rig')) :
    set.devices = devices ∧ devices ≠ [] := by
  cases initialises_of_initialise h with
  | pinned created => exact DeviceSet.devices_of_create created

namespace Server

variable {σ : Type} {rig : Rig} {surroundings : Surroundings} {devices : List Device}
  {settings : Settings} {spawner : Spawner σ} {state : σ}

/-- The memory cannot be mapped, or cannot be pinned and is unmapped again, or the threads are
started. -/
inductive Begins (rig : Rig) (surroundings : Surroundings) (devices : List Device)
    (settings : Settings) (spawner : Spawner σ) (state : σ) :
    Except (ServerError × Rig) (Server × σ) → Prop
  | unmapped {error : ServerError}
      (refused : Segment.allocate surroundings.base settings.memory = .error error) :
      Begins rig surroundings devices settings spawner state (.error (error, rig))
  | unpinned {segment : Segment} {error : ServerError} {rig' : Rig}
      (allocated : Segment.allocate surroundings.base settings.memory = .ok segment)
      (refused : (rig.record (.mapped segment.size)).initialise devices segment =
        (.error error, rig')) :
      Begins rig surroundings devices settings spawner state
        (.error (error, rig'.record (.unmapped segment.size)))
  | launched {segment : Segment} {set : DeviceSet} {table : ZoneTable} {rig' : Rig}
      (allocated : Segment.allocate surroundings.base settings.memory = .ok segment)
      (initialised : (rig.record (.mapped segment.size)).initialise devices segment =
        (.ok (set, table), rig')) :
      Begins rig surroundings devices settings spawner state
        (.ok (launch (.fresh (rig'.log .starting) set ⟨0, devices.length⟩) segment table
          (threadCount settings.threads surroundings.processors) spawner state))

theorem table_launch {w : World} {segment : Segment} {table : ZoneTable} {threads : Nat} :
    (launch w segment table threads spawner state).1.table = table := by
  unfold launch
  dsimp only
  split <;> rfl

variable (rig surroundings devices settings spawner state) in
theorem begins_start : Begins rig surroundings devices settings spawner state
    (start rig surroundings devices settings spawner state) := by
  unfold start
  split <;> rename_i allocated
  · exact .unmapped allocated
  · rename_i segment
    split <;> rename_i initialised
    · exact .unpinned allocated initialised
    · rename_i set table rig'
      obtain ⟨same, some⟩ := Rig.devices_of_initialise initialised
      have robin : RoundRobin.create set.devices.length = .ok ⟨0, devices.length⟩ := by
        rw [same, RoundRobin.create, if_neg (by simpa using some)]
      dsimp only
      rw [robin]
      exact .launched allocated initialised

/-- Once the memory is mapped, it is the setup that decides, and the zones are the ones it made. -/
theorem start_eq_ok_iff {segment : Segment} (rig : Rig) (devices : List Device)
    (spawner : Spawner σ) (state : σ)
    (allocated : Segment.allocate surroundings.base settings.memory = .ok segment) :
    ((∃ pair, start rig surroundings devices settings spawner state = .ok pair) ↔
        ∃ set table, ((rig.record (.mapped segment.size)).initialise devices segment).1 =
          .ok (set, table)) ∧
      ∀ server state', start rig surroundings devices settings spawner state =
          .ok (server, state') →
        ∃ set, ((rig.record (.mapped segment.size)).initialise devices segment).1 =
          .ok (set, server.table) := by
  generalize outcome : start rig surroundings devices settings spawner state = result
  have begins := outcome ▸ begins_start rig surroundings devices settings spawner state
  cases begins with
  | unmapped refused =>
    rw [allocated] at refused
    cases refused
  | unpinned allocated' refused =>
    cases allocated.symm.trans allocated'
    simp [refused]
  | launched allocated' initialised =>
    cases allocated.symm.trans allocated'
    rw [initialised]
    refine ⟨⟨fun _ => ⟨_, _, rfl⟩, fun _ => ⟨_, rfl⟩⟩, fun server state' same => ?_⟩
    have table := congrArg (fun pair => pair.1.table) (Except.ok.inj same)
    rw [table_launch] at table
    exact ⟨_, by rw [← table]⟩

end Server

end DispatchServer
