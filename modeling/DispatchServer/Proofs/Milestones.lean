import DispatchServer.Proofs.Life
import DispatchServer.Proofs.Pinning

/-! In which order a server acquires what it needs and gives it back. Every thread keeps an account
of this: what it has passed and what its frames will still come to add up to the same course, so
that the order in which frames stand on the stack decides the order of the end. -/
namespace DispatchServer

/-- What marks the life of a server. -/
inductive Milestone
  | mapped
  | pinned (buffer : Handle)
  | spawned (index : Nat)
  | spawnRefused (index : Nat)
  | joined (thread : Nat)
  | released (buffer : Handle)
  | unmapped
  deriving DecidableEq, Repr

def Event.milestone? : Event → Option Milestone
  | mapped _ => some .mapped
  | called (.createBuffer ..) (.ok buffer) => some (.pinned buffer)
  | called (.releaseBuffer buffer) _ => some (.released buffer)
  | spawned index => some (.spawned index)
  | spawnRefused index => some (.spawnRefused index)
  | joined thread _ => some (.joined thread)
  | unmapped _ => some .unmapped
  | _ => none

namespace Rig

def milestones (rig : Rig) : List Milestone := rig.history.events.filterMap Event.milestone?

theorem milestones_record (rig : Rig) (event : Event) :
    (rig.record event).milestones = rig.milestones ++ event.milestone?.toList := by
  simp only [milestones, record, History.events_record, List.filterMap_append,
    List.filterMap_cons, List.filterMap_nil]
  cases event.milestone? <;> rfl

theorem milestones_log (rig : Rig) (notice : Notice) :
    (rig.log notice).milestones = rig.milestones := by
  rw [log, milestones_record]
  exact List.append_nil _

theorem milestones_of_call {rig rig' : Rig} {c : Call} {answer : Except AcceleratorError Handle}
    (h : rig.call c = (answer, rig')) :
    rig'.milestones = rig.milestones ++ (Event.called c answer).milestone?.toList := by
  have told (other : Rig) (same : other.history = rig.history)
      (answer : Except AcceleratorError Handle) :
      (other.record (.called c answer)).milestones =
        rig.milestones ++ (Event.called c answer).milestone?.toList := by
    rw [milestones_record, milestones, same]
    rfl
  unfold call at h
  split at h
  · cases h
    exact told _ rfl _
  · split at h
    · cases h
      exact told _ rfl _
    · cases h
      split
      · exact told _ rfl _
      · rw [milestones_log]
        exact told _ rfl _

theorem milestones_unpinZone (rig : Rig) (buffer : Handle) :
    (rig.unpinZone buffer).milestones = rig.milestones ++ [.released buffer] := by
  unfold unpinZone
  split <;> rename_i called
  · exact milestones_of_call called
  · rw [milestones_log, milestones_of_call called]
    rfl

theorem milestones_unpinZones (rig : Rig) (buffers : List Handle) :
    (rig.unpinZones buffers).milestones = rig.milestones ++ buffers.map .released := by
  induction buffers generalizing rig with
  | nil => exact (List.append_nil _).symm
  | cons buffer buffers ih =>
    refine (ih (rig.unpinZone buffer)).trans ?_
    rw [milestones_unpinZone, List.append_assoc]
    rfl

end Rig

namespace Shared

def milestones (s : Shared) : List Milestone := s.rig.milestones

theorem milestones_record (s : Shared) (event : Event) :
    (s.record event).milestones = s.milestones ++ event.milestone?.toList :=
  s.rig.milestones_record event

variable (s : Shared)

@[simp] theorem milestones_log (thread : String) (notice : Notice) :
    (s.log thread notice).milestones = s.milestones :=
  (s.milestones_record _).trans (List.append_nil _)

@[simp] theorem milestones_write (line : String) : (s.write line).milestones = s.milestones :=
  (s.milestones_record _).trans (List.append_nil _)

@[simp] theorem milestones_setState (state : ServerState) :
    (s.setState state).milestones = s.milestones :=
  (milestones_record { s with state := state } _).trans (List.append_nil _)

@[simp] theorem milestones_build (plan : Blueprint) :
    (s.build plan).2.milestones = s.milestones :=
  (milestones_record { s with ledger := _ } _).trans (List.append_nil _)

@[simp] theorem milestones_drop (m : Message) (panicking : Bool) :
    (s.drop m panicking).milestones = s.milestones :=
  (milestones_record { s with ledger := _ } _).trans (List.append_nil _)

@[simp] theorem milestones_publish (m : Message) (status : ReplyStatus) :
    (s.publish m status).milestones = s.milestones := rfl

end Shared

namespace Frame

/-- What the frame still comes to. -/
def course : Frame → List Milestone
  | join pending _ => pending.map .joined
  | unpin buffers => buffers.map .released
  | unmap _ => [.unmapped]
  | _ => []

theorem releases_of_course {f : Frame}
    (freed : .unmapped ∈ f.course ∨ ∃ buffer, .released buffer ∈ f.course) : f.releases := by
  cases f with
  | unpin | unmap => rfl
  | _ => simp [course] at freed

theorem course_of_serves {f : Frame} (own : f.Serves) : f.course = [] := by
  cases f <;> first | rfl | simp [Serves, attends, produces] at own

variable {f : Frame} {thread : String} {answer answer' : Answer} {exits : Nat → Option Exit}
  {s s' : Shared} {frames : List Frame} {goesOn : Bool}

theorem step_course (h : f.step thread answer exits s = .moved s' frames answer') :
    s'.milestones ++ frames.flatMap course = s.milestones ++ f.course := by
  cases moves_of_step h with
  | offers | holds => exact congrArg (· ++ []) (s.milestones_build _)
  | submits => exact congrArg (· ++ []) (Shared.milestones_build { s with robin := _ } _)
  | unpins => simp [course, Shared.milestones, Rig.milestones_unpinZone]
  | _ => simp [course, Shared.milestones_record, Event.milestone?] <;> rfl

/-- A panic takes nothing away but the wait for other threads. -/
theorem unwind_course (apart : ∀ pending joined, f ≠ join pending joined)
    (h : f.unwind thread s = (s', frames, goesOn)) :
    s'.milestones ++ frames.flatMap course = s.milestones ++ f.course := by
  cases f with
  | run device script held => cases held <;> cases h <;> simp [course]
  | leave held given => cases held <;> cases h <;> simp [course]
  | join pending joined => exact absurd rfl (apart _ _)
  | unpin buffers =>
    cases buffers with
    | nil => cases h; simp [course]
    | cons buffer buffers =>
      cases h
      simp [course, Shared.milestones, Rig.milestones_unpinZone]
  | unmap size =>
    cases h
    simp [course, Shared.milestones_record, Event.milestone?]
  | _ => cases h; simp [course]

end Frame

namespace Thread

def course (thread : Thread) : List Milestone := thread.frames.flatMap Frame.course

theorem course_of_serves {thread : Thread} (own : thread.Serves) : thread.course = [] :=
  List.flatMap_eq_nil_iff.2 fun f member => Frame.course_of_serves (own f member)

theorem Steps.course {thread thread' : Thread} {exits : Nat → Option Exit} {s s' : Shared}
    (steps : thread.Steps exits s s' thread') (apart : thread.panicking ≠ none →
      ∀ pending joined, .join pending joined ∉ thread.frames) :
    s'.milestones ++ thread'.course = s.milestones ++ thread.course := by
  unfold Thread.course
  cases steps with
  | moved top _ h =>
    rw [top, List.flatMap_append, ← List.append_assoc, Frame.step_course h, List.flatMap_cons,
      List.append_assoc]
  | panicked => rfl
  | unwound top panics h =>
    have apart := apart (by simp [panics])
    rw [top] at apart
    rw [top, List.flatMap_append, ← List.append_assoc, Frame.unwind_course (by
      rintro pending joined rfl
      exact apart pending joined List.mem_cons_self) h, List.flatMap_cons, List.append_assoc]

theorem Steps.milestones_of_serves {thread thread' : Thread} {exits : Nat → Option Exit}
    {s s' : Shared} (steps : thread.Steps exits s s' thread') (own : thread.Serves)
    (own' : thread'.Serves) : s'.milestones = s.milestones := by
  have apart (pending : List Nat) (joined : Nat) : .join pending joined ∉ thread.frames := by
    intro member
    have none := own _ member
    simp [Frame.Serves, Frame.attends, Frame.produces] at none
  have same := steps.course fun _ => apart
  rwa [course_of_serves own, course_of_serves own', List.append_nil, List.append_nil] at same

end Thread

namespace Scene

def milestones (sc : Scene) : List Milestone := sc.world.shared.milestones

variable {workers : List Nat} {staff : List String} {ender : Option Nat} {drained : Multiset Nat}
  {sc sc' : Scene}

/-- Every move leaves the milestones as they are, and the thread that ends the server where it is,
unless it is a step of that thread. -/
theorem Move.milestones_cases (h : Move (.server workers) sc sc')
    (staffed : sc.Staffed workers staff ender drained)
    (busy : ∀ t ∈ ender, ∀ thread ∈ sc.world.threads[t]?, thread.frames ≠ [] ∧
      ∀ ticket, thread.frames ≠ [.awaitReply ticket]) :
    (sc'.milestones = sc.milestones ∧ ∀ t ∈ ender, ∀ thread,
      sc.world.threads[t]? = some thread → sc'.world.threads[t]? = some thread) ∨
    ∃ t ∈ ender, ∃ thread thread' s', sc.world.threads[t]? = some thread ∧
      thread.Steps sc.world.exits sc.world.shared s' thread' ∧
      sc' = ⟨⟨s', sc.world.threads.set t thread'⟩, sc.hands⟩ := by
  have others {u : Nat} {thread' : Thread} (apart : u ∉ ender) : ∀ t ∈ ender, ∀ thread,
      sc.world.threads[t]? = some thread →
      (sc.world.threads.set u thread')[t]? = some thread := by
    intro t member thread here
    rw [List.getElem?_set_ne (by rintro rfl; exact apart member)]
    exact here
  cases h.shift with
  | steps u goes =>
    obtain ⟨thread, thread', s', here, steps, rfl⟩ := World.steps_of_step goes
    by_cases apart : u ∈ ender
    · exact .inr ⟨u, apart, thread, thread', s', here, steps, rfl⟩
    · have own : thread.Serves := by
        by_cases worker : u ∈ workers
        · exact (staffed.serves u worker thread here).1
        · exact (staffed.produces u worker apart thread here).serves
      have own' := steps.serves (staffed.confined here) own
      exact .inl ⟨steps.milestones_of_serves own own', others apart⟩
  | starts name =>
    refine .inl ⟨rfl, fun t _ thread here => ?_⟩
    rw [World.start, List.getElem?_append_left (List.getElem?_eq_some_iff.1 here).1]
    exact here
  | @builds w _ _ plan => exact .inl ⟨w.shared.milestones_build plan, fun _ _ _ => id⟩
  | @spills w _ _ m panicking => exact .inl ⟨w.shared.milestones_drop m panicking, fun _ _ _ => id⟩
  | signals => exact .inl ⟨rfl, fun _ _ _ => id⟩
  | @calls _ _ _ u thread _ here free =>
    refine .inl ⟨rfl, ?_⟩
    rw [World.assign_eq here]
    refine others fun member => ?_
    obtain ⟨some, patient⟩ := busy u member thread here
    rcases free with none | ⟨ticket, waits⟩
    · exact some none
    · exact patient ticket waits

theorem Move.milestones (h : Move (.server workers) sc sc')
    (staffed : sc.Staffed workers staff none drained) : sc'.milestones = sc.milestones := by
  rcases h.milestones_cases staffed (by simp) with ⟨same, -⟩ | ⟨t, member, -⟩
  · exact same
  · cases member

theorem Reaches.milestones (run : Reaches (.server workers) sc sc')
    (staffed : sc.Staffed workers staff none drained) (opened : sc.world.shared.Opened) :
    sc'.milestones = sc.milestones := by
  induction run with
  | refl => rfl
  | tail run move ih => exact (move.milestones (Reaches.staffed run staffed opened).1).trans ih

end Scene

/-- What has been started. -/
def Pool.course (pool : Pool) : List Milestone :=
  (List.range pool.started).map .spawned ++
    if pool.spawnError.isSome then [.spawnRefused pool.started] else []

/-- All that a server passes. -/
def Server.course (server : Server) : List Milestone :=
  .mapped :: server.table.buffers.map .pinned ++ server.pool.course ++
    server.pool.threads.reverse.map .joined ++ server.table.buffers.map .released ++ [.unmapped]

section

variable {σ : Type} {spawner : Spawner σ} {requested : Nat} {opening w : World} {seed state : σ}
  {pool : Pool}

theorem World.Launches.milestones
    (launches : World.Launches spawner requested opening seed pool w state)
    (begins : Launching ⟨[], requested, none⟩ opening) :
    w.shared.milestones = opening.shared.milestones ++ pool.course := by
  induction launches with
  | begins => exact (List.append_nil _).symm
  | @step pool w v state before t h ih =>
    have move : Scene.Move (.server pool.threads) ⟨w, []⟩ ⟨v, []⟩ := .step t h
    exact (move.milestones (before.launching begins).staffed).trans ih
  | @spawned pool w _ _ _ before calm _ _ _ ih =>
    rw [Shared.milestones_record, ih]
    simp [Pool.course, Pool.started, List.range_succ, calm, Event.milestone?]
  | @refused pool w _ _ cause before calm _ _ ih =>
    rw [Shared.milestones_log, Shared.milestones_record, ih]
    simp [Pool.course, Pool.started, calm, Event.milestone?]

theorem Server.Rises.milestones {segment : Segment} {table : ZoneTable} {server : Server}
    (rises : Server.Rises spawner requested opening seed segment table server)
    (begins : Launching ⟨[], requested, none⟩ opening) :
    server.world.shared.milestones = opening.shared.milestones ++ server.pool.course ∧
      server.table = table := by
  cases rises with
  | up launched =>
    rw [Shared.milestones_log]
    exact ⟨launched.milestones begins, rfl⟩
  | @missing pool w v state cause launched short run back =>
    refine ⟨?_, rfl⟩
    have missing := (launched.launching begins).log .threadsMissing
    have same := Scene.Reaches.milestones (missing.requests run) missing.staffed missing.opened
    exact same.trans ((Shared.milestones_log _ _ _).trans (launched.milestones begins))

end

theorem Event.milestone?_of_asked {event : Event} (asked : event.deed = false)
    (kept : event.released? = none) : event.milestone? = event.pinned?.map .pinned := by
  cases event with
  | called c answer => cases c <;> cases answer <;> first | rfl | cases kept
  | logged => rfl
  | _ => cases asked

theorem Rig.Tells.milestones {rig rig' : Rig} {pinned : List Handle}
    (tells : rig.Tells rig' pinned []) (deeds : rig'.deeds = rig.deeds) :
    rig'.milestones = rig.milestones ++ pinned.map .pinned := by
  obtain ⟨new, events, rfl, kept⟩ := tells
  have asked : new.filter Event.deed = [] := by
    rw [Rig.deeds, events, List.filter_append] at deeds
    exact List.append_right_eq_self.1 deeds
  rw [Rig.milestones, events, List.filterMap_append, List.map_filterMap]
  refine congrArg (_ ++ ·) (List.filterMap_congr fun event member => ?_)
  refine event.milestone?_of_asked ?_ (List.filterMap_eq_nil_iff.1 kept event member)
  simpa using List.filter_eq_nil_iff.1 asked event member

theorem Rig.Tells.failed {rig rig' : Rig} {pinned : List Handle} {released : List (Handle × Bool)}
    (tells : rig.Tells rig' pinned released) {h : Handle} (left : (h, false) ∈ released) :
    ∃ error, .called (.releaseBuffer h) (.error error) ∈ rig'.history.events := by
  obtain ⟨new, events, -, rfl⟩ := tells
  obtain ⟨event, member, released⟩ := List.mem_filterMap.1 left
  cases event with
  | called c answer =>
    cases answer with
    | error error => cases c <;> cases released; exact ⟨error, by simp [events, member]⟩
    | ok buffer => cases c <;> cases released
  | _ => cases released

/-- How the setup of the memory ends, and what of it there is to see. -/
inductive Rig.Sets (rig : Rig) (devices : List Device) (segment : Segment) :
    Except ServerError (DeviceSet × ZoneTable) → Rig → Prop
  | failed {error : ServerError} {rig' : Rig} {pinned : List Handle} (nodup : pinned.Nodup)
      (milestones : rig'.milestones = rig.milestones ++ pinned.map .pinned ++ pinned.map .released)
      (live : rig.host.Spare (segment.demand devices) →
        (∀ h error, .called (.releaseBuffer h) (.error error) ∉ rig'.history.events) →
        ∀ h, rig'.host.buffer? h = rig.host.buffer? h) :
      Sets rig devices segment (.error error) rig'
  | pinned {set : DeviceSet} {table : ZoneTable} {rig' : Rig} (nodup : table.buffers.Nodup)
      (milestones : rig'.milestones = rig.milestones ++ table.buffers.map .pinned) :
      Sets rig devices segment (.ok (set, table)) rig'

theorem Rig.milestones_of_setup {rig next mid : Rig} {devices : List Device} {segment : Segment}
    {set : DeviceSet} {pinned : List Handle} {answer : Except ServerError ZoneTable}
    (created : DeviceSet.create devices rig = (.ok set, next))
    (setup : segment.setupZones set.zoneLength (pinNext set.context)
      (next.log (.settingUpMemory set.zoneLength), []) = (answer, mid, pinned)) :
    mid.milestones = rig.milestones ++ pinned.reverse.map .pinned := by
  obtain ⟨drawn, zones, -, -, prepares, pins, kept, -⟩ := pins_of_setup created setup
  have deeds := deeds_setupZones segment set.zoneLength set.context
    (next.log (.settingUpMemory set.zoneLength), [])
  rw [setup, deeds_log, deeds_of_create created] at deeds
  rw [kept]
  exact (prepares.tells.trans pins.tells).milestones deeds

theorem Rig.sets_initialise {rig rig' : Rig} {devices : List Device} {segment : Segment}
    {result : Except ServerError (DeviceSet × ZoneTable)}
    (small : segment.size < Segment.unmappable)
    (h : rig.initialise devices segment = (result, rig')) :
    rig.Sets devices segment result rig' := by
  have small : segment.size ≤ 2 ^ 64 := small.le.trans (by decide)
  cases initialises_of_initialise h with
  | uncreated created =>
    obtain ⟨drawn, -, prepares⟩ := prepares_create created
    refine .failed List.nodup_nil ?_ fun _ _ => prepares.buffer?
    simpa using prepares.tells.milestones (deeds_of_create created)
  | @unpinned set next mid error pinned created setup =>
    obtain ⟨drawn, zones, less, few, prepares, pins, kept, -⟩ := pins_of_setup created setup
    obtain ⟨released, unpins, named⟩ := mid.unpins_unpinZones pinned.reverse
    refine .failed (pins.nodup (few.trans small)) ?_ fun spare worked h => ?_
    · rw [milestones_unpinZones, milestones_of_setup created setup, kept]
    · have spare := (spare.mono less).draws prepares.draws
      obtain ⟨keeps, live⟩ := pins.released spare unpins (named.trans kept)
      have none : (h, false) ∉ released := fun left => by
        obtain ⟨error, failed⟩ := unpins.tells.failed left
        exact worked h error failed
      rw [← prepares.buffer?]
      cases here : (next.log (.settingUpMemory set.zoneLength)).host.buffer? h with
      | some buffer => exact keeps.buffers h buffer here
      | none =>
        have gone := (live h).not.2 (by simp [here, none])
        simpa using gone
  | @pinned set next mid table pinned created setup =>
    obtain ⟨drawn, zones, -, few, -, pins, kept, zoned⟩ := pins_of_setup created setup
    obtain rfl := zoned table rfl
    refine .pinned (pins.nodup (few.trans small)) ?_
    rw [milestones_log, milestones_of_setup created setup, kept]
    rfl

namespace Scene

variable {server : Server} {waiter : Option Nat} {sc sc' : Scene}

/-- A step of the thread that ends the server, or nothing of what this is about. -/
theorem Leaving.milestones_cases {t : Nat} {drained : Multiset Nat} {thread : Thread}
    (leaving : Leaving server t drained thread sc)
    (h : Move (.server server.pool.threads) sc sc') :
    (sc'.milestones = sc.milestones ∧ sc'.world.threads[t]? = some thread) ∨
    ∃ thread' s', thread.Steps sc.world.exits sc.world.shared s' thread' ∧
      sc' = ⟨⟨s', sc.world.threads.set t thread'⟩, sc.hands⟩ := by
  have here := leaving.finishing.here
  have busy : ∀ u ∈ some t, ∀ other ∈ sc.world.threads[u]?, other.frames ≠ [] ∧
      ∀ ticket, other.frames ≠ [.awaitReply ticket] := by
    rintro u ⟨rfl⟩ other there
    obtain rfl := Option.some.inj (here.symm.trans there)
    exact ⟨leaving.busy, leaving.patient⟩
  rcases h.milestones_cases leaving.finishing.staffed busy with ⟨same, kept⟩ |
    ⟨_, ⟨rfl⟩, other, thread', s', there, steps, rfl⟩
  · exact .inl ⟨same, kept t rfl thread here⟩
  · obtain rfl := Option.some.inj (here.symm.trans there)
    exact .inr ⟨thread', s', steps, rfl⟩

/-- No thread vanishes. -/
theorem Move.survives {offered : Interface} {t : Nat} {thread : Thread} (h : Move offered sc sc')
    (here : sc.world.threads[t]? = some thread) :
    ∃ thread', sc'.world.threads[t]? = some thread' := by
  have bound := (List.getElem?_eq_some_iff.1 here).1
  have kept : sc.world.threads.length ≤ sc'.world.threads.length := by
    cases h.shift with
    | steps u goes =>
      obtain ⟨_, _, _, -, -, rfl⟩ := World.steps_of_step goes
      exact (List.length_set ..).ge
    | starts name => simp [World.start]
    | builds | spills | signals => exact le_rfl
    | calls => exact (List.length_modify ..).ge
  exact ⟨_, List.getElem?_eq_getElem (bound.trans_le kept)⟩

/-- What the server has passed and what is still to come make up its course. -/
def Coursing (server : Server) (sc : Scene) : Option Nat → Prop
  | none => sc.milestones ++ server.ending.flatMap Frame.course = server.course
  | some t => ∃ thread, sc.world.threads[t]? = some thread ∧
    sc.milestones ++ thread.course = server.course

theorem Coursing.move (coursing : Coursing server sc waiter) (alive : Alive server sc waiter)
    (h : Move (.server server.pool.threads) sc sc') : Coursing server sc' waiter := by
  cases alive with
  | serving staffed opened =>
    rw [Coursing, h.milestones staffed]
    exact coursing
  | @leaving t drained thread leaving =>
    obtain ⟨_, here, course⟩ := coursing
    obtain rfl := Option.some.inj (leaving.finishing.here.symm.trans here)
    rcases leaving.milestones_cases h with ⟨same, kept⟩ | ⟨thread', s', steps, rfl⟩
    · exact ⟨thread, kept, by rw [same, course]⟩
    · have onward := steps.course fun panics => (leaving.cut panics).2
      exact ⟨thread', getElem?_set_here here, onward.trans course⟩
  | @left t drained staffed outside =>
    obtain ⟨thread, here, course⟩ := coursing
    obtain ⟨thread', here'⟩ := h.survives here
    rcases h.staffed staffed (by simp) with ⟨staffed', -⟩ | ⟨_, member, -⟩
    · have own := (staffed.produces t outside (by simp) thread here).serves
      have own' := (staffed'.produces t outside (by simp) thread' here').serves
      rw [Thread.course_of_serves own] at course
      refine ⟨thread', here', ?_⟩
      rw [h.milestones staffed, Thread.course_of_serves own', course]
    · cases member

theorem Lives.coursing (lives : Lives server waiter sc)
    (start : Alive server ⟨server.world, []⟩ none)
    (begins : Coursing server ⟨server.world, []⟩ none) : Coursing server sc waiter := by
  induction lives with
  | begins => exact begins
  | moves before h ih => exact ih.move (before.alive start) h
  | waits before outside idle ih =>
    obtain ⟨thread, here, -⟩ := idle
    refine ⟨.calling thread.name server.ending, ?_, ih⟩
    rw [World.assign_eq here]
    exact getElem?_set_here here

/-- Memory is given back only when the threads are gone and the queue is shut. -/
theorem Alive.vacated (alive : Alive server sc waiter)
    (h : Move (.server server.pool.threads) sc sc') {new : List Milestone}
    (more : sc'.milestones = sc.milestones ++ new)
    (freed : .unmapped ∈ new ∨ ∃ buffer, .released buffer ∈ new) :
    Vacated server.pool.threads sc := by
  have unchanged (same : sc'.milestones = sc.milestones) : Vacated server.pool.threads sc := by
    rw [same] at more
    simp [List.append_right_eq_self.1 more.symm] at freed
  cases alive with
  | serving staffed => exact unchanged (h.milestones staffed)
  | left staffed => exact unchanged (h.milestones staffed)
  | @leaving t drained thread leaving =>
    rcases leaving.milestones_cases h with ⟨same, -⟩ | ⟨thread', s', steps, rfl⟩
    · exact unchanged same
    · -- What is new is what the frame on top has come to.
      have given {f : Frame} {rest frames : List Frame} (top : thread.frames = f :: rest)
          (course : s'.milestones ++ frames.flatMap Frame.course =
            sc.world.shared.milestones ++ f.course) : Vacated server.pool.threads sc := by
        have more : s'.milestones = sc.world.shared.milestones ++ new := more
        rw [more, List.append_assoc, List.append_cancel_left_eq] at course
        have all : ∀ milestone ∈ new, milestone ∈ f.course := fun milestone member => by
          rw [← course]
          exact List.mem_append_left _ member
        have releases : f.releases := Frame.releases_of_course
          (freed.imp (all _) fun ⟨buffer, member⟩ => ⟨buffer, all _ member⟩)
        exact (leaving.vacated top (.inl releases)).1
      cases steps with
      | moved top _ step => exact given top (Frame.step_course step)
      | panicked => exact unchanged rfl
      | unwound top panics unwinds =>
        have apart := (leaving.cut (by simp [panics])).2
        refine given top (Frame.unwind_course ?_ unwinds)
        rintro pending joined rfl
        exact apart pending joined (by simp [top])

end Scene

namespace Server

variable {σ : Type} {rig : Rig} {surroundings : Surroundings} {devices : List Device}
  {settings : Settings} {spawner : Spawner σ} {seed : σ} {server : Server}

/-- When the server is handed over, its memory is pinned and its threads are started. -/
theorem Starts.coursing (starts : Starts rig surroundings devices settings spawner seed server)
    (fresh : rig.history = .empty) :
    Scene.Coursing server ⟨server.world, []⟩ none ∧ server.table.buffers.Nodup := by
  have silent := Rig.messages_of_fresh fresh
  obtain ⟨segment, set, table, rig', allocated, initialised, rises⟩ := starts
  have mapped : (rig.record (.mapped segment.size)).milestones = [.mapped] := by
    rw [Rig.milestones_record, Rig.milestones, fresh]
    rfl
  have begins : Launching ⟨[], threadCount settings.threads surroundings.processors, none⟩
      (.fresh (rig'.log .starting) set ⟨0, devices.length⟩) := by
    refine launching_fresh set _ ?_ _
    rw [Rig.messages_of_deeds (Rig.deeds_log _ _),
      Rig.messages_of_deeds (Rig.deeds_of_initialise initialised), Rig.messages_eq_filter,
      Rig.deeds_record, List.filter_append, ← Rig.messages_eq_filter, silent]
    rfl
  obtain ⟨milestones, rfl⟩ := rises.milestones begins
  obtain ⟨rfl, small⟩ := Segment.of_allocate allocated
  cases Rig.sets_initialise small initialised with
  | pinned nodup pinned =>
    have opening : (World.fresh (rig'.log .starting) set ⟨0, devices.length⟩).shared.milestones =
        .mapped :: server.table.buffers.map .pinned := by
      show (rig'.log .starting).milestones = _
      rw [Rig.milestones_log, pinned, mapped]
      rfl
    refine ⟨?_, nodup⟩
    rw [Scene.Coursing, Scene.milestones, milestones, opening]
    simp [ending, course, Pool.finishing, Pool.joining, Frame.course]

end Server

/-- A server that cannot be started leaves nothing behind. Otherwise its memory is pinned before any
thread is started, and given back, once, when all threads are joined and the queue is shut. -/
theorem start_and_end_in_order {σ : Type} {rig : Rig} {surroundings : Surroundings}
    {devices : List Device} {settings : Settings} {spawner : Spawner σ} {seed : σ}
    (fresh : rig.history = .empty) :
    (∀ error, (∃ rig', Server.start rig surroundings devices settings spawner seed =
        .error (error, rig')) ↔
      Segment.allocate surroundings.base settings.memory = .error error ∨
      ∃ segment, Segment.allocate surroundings.base settings.memory = .ok segment ∧
        ((rig.record (.mapped segment.size)).initialise devices segment).1 = .error error) ∧
    (∀ error rig', Server.start rig surroundings devices settings spawner seed =
        .error (error, rig') →
      (∀ index, .spawned index ∉ rig'.milestones ∧ .spawnRefused index ∉ rig'.milestones) ∧
      (rig'.milestones = [] ∨ ∃ buffers : List Handle, buffers.Nodup ∧
        rig'.milestones =
          .mapped :: buffers.map .pinned ++ buffers.map .released ++ [.unmapped]) ∧
      ((∀ buffer error, .called (.releaseBuffer buffer) (.error error) ∉ rig'.history.events) →
        ∀ created, rig.host.Arises created →
          created + (Segment.mk surroundings.base settings.memory).demand devices ≤ 2 ^ 64 →
          ∀ h, rig'.host.buffer? h = rig.host.buffer? h)) ∧
    (∀ server state, Server.start rig surroundings devices settings spawner seed =
        .ok (server, state) →
      Server.Starts rig surroundings devices settings spawner seed server) ∧
    ∀ server, Server.Starts rig surroundings devices settings spawner seed server →
      (∃ pair, Server.start rig surroundings devices settings spawner seed = .ok pair) ∧
      server.table.buffers.Nodup ∧
      ∀ waiter sc, Scene.Lives server waiter sc →
        sc.milestones <+: server.course ∧
        (∀ t ∈ waiter, ∀ thread, sc.world.threads[t]? = some thread → thread.frames = [] →
          sc.milestones = server.course) ∧
        ∀ sc' new, Scene.Move (.server server.pool.threads) sc sc' →
          sc'.milestones = sc.milestones ++ new →
          (.unmapped ∈ new ∨ ∃ buffer, .released buffer ∈ new) →
          Scene.Vacated server.pool.threads sc := by
  have silent := Rig.messages_of_fresh fresh
  have none : rig.milestones = [] := by rw [Rig.milestones, fresh]; rfl
  -- The three ways in which a start can go, for all the parts at once.
  generalize outcome : Server.start rig surroundings devices settings spawner seed = result
  have begins := outcome ▸ Server.begins_start rig surroundings devices settings spawner seed
  refine ⟨fun error => ?_, ?_, ?_, fun server starts => ⟨?_, ?_⟩⟩
  · cases begins with
    | unmapped refused => simp [refused]
    | unpinned allocated refused => simp [allocated, refused]
    | launched allocated initialised => simp [allocated, initialised]
  · rintro error rig' rfl
    cases begins with
    | unmapped refused => simp [none]
    | @unpinned segment _ rig' allocated refused =>
      have mapped : (rig.record (.mapped segment.size)).milestones = [.mapped] := by
        rw [Rig.milestones_record, none]
        rfl
      obtain ⟨rfl, small⟩ := Segment.of_allocate allocated
      cases Rig.sets_initialise small refused with
      | @failed _ _ pinned nodup milestones live =>
        have course : (rig'.record (.unmapped settings.memory)).milestones =
            .mapped :: pinned.map .pinned ++ pinned.map .released ++ [.unmapped] := by
          rw [Rig.milestones_record, milestones, mapped]
          rfl
        rw [course]
        refine ⟨by simp, .inr ⟨pinned, nodup, rfl⟩, fun worked created arises few h =>
          live (arises.spare few) (fun buffer error => ?_) h⟩
        have absent := worked buffer error
        simpa [Rig.record] using absent
  · rintro server state rfl
    exact starts_of_start outcome
  · obtain ⟨segment, set, table, rig', allocated, initialised, -⟩ := starts
    cases begins with
    | unmapped refused =>
      rw [allocated] at refused
      cases refused
    | unpinned allocated' refused =>
      cases allocated.symm.trans allocated'
      rw [initialised] at refused
      cases refused
    | launched => exact ⟨_, rfl⟩
  · obtain ⟨coursing, nodup⟩ := starts.coursing fresh
    obtain ⟨staffed, opened⟩ := staffed_of_starts silent starts
    refine ⟨nodup, fun waiter sc lives => ?_⟩
    have alive := lives.alive (.serving staffed opened)
    have coursing := lives.coursing (.serving staffed opened) coursing
    refine ⟨?_, ?_, fun sc' new move more freed => alive.vacated move more freed⟩
    · cases waiter with
      | none => exact ⟨_, coursing⟩
      | some t =>
        obtain ⟨thread, -, course⟩ := coursing
        exact ⟨_, course⟩
    · rintro t ⟨rfl⟩ thread here finished
      obtain ⟨_, here', course⟩ := coursing
      obtain rfl := Option.some.inj (here.symm.trans here')
      rwa [Thread.course, finished, List.flatMap_nil, List.append_nil] at course

/-- A server of which the second thread could not be started. -/
def Server.short : Except (ServerError × Rig) (Server × Unit) :=
  start (.ofHost (.ofSizes [10] false) .always .none) ⟨0x1000, none⟩ (Host.simulated 0 [10])
    ⟨2, 25⟩ (fun index state => (if index = 0 then .serving else .refused "no thread", state)) ()

theorem Server.short_serving (index : Nat) (state : Unit) (text : String) :
    (if index = 0 then Spawn.serving else .refused "no thread", state).1 ≠ .doomed text := by
  dsimp only
  split <;> exact Spawn.noConfusion

/-- It comes to its end by itself, since it is shutting down when it is handed over. -/
theorem Server.short_lives {kind : Server → Prop}
    (known : ∃ pair ∈ Server.short.toOption, kind pair.1) :
    ∃ server, Server.short = .ok (server, ()) ∧ kind server ∧
      Scene.Lives server (some mainNumber) ⟨server.waitForShutdown, []⟩ ∧
      ∃ thread ∈ server.waitForShutdown.threads[mainNumber]?, thread.idles := by
  have runs : ∃ pair ∈ Server.short.toOption, mainNumber ∉ pair.1.pool.threads ∧
      (∃ thread ∈ pair.1.world.threads[mainNumber]?, thread.idles) ∧
      ∃ thread ∈ pair.1.waitForShutdown.threads[mainNumber]?, thread.idles := by decide +kernel
  obtain ⟨⟨server, state⟩, here, outside, idle, back⟩ := runs
  obtain ⟨pair, here', known⟩ := known
  obtain rfl := Option.some.inj (here'.symm.trans here)
  have started : Server.short = .ok (server, ()) := eq_ok_of_mem_toOption here
  exact ⟨server, started, known,
    Scene.Lives.of_steps (.waits .begins outside idle) server.reaches_waitForShutdown, back⟩

/-- All that it has acquired is given back. -/
theorem start_and_end_in_order_of_short :
    ∃ server, Server.short = .ok (server, ()) ∧
      Scene.Lives server (some mainNumber) ⟨server.waitForShutdown, []⟩ ∧
      Scene.milestones ⟨server.waitForShutdown, []⟩ = [.mapped, .pinned 3, .pinned 4, .pinned 5,
        .spawned 0, .spawnRefused 1, .joined 1, .released 3, .released 4, .released 5,
        .unmapped] := by
  obtain ⟨server, started, course, lives, thread, back, finished, -⟩ :=
    @Server.short_lives (fun server => server.course = [.mapped, .pinned 3, .pinned 4, .pinned 5,
      .spawned 0, .spawnRefused 1, .joined 1, .released 3, .released 4, .released 5, .unmapped])
      (by decide +kernel)
  obtain ⟨-, -, starts, ends⟩ := start_and_end_in_order
    (rfl : (Rig.ofHost (.ofSizes [10] false) .always .none).history = .empty)
  obtain ⟨-, -, ends⟩ := ends server (starts server () started)
  have whole := (ends _ _ lives).2.1 mainNumber rfl thread back finished
  exact ⟨server, started, lives, whole.trans course⟩

end DispatchServer
