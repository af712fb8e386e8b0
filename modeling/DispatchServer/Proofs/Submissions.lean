import DispatchServer.Proofs.Selections

/-! What becomes of a submission. Its answer is the device that it has picked, or that the queue is
closed; and the server was started with one queue for each device, in the order of the devices. -/
namespace DispatchServer

namespace Thread

variable {thread thread' : Thread} {exits : Nat → Option Exit} {s s' : Shared}
  {above below : List Frame}

/-- A submission tells its caller the device, or that it was refused. -/
theorem Steps.telling {device : Nat} (steps : thread.Steps exits s s' thread')
    (frames : thread.frames = above ++ .submitted device :: below) :
    (∃ above, thread'.frames = above ++ .submitted device :: below) ∨
      thread'.frames = below ∧ (thread'.panicking = none →
        thread'.answer = .device device ∨ thread'.answer = .refused) := by
  rcases steps.beneath frames with stays | frames
  · exact .inl stays
  right
  cases steps with
  | moved top _ h =>
    obtain ⟨rfl, rfl⟩ := List.cons.inj (frames.symm.trans top)
    cases h
    refine ⟨rfl, fun _ => ?_⟩
    dsimp only
    split
    · exact .inl rfl
    · exact .inr rfl
  | panicked top =>
    rw [frames] at top
    cases top
  | unwound top _ h =>
    obtain ⟨rfl, rfl⟩ := List.cons.inj (frames.symm.trans top)
    cases h
    exact ⟨rfl, by simp⟩

end Thread

namespace Scene

variable {offered : Interface} {sc sc' : Scene} {t device : Nat} {below : List Frame}

def Telling (sc : Scene) (t device : Nat) (below : List Frame) : Prop :=
  ∃ thread above, sc.world.threads[t]? = some thread ∧
    thread.frames = above ++ .submitted device :: below

theorem Telling.move (telling : sc.Telling t device below) (h : Move offered sc sc') :
    sc'.Telling t device below ∨ ∃ thread, sc'.world.threads[t]? = some thread ∧
      thread.frames = below ∧ (thread.panicking = none →
        thread.answer = .device device ∨ thread.answer = .refused) := by
  obtain ⟨thread, above, here, frames⟩ := telling
  rcases h.thread_cases here with here' | ⟨s', thread', steps, -, here'⟩ | none | ⟨_, none, -⟩
  · exact .inl ⟨thread, above, here', frames⟩
  · rcases steps.telling frames with ⟨above, frames⟩ | ⟨back, told⟩
    · exact .inl ⟨thread', above, here', frames⟩
    · exact .inr ⟨thread', here', back, told⟩
  · simp [frames] at none
  · rw [frames] at none
    cases above <;> simp at none

/-- However long the submission takes. -/
theorem Telling.leaves {last : Scene} {answer : Answer} (telling : sc.Telling t device below)
    (leaves : Leaves offered t below sc last answer) :
    answer = .device device ∨ answer = .refused := by
  obtain ⟨name, before, run, final, back⟩ := leaves
  have telling : before.Telling t device below := by
    clear final
    induction run with
    | refl => exact telling
    | @tail a b run move ih =>
      refine (ih.move move.1).resolve_right fun ⟨thread, here, frames, _⟩ => ?_
      obtain ⟨thread', there, above, some, high⟩ := move.2
      obtain rfl := Option.some.inj (here.symm.trans there)
      rw [frames] at high
      simp [List.self_eq_append_left, some] at high
  rcases telling.move final with ⟨thread, above, here, frames⟩ | ⟨thread, here, -, told⟩
  · obtain rfl := Option.some.inj (back.symm.trans here)
    have := congrArg List.length frames
    simp only [List.length_append, List.length_cons] at this
    omega
  · obtain rfl := Option.some.inj (back.symm.trans here)
    exact told rfl

end Scene

namespace Rig

variable {rig rig' : Rig}

def Binds (rig : Rig) (context : Handle) (device : Device) (queue : Handle) : Prop :=
  rig.host.queue? queue = some ⟨context, device.id, .dispatch⟩

theorem binds_createQueues {context position : Nat} {devices : List Device} {queues : List Handle}
    (few : devices.length < 2 ^ 64)
    (h : DeviceSet.createQueues context position devices rig = (.ok queues, rig')) :
    List.Forall₂ (rig'.Binds context) devices queues := by
  induction devices generalizing position rig queues with
  | nil =>
    cases h
    exact .nil
  | cons device devices ih =>
    obtain ⟨mid, later, calls, host, created, rfl⟩ := createQueues_cases h
    rw [List.length_cons] at few
    obtain ⟨drawn, less, rest⟩ := prepares_createQueues created
    have kept : rig'.host.queue? rig.host.handle = mid.host.queue? rig.host.handle := by
      refine rest.draws.queues _ fun i inside same => ?_
      rw [Host.upcoming_of_next (by rw [host]), ← Host.upcoming_zero] at same
      have := Host.upcoming_inj (by omega) (by omega) same
      omega
    refine .cons ?_ (ih (by omega) created)
    rw [Binds, kept, host, Host.queue?, Host.getElem?_insert, if_pos rfl]

theorem binds_create {devices : List Device} {set : DeviceSet} (few : devices.length < 2 ^ 64)
    (h : DeviceSet.create devices rig = (.ok set, rig')) :
    List.Forall₂ (rig'.Binds set.context) devices set.queues := by
  obtain ⟨mid, last, queues, calls, -, created, rfl, rfl⟩ := create_cases h
  exact (binds_createQueues few created).imp fun _ _ here => here

theorem binds_initialise {devices : List Device} {segment : Segment} {set : DeviceSet}
    {table : ZoneTable} (few : devices.length < 2 ^ 64)
    (h : rig.initialise devices segment = (.ok (set, table), rig')) :
    List.Forall₂ (rig'.Binds set.context) devices set.queues := by
  cases initialises_of_initialise h with
  | pinned created setup =>
    obtain ⟨zones, pins, -⟩ := pins_setupZones setup
    refine (binds_create few created).imp fun device queue here => ?_
    rw [Binds, Host.queue?, (pins.log _).queues]
    exact here

end Rig

variable {σ : Type} {spawner : Spawner σ} {seed state : σ} {requested : Nat} {opening w : World}
  {pool : Pool}

/-- Nobody picks a device while the threads are being started. -/
structure World.Unpicked (opening w : World) : Prop where
  furnishes : opening.shared.Furnishes w.shared
  robin : w.shared.robin = opening.shared.robin
  modest : ∀ thread ∈ w.threads, ∀ f ∈ thread.frames, f.picks = false

theorem World.Unpicked.step {v : World} {t : Nat} (unpicked : opening.Unpicked w)
    (h : w.step t = some v) : opening.Unpicked v := by
  obtain ⟨furnishes, robin, modest⟩ := World.rotates_of_step h
  refine ⟨unpicked.furnishes.trans furnishes, ?_, modest unpicked.modest⟩
  have none : w.pick? t = none := by
    unfold World.pick?
    cases here : w.threads[t]? with
    | none => rfl
    | some thread =>
      have modest := unpicked.modest thread (List.mem_of_getElem? here)
      simp only [Option.bind_some, Thread.pick?]
      split
      · rename_i f rest top _
        have modest := modest f (top ▸ List.mem_cons_self)
        cases f <;> first | rfl | cases modest
      · rfl
  rw [robin, none]
  exact unpicked.robin

theorem World.Unpicked.reaches {v : World} (unpicked : opening.Unpicked w)
    (run : World.Reaches w v) : opening.Unpicked v := by
  induction run with
  | refl => exact unpicked
  | step t h _ ih => exact ih (unpicked.step h)

theorem World.Launches.unpicked
    (launches : World.Launches spawner requested opening seed pool w state)
    (begins : opening.Unpicked opening) : opening.Unpicked w := by
  induction launches with
  | begins => exact begins
  | step before t h ih => exact ih.step h
  | @spawned pool w _ _ spawn before _ _ _ _ ih =>
    refine ⟨ih.furnishes.trans ⟨rfl, rfl, rfl⟩, ih.robin, fun thread member => ?_⟩
    rcases List.mem_append.1 member with member | member
    · exact ih.modest thread member
    · rw [List.mem_singleton.1 member]
      cases spawn <;> simp [Spawn.thread, Thread.calling, Frame.picks]
  | refused before _ _ _ ih => exact ⟨ih.furnishes.trans ⟨rfl, rfl, rfl⟩, ih.robin, ih.modest⟩

theorem Server.Rises.unpicked {segment : Segment} {table : ZoneTable} {server : Server}
    (begins : opening.Unpicked opening)
    (main : opening.threads[mainNumber]? = some (.idle mainThread))
    (rises : Server.Rises spawner requested opening seed segment table server) :
    opening.Unpicked server.world := by
  cases rises with
  | up launched =>
    have up := launched.unpicked begins
    exact ⟨up.furnishes.trans ⟨rfl, rfl, rfl⟩, up.robin, up.modest⟩
  | @missing pool w v state cause launched short run =>
    have missing := launched.unpicked begins
    have main : (World.mk (w.shared.log mainThread .threadsMissing)
        w.threads).threads[mainNumber]? = some (.idle mainThread) := launched.main main
    refine World.Unpicked.reaches ?_ run
    rw [World.assign_eq main]
    exact ⟨missing.furnishes.trans ⟨rfl, rfl, rfl⟩, missing.robin,
      forall_mem_set missing.modest (by simp [Thread.calling, Frame.picks])⟩

theorem Server.Starts.equipped {rig : Rig} {surroundings : Surroundings} {devices : List Device}
    {settings : Settings} {server : Server} (few : devices.length < 2 ^ 64)
    (starts : Server.Starts rig surroundings devices settings spawner seed server) :
    server.world.shared.robin = ⟨0, devices.length⟩ ∧ devices ≠ [] ∧
      List.Forall₂ (server.world.shared.rig.Binds server.world.shared.devices.context) devices
        server.world.shared.devices.queues := by
  obtain ⟨segment, set, table, rig', -, initialised, rises⟩ := starts
  have bound := Rig.binds_initialise few initialised
  have some := (Rig.devices_of_initialise initialised).2
  have unpicked := rises.unpicked
    ⟨⟨rfl, rfl, rfl⟩, rfl, by simp [World.fresh, Thread.idle]⟩ rfl
  refine ⟨unpicked.robin, some, ?_⟩
  rw [unpicked.furnishes.devices]
  refine bound.imp fun device queue here => ?_
  rw [Rig.Binds, Host.queue?, unpicked.furnishes.queues]
  exact here

namespace Scene

variable {offered : Interface} {first sc sc' : Scene} {picks : List Pick} {t : Nat} {name : String}
  {below : List Frame} {left : Answer}

theorem frames_of_goes {f : Frame} {frames : List Frame} {answer : Answer} {s' : Shared}
    (here : sc.world.threads[t]? = some ⟨name, f :: below, left, none⟩)
    (moved : f.step name left sc.world.exits sc.world.shared = .moved s' frames answer)
    (goes : sc.Goes t sc') :
    sc'.world.threads[t]? = some ⟨name, frames ++ below, answer, none⟩ := by
  have step := goes.1
  rw [World.step_of_moved here moved] at step
  rw [← Option.some.inj step]
  exact getElem?_set_here here

theorem Picked.submit {plan : Blueprint} (picked : Picked offered first picks sc)
    (here : sc.world.threads[t]? = some ⟨name, .submit plan :: below, left, none⟩)
    (goes : sc.Goes t sc') :
    ∃ pick ticket, pick.ticket = some ticket ∧ Picked offered first (picks ++ [pick]) sc' ∧
      sc'.world.threads[t]? = some ⟨name, .enqueue ⟨ticket, plan.onDevice pick.device⟩ ::
        .submitted pick.device :: below, .done, none⟩ ∧
      ∀ last answer, Leaves offered t below sc' last answer →
        answer = .device pick.device ∨ answer = .refused := by
  have here' := frames_of_goes here rfl goes
  have picked := picked.goes goes
  have pick : sc.world.pick? t =
      some ⟨sc.world.shared.robin.select.1, some sc.world.shared.ledger.next⟩ := by
    rw [World.pick?, here]
    rfl
  rw [pick] at picked
  refine ⟨_, _, rfl, picked, here', fun last answer leaves => ?_⟩
  exact Telling.leaves ⟨_, [.enqueue _], here', rfl⟩ leaves

theorem Picked.select (picked : Picked offered first picks sc)
    (here : sc.world.threads[t]? = some ⟨name, .select :: below, left, none⟩)
    (goes : sc.Goes t sc') :
    ∃ pick, Picked offered first (picks ++ [pick]) sc' ∧
      sc'.world.threads[t]? = some ⟨name, below, .device pick.device, none⟩ := by
  have here' := frames_of_goes here rfl goes
  have picked := picked.goes goes
  have pick : sc.world.pick? t = some ⟨sc.world.shared.robin.select.1, none⟩ := by
    rw [World.pick?, here]
    rfl
  rw [pick] at picked
  exact ⟨_, picked, here'⟩

end Scene

/-- The devices of a server take turns, at bare selections and at submissions alike, whether these
are accepted or not. A message is processed for the device of its turn, which is the one that its
producer is told unless it was refused, and behind that device stands its own queue. -/
theorem devices_take_turns {rig : Rig} {surroundings : Surroundings} {devices : List Device}
    {settings : Settings} {server : Server} {picks : List Pick} {sc : Scene}
    (few : devices.length < 2 ^ 64) (silent : rig.messages = [])
    (starts : Server.Starts rig surroundings devices settings spawner seed server)
    (picked : Scene.Picked .queue ⟨server.world, []⟩ picks sc) :
    (∀ i < 2 ^ 64, ∀ pick ∈ picks[i]?, pick.device = i % devices.length) ∧
    (∀ pick ∈ picks, pick.device < devices.length ∧ ∃ device queue,
      devices[pick.device]? = some device ∧
      sc.world.shared.devices.queue? pick.device = some queue ∧
      sc.world.shared.rig.host.queue? queue =
        some ⟨sc.world.shared.devices.context, device.id, ⟨true, true⟩⟩) ∧
    (∀ pick ∈ picks, ∀ ticket ∈ pick.ticket, ∀ device thread,
      .begun ticket device thread ∈ sc.world.shared.rig.history.events → device = pick.device) ∧
    (∀ t name plan below left sc',
      sc.world.threads[t]? = some ⟨name, .submit plan :: below, left, none⟩ → sc.Goes t sc' →
      ∃ pick ticket, pick.ticket = some ticket ∧
        Scene.Picked .queue ⟨server.world, []⟩ (picks ++ [pick]) sc' ∧
        sc'.world.threads[t]? = some ⟨name, .enqueue ⟨ticket, plan.onDevice pick.device⟩ ::
          .submitted pick.device :: below, .done, none⟩ ∧
        ∀ last answer, Scene.Leaves .queue t below sc' last answer →
          answer = .device pick.device ∨ answer = .refused) ∧
    ∀ t name below left sc',
      sc.world.threads[t]? = some ⟨name, .select :: below, left, none⟩ → sc.Goes t sc' →
      ∃ pick, Scene.Picked .queue ⟨server.world, []⟩ (picks ++ [pick]) sc' ∧
        sc'.world.threads[t]? = some ⟨name, below, .device pick.device, none⟩ := by
  obtain ⟨robin, some, bound⟩ := starts.equipped few
  obtain ⟨staffed, -⟩ := staffed_of_starts silent starts
  have dealt := picked.dealt staffed.sound robin
  have furnishes := picked.reaches.furnishes
  refine ⟨fun i few pick here => ?_, fun pick member => ?_, fun pick member ticket built d thread
    told => ?_, fun t name plan below left sc' => picked.submit,
    fun t name below left sc' => picked.select⟩
  · rw [dealt.turns i pick here, Nat.mod_eq_of_lt few]
  · obtain ⟨i, here⟩ := List.getElem?_of_mem member
    have bounded : pick.device < devices.length := by
      rw [dealt.turns i pick here]
      exact Nat.mod_lt _ (List.length_pos_iff.2 some)
    have bounded' := bounded
    rw [bound.length_eq] at bounded'
    refine ⟨bounded, devices[pick.device],
      server.world.shared.devices.queues[pick.device], List.getElem?_eq_getElem bounded, ?_, ?_⟩
    · rw [furnishes.devices]
      exact List.getElem?_eq_getElem bounded'
    · rw [furnishes.devices, Host.queue?, furnishes.queues]
      exact bound.get bounded bounded'
  · have assigned := dealt.assigned pick member ticket built
    exact assigned.begun d thread (List.mem_filter.2 ⟨told, rfl⟩)

/-- What is picked along a schedule. -/
def World.picks (w : World) : List Nat → List Pick
  | [] => []
  | t :: schedule =>
    match w.step t with
    | none => w.picks schedule
    | some v => (w.pick? t).toList ++ v.picks schedule

theorem Scene.Picked.run {offered : Interface} {first : Scene} {picks : List Pick} {w : World}
    {hands : List Message} (picked : Picked offered first picks ⟨w, hands⟩) (schedule : List Nat) :
    Picked offered first (picks ++ w.picks schedule) ⟨w.run schedule, hands⟩ := by
  induction schedule generalizing w picks with
  | nil => rwa [World.picks, List.append_nil]
  | cons t schedule ih =>
    cases stepped : w.step t with
    | none =>
      simp only [World.picks, World.run, stepped, Option.getD_none]
      exact ih picked
    | some v =>
      have goes : Goes ⟨w, hands⟩ t ⟨v, hands⟩ := ⟨stepped, rfl⟩
      simp only [World.picks, World.run, stepped, Option.getD_some, ← List.append_assoc]
      exact ih (picked.goes goes)

/-- A server with two devices and one thread. -/
def Server.paired : Except (ServerError × Rig) (Server × Unit) :=
  start (.ofHost (.ofSizes [10, 20] false) .always .none) ⟨0x1000, none⟩
    (Host.simulated 0 [10, 20]) ⟨1, 15⟩ (fun _ state => (.serving, state)) ()

def Service.twice : Service := .produce (.mk .closure "m" "m" 7 .done .done) 2

theorem Server.paired_runs : ∃ (server : Server) (schedule : List Nat),
    Server.paired = .ok (server, ()) ∧
    (∃ thread ∈ server.world.threads[mainNumber]?, thread.idles) ∧
    (server.world.assign mainNumber Service.twice.frames).picks schedule =
      [⟨0, some 0⟩, ⟨1, some 1⟩] ∧
    ((server.world.assign mainNumber Service.twice.frames).run schedule).shared.traffic.begun =
      [0, 1] := by
  have runs : ∃ pair ∈ Server.paired.toOption,
      (∃ thread ∈ pair.1.world.threads[mainNumber]?, thread.idles) ∧
      (pair.1.world.assign mainNumber Service.twice.frames).picks
        (.replicate 13 mainNumber ++ .replicate 20 1) = [⟨0, some 0⟩, ⟨1, some 1⟩] ∧
      ((pair.1.world.assign mainNumber Service.twice.frames).run
        (.replicate 13 mainNumber ++ .replicate 20 1)).shared.traffic.begun = [0, 1] := by
    decide +kernel
  obtain ⟨⟨server, state⟩, here, known⟩ := runs
  exact ⟨server, _, eq_ok_of_mem_toOption here, known⟩

/-- Both messages are processed, each for its own device. -/
theorem devices_take_turns_of_paired : ∃ (server : Server) (sc : Scene),
    Server.paired = .ok (server, ()) ∧ sc.traffic.begun = [0, 1] ∧
    Scene.Picked .queue ⟨server.world, []⟩ [⟨0, some 0⟩, ⟨1, some 1⟩] sc ∧
    ∀ device thread, .begun 1 device thread ∈ sc.world.shared.rig.history.events → device = 1 := by
  obtain ⟨server, schedule, started, ⟨thread, there, free⟩, picks, begun⟩ := Server.paired_runs
  have called : Scene.Picked .queue ⟨server.world, []⟩ []
      ⟨server.world.assign mainNumber Service.twice.frames, []⟩ :=
    .aside .begins (.call mainNumber .twice trivial trivial ⟨thread, there, free⟩)
      (Scene.still_of_assign there free.1 (List.cons_ne_nil _ _))
  have picked := called.run schedule
  rw [picks] at picked
  obtain ⟨-, -, devices, -⟩ :=
    devices_take_turns (by decide) rfl (starts_of_start started) picked
  exact ⟨server, _, started, begun, picked, devices ⟨1, some 1⟩ (by simp) 1 rfl⟩

end DispatchServer
