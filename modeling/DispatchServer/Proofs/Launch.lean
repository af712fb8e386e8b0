import DispatchServer.Proofs.Staff
import DispatchServer.Proofs.Startup

/-! A server at its start. Threads run as soon as they are started, while others are still being
started; but whatever became of them, the queue is open, and each thread that was started is one of
the staff. -/
namespace DispatchServer

namespace Rig

def messages (rig : Rig) : List Event := rig.history.events.filter Event.isTraffic

theorem messages_eq_filter (rig : Rig) : rig.messages = rig.deeds.filter Event.isTraffic := by
  rw [messages, deeds, List.filter_filter]
  congr 1
  funext event
  cases event <;> rfl

theorem messages_of_deeds {rig rig' : Rig} (same : rig'.deeds = rig.deeds) :
    rig'.messages = rig.messages := by
  rw [messages_eq_filter, same, messages_eq_filter]

theorem messages_of_fresh {rig : Rig} (fresh : rig.history = .empty) : rig.messages = [] := by
  rw [messages, fresh]
  rfl

end Rig

theorem eq_ok_of_mem_toOption {ε α : Type} {result : Except ε α} {a : α}
    (here : a ∈ result.toOption) : result = .ok a := by
  cases result with
  | error => cases here
  | ok => rw [Option.some.inj here]

namespace Scene

/-- Nothing has been built yet, and there is nobody but the main thread. -/
theorem staffed_fresh {rig : Rig} (devices : DeviceSet) (robin : RoundRobin)
    (silent : rig.messages = []) :
    Staffed [] [] none 0 ⟨.fresh rig devices robin, []⟩ where
  typed := (sound_fresh devices robin silent).typed
  rooted := by simpa [World.fresh] using Thread.Rooted.idle mainThread
  exist := by simp
  serves := by simp
  produces t _ _ thread here := by
    cases t with
    | zero =>
      obtain rfl : Thread.idle mainThread = thread := Option.some.inj here
      simp [Thread.Produces, Thread.idle]
    | succ t => cases here
  accounts := by
    have traffic : traffic ⟨.fresh rig devices robin, []⟩ = ⟨.empty, [], []⟩ := by
      have silent : rig.history.events.filter Event.isTraffic = [] := silent
      simp [traffic, Shared.traffic, World.fresh, silent]
    have held : held ⟨.fresh rig devices robin, []⟩ = 0 := rfl
    have working : working ⟨.fresh rig devices robin, []⟩ = 0 := rfl
    have taken : taken ⟨.fresh rig devices robin, []⟩ = 0 := rfl
    have custody := (sound_fresh devices robin silent).custody
    rw [traffic, held, working] at custody
    rw [traffic, held, working, taken]
    refine ⟨custody, by simp [DispatchServer.present], fun k queued => ?_,
      by simp [DispatchServer.present], ?_, by simp, rfl⟩
    · simp [Ledger.empty, Ledger.status?] at queued
    · simp [Traffic.failures]

end Scene

def Pool.staff (pool : Pool) : List String := (List.range pool.started).map workerName

structure Launching (pool : Pool) (w : World) : Prop where
  staffed : Scene.Staffed pool.threads pool.staff none 0 ⟨w, []⟩
  opened : w.shared.Opened
  main : w.threads[mainNumber]? = some (.idle mainThread)
  outside : mainNumber ∉ pool.threads

namespace Spawn

theorem waiting_thread (spawn : Spawn) (index : Nat) : (spawn.thread index).waiting = 0 := by
  cases spawn <;> rfl

theorem serves_thread (spawn : Spawn) (index : Nat) : (spawn.thread index).Serves := by
  cases spawn with
  | doomed text =>
    simp [Thread.Serves, thread, Thread.calling, Frame.Serves, Frame.produces, Script.confined]
  | _ => simp [Thread.Serves, thread, Thread.calling, Frame.Serves, Frame.attends]

theorem aloof_thread (spawn : Spawn) (index : Nat) :
    ∃ f, spawn.thread index = .calling (workerName index) [f] ∧ f.formed ∧ f.Aloof := by
  cases spawn with
  | doomed text => exact ⟨_, rfl, rfl, ⟨rfl, .worked _, rfl, rfl⟩⟩
  | _ => exact ⟨_, rfl, rfl, ⟨rfl, .refl _, rfl, rfl⟩⟩

end Spawn

/-- One more thread is started. -/
theorem Launching.start {pool : Pool} {w : World} (launching : Launching pool w)
    (spawn : Spawn) {s' : Shared} (traffic : s'.traffic = w.shared.traffic) (opened : s'.Opened) :
    Launching { pool with threads := pool.threads ++ [w.threads.length] }
      ⟨s', w.threads ++ [spawn.thread pool.started]⟩ := by
  obtain ⟨f, thread, formed, aloof⟩ := spawn.aloof_thread pool.started
  have alive : mainNumber < w.threads.length := (List.getElem?_eq_some_iff.1 launching.main).1
  have rooted : (spawn.thread pool.started).Rooted := by
    rw [thread]
    exact .calling_one formed aloof
  have all : ∀ g ∈ (spawn.thread pool.started).frames, g.Aloof := by
    rw [thread]
    simpa [Thread.calling] using aloof
  have staff : Pool.staff { pool with threads := pool.threads ++ [w.threads.length] } =
      pool.staff ++ [workerName pool.started] := by
    simp [Pool.staff, Pool.started, List.range_succ]
  refine ⟨?_, opened, ?_, ?_⟩
  · refine launching.staffed.start traffic ?_ rooted (spawn.waiting_thread _)
      (Thread.working_of_aloof all) (Thread.taken_of_aloof rooted all) (fun t less => ?_)
      (fun t worker => ?_) (fun name member => ?_) (fun _ => ⟨spawn.serves_thread _, ?_⟩)
      (fun outside => absurd (by simp) outside)
    · rw [thread]
      exact .calling_one formed aloof.takes
    · simp [less.ne]
    · rcases List.mem_append.1 worker with worker | worker
      · exact (launching.staffed.exist t worker).trans (Nat.lt_succ_self _)
      · rw [List.mem_singleton.1 worker]
        exact Nat.lt_succ_self _
    · exact staff ▸ List.mem_append_left _ member
    · rw [thread, staff]
      exact List.mem_append_right _ (List.mem_singleton_self _)
  · rw [List.getElem?_append_left alive]
    exact launching.main
  · simp [launching.outside, alive.ne]

theorem Launching.quiet {pool pool' : Pool} {w : World} (launching : Launching pool w)
    {s' : Shared} (same : pool'.threads = pool.threads) (traffic : s'.traffic = w.shared.traffic)
    (opened : s'.Opened) : Launching pool' { w with shared := s' } := by
  have staff : pool'.staff = pool.staff := by rw [Pool.staff, Pool.started, same]; rfl
  refine ⟨?_, opened, launching.main, same ▸ launching.outside⟩
  rw [same, staff]
  exact launching.staffed.quiet traffic

namespace Scene

variable {workers : List Nat} {staff : List String} {drained : Multiset Nat} {sc sc' : Scene}

theorem Reaches.staffed (run : Reaches (.server workers) sc sc')
    (staffed : sc.Staffed workers staff none drained) (opened : sc.world.shared.Opened) :
    sc'.Staffed workers staff none drained ∧ sc'.world.shared.Opened := by
  induction run with
  | refl => exact ⟨staffed, opened⟩
  | tail run move ih =>
    obtain ⟨staffed, opened⟩ := ih
    rcases move.staffed staffed (by simp) with ⟨staffed, kept, -⟩ | ⟨t, member, -⟩
    · exact ⟨staffed, opened.kept kept⟩
    · cases member

end Scene

theorem Launching.log {pool : Pool} {w : World} (launching : Launching pool w) (notice : Notice) :
    Launching pool { w with shared := w.shared.log mainThread notice } :=
  launching.quiet rfl (Shared.traffic_log _ _ _)
    ⟨launching.opened.closing, launching.opened.sealed, launching.opened.state⟩

theorem Launching.requests {pool : Pool} {w v : World} (launching : Launching pool w)
    (run : World.Reaches (w.assign mainNumber [.request .spawnFailure]) v) :
    Scene.Reaches (.server pool.threads) ⟨w, []⟩ ⟨v, []⟩ := by
  have request : Scene.Reaches (.server pool.threads) ⟨w, []⟩ ⟨_, []⟩ :=
    .single (.call mainNumber (.request .spawnFailure) trivial launching.outside
      ⟨_, launching.main, rfl, rfl⟩)
  exact request.trans (Scene.reaches_of_steps [] run)

theorem Launching.step {pool : Pool} {w v : World} {t : Nat} (launching : Launching pool w)
    (h : w.step t = some v) : Launching pool v := by
  have move : Scene.Move (.server pool.threads) ⟨w, []⟩ ⟨v, []⟩ := .step t h
  obtain ⟨staffed, opened⟩ :=
    Scene.Reaches.staffed (.single move) launching.staffed launching.opened
  exact ⟨staffed, opened, World.idle_of_step h launching.main rfl, launching.outside⟩

variable {σ : Type}

/-- Threads are being started one after the other, and those that were started already run. -/
inductive World.Launches (spawner : Spawner σ) (requested : Nat) (opening : World) (seed : σ) :
    Pool → World → σ → Prop
  | begins : Launches spawner requested opening seed ⟨[], requested, none⟩ opening seed
  | step {pool : Pool} {w v : World} {state : σ}
      (before : Launches spawner requested opening seed pool w state) (t : Nat)
      (h : w.step t = some v) : Launches spawner requested opening seed pool v state
  | spawned {pool : Pool} {w : World} {state state' : σ} {spawn : Spawn}
      (before : Launches spawner requested opening seed pool w state)
      (calm : pool.spawnError = none) (more : pool.started < requested)
      (answer : spawner pool.started state = (spawn, state'))
      (starts : ∀ cause, spawn ≠ .refused cause) :
      Launches spawner requested opening seed
        { pool with threads := pool.threads ++ [w.threads.length] }
        { (w.start (spawn.thread pool.started)) with
          shared := w.shared.record (.spawned pool.started) } state'
  | refused {pool : Pool} {w : World} {state state' : σ} {cause : String}
      (before : Launches spawner requested opening seed pool w state)
      (calm : pool.spawnError = none) (more : pool.started < requested)
      (answer : spawner pool.started state = (.refused cause, state')) :
      Launches spawner requested opening seed { pool with spawnError := some cause }
        { w with
          shared := (w.shared.record (.spawnRefused pool.started)).log mainThread
            (.spawnFailed pool.started pool.requested cause) } state'

namespace Server

/-- A server whose memory is pinned comes up with all of its threads, or one of them is missing and
the main thread requests the shutdown. -/
inductive Rises (spawner : Spawner σ) (requested : Nat) (opening : World) (seed : σ)
    (segment : Segment) (table : ZoneTable) : Server → Prop
  | up {pool : Pool} {w : World} {state : σ}
      (launched : World.Launches spawner requested opening seed pool w state)
      (calm : pool.spawnError = none) (full : pool.started = requested) :
      Rises spawner requested opening seed segment table
        ⟨{ w with shared := w.shared.log mainThread (.threadsUp pool.started) }, pool, segment,
          table⟩
  | missing {pool : Pool} {w v : World} {state : σ} {cause : String}
      (launched : World.Launches spawner requested opening seed pool w state)
      (short : pool.spawnError = some cause)
      (run : World.Reaches (World.assign { w with
        shared := w.shared.log mainThread .threadsMissing } mainNumber [.request .spawnFailure]) v)
      (back : ∃ thread ∈ v.threads[mainNumber]?, thread.frames = []) :
      Rises spawner requested opening seed segment table ⟨v, pool, segment, table⟩

/-- What the start of a server can come to if the memory is pinned, in whatever order the threads
take their steps. -/
def Starts (rig : Rig) (surroundings : Surroundings) (devices : List Device) (settings : Settings)
    (spawner : Spawner σ) (seed : σ) (server : Server) : Prop :=
  ∃ segment set table rig', Segment.allocate surroundings.base settings.memory = .ok segment ∧
    (rig.record (.mapped segment.size)).initialise devices segment = (.ok (set, table), rig') ∧
    Rises spawner (threadCount settings.threads surroundings.processors)
      (.fresh (rig'.log .starting) set ⟨0, devices.length⟩) seed segment table server

end Server

section

variable {spawner : Spawner σ} {requested : Nat} {opening : World} {seed state : σ} {pool : Pool}
  {w : World}

theorem World.Launches.requested_eq
    (launches : World.Launches spawner requested opening seed pool w state) :
    pool.requested = requested := by
  induction launches with
  | begins => rfl
  | step _ _ _ ih | spawned _ _ _ _ _ ih | refused _ _ _ _ ih => exact ih

theorem World.Launches.main
    (launches : World.Launches spawner requested opening seed pool w state)
    (main : opening.threads[mainNumber]? = some (.idle mainThread)) :
    w.threads[mainNumber]? = some (.idle mainThread) := by
  induction launches with
  | begins => exact main
  | step before t h ih => exact World.idle_of_step h ih rfl
  | spawned before _ _ _ _ ih =>
    rw [World.start, List.getElem?_append_left (List.getElem?_eq_some_iff.1 ih).1]
    exact ih
  | refused before _ _ _ ih => exact ih

/-- However many threads could be started. -/
theorem World.Launches.launching
    (launches : World.Launches spawner requested opening seed pool w state)
    (begins : Launching ⟨[], requested, none⟩ opening) : Launching pool w := by
  induction launches with
  | begins => exact begins
  | step before t h ih => exact ih.step h
  | @spawned pool w _ _ _ before _ _ _ _ ih =>
    refine ih.start _ ?_ ⟨ih.opened.closing, ih.opened.sealed, ih.opened.state⟩
    rw [Shared.traffic_record]
    rfl
  | @refused pool w _ _ cause before _ _ _ ih =>
    refine ih.quiet rfl ?_ ⟨ih.opened.closing, ih.opened.sealed, ih.opened.state⟩
    rw [Shared.traffic_log, Shared.traffic_record]
    rfl

/-- If no thread can be started any more, one was refused or all of them run. -/
theorem World.launches_of_launchFrom {remaining : Nat} {pool' : Pool} {w' : World} {state' : σ}
    (launches : World.Launches spawner requested opening seed pool w state)
    (calm : pool.spawnError = none) (left : pool.started + remaining = requested)
    (h : World.launchFrom spawner remaining pool w state = (pool', w', state')) :
    World.Launches spawner requested opening seed pool' w' state' ∧
      (pool'.spawnError = none → pool'.started = requested) := by
  induction remaining generalizing pool w state with
  | zero =>
    cases h
    exact ⟨launches, fun _ => left⟩
  | succ remaining ih =>
    have more : pool.started < requested := by omega
    unfold World.launchFrom at h
    split at h <;> rename_i answer
    · cases h
      exact ⟨.refused launches calm more answer, nofun⟩
    · rename_i starts
      refine ih (.spawned launches calm more answer fun cause => ?_) calm ?_ h
      · rintro rfl
        exact starts cause rfl
      · simp only [Pool.started, List.length_append, List.length_singleton] at left ⊢
        omega

end

namespace World

variable {w : World} {t : Nat} {name : String} {answer : Answer}

theorem advanceFor_of_idle (here : w.threads[t]? = some ⟨name, [], answer, none⟩) (steps : Nat) :
    w.advanceFor t steps = w := by
  cases steps with
  | zero => rfl
  | succ steps => simp only [advanceFor, step, here, Thread.step]

theorem advanceFor_of_moved {f : Frame} {rest frames : List Frame} {answer' : Answer} {s' : Shared}
    (here : w.threads[t]? = some ⟨name, f :: rest, answer, none⟩)
    (moved : f.step name answer w.exits w.shared = .moved s' frames answer') :
    ∃ v : World, v.shared = s' ∧ v.threads[t]? = some ⟨name, frames ++ rest, answer', none⟩ ∧
      ∀ steps, w.advanceFor t (steps + 1) = v.advanceFor t steps := by
  refine ⟨⟨s', w.threads.set t ⟨name, frames ++ rest, answer', none⟩⟩, rfl,
    getElem?_set_here here, fun steps => ?_⟩
  simp only [advanceFor, step_of_moved here moved]

/-- Nobody can keep a thread from requesting the shutdown. -/
theorem request_returns {thread : Thread} (reason : ShutdownReason)
    (here : w.threads[t]? = some thread) :
    ∃ thread' ∈ (w.call t [.request reason]).threads[t]?, thread'.frames = [] := by
  have cancels {v : World} {answer given : Answer} (n : Nat)
      (here : v.threads[t]? = some ⟨thread.name, [.cancel, .give given], answer, none⟩) :
      ∃ thread' ∈ (v.advanceFor t (n + 3)).threads[t]?, thread'.frames = [] := by
    obtain ⟨v, -, here, first⟩ := advanceFor_of_moved here rfl
    obtain ⟨v, -, here, second⟩ := advanceFor_of_moved here rfl
    obtain ⟨v, -, here, third⟩ := advanceFor_of_moved here rfl
    rw [first (n + 2), second (n + 1), third n, advanceFor_of_idle here]
    exact ⟨_, here, rfl⟩
  have begun : (w.assign t [.request reason]).threads[t]? =
      some ⟨thread.name, [.request reason], .done, none⟩ := by
    rw [assign_eq here]
    exact getElem?_set_here here
  unfold call advance
  generalize w.assign t [.request reason] = v at begun
  obtain ⟨n, enough⟩ : ∃ n, 2 * v.work t = n + 5 := by
    have signals : operationWork * (v.shared.signals.length + 1) ≤ v.work t := Nat.le_add_left _ _
    simp only [operationWork] at signals
    exact ⟨2 * v.work t - 5, by omega⟩
  rw [enough]
  by_cases running : v.shared.state = .running
  · obtain ⟨v, -, here, first⟩ := advanceFor_of_moved begun
      (by simp only [Frame.step, running]; rfl)
    obtain ⟨v, -, here, second⟩ := advanceFor_of_moved here rfl
    rw [first (n + 4), second (n + 3)]
    exact cancels n here
  · obtain ⟨v, -, here, first⟩ := advanceFor_of_moved begun
      (by simp only [Frame.step]; rfl)
    rw [first (n + 4)]
    exact cancels (n + 1) here

end World

variable {σ : Type} {spawner : Spawner σ} {requested : Nat} {opening : World} {seed state : σ}

theorem staffed_of_rises {segment : Segment} {table : ZoneTable} {server : Server}
    (begins : Launching ⟨[], requested, none⟩ opening)
    (rises : Server.Rises spawner requested opening seed segment table server) :
    Scene.Staffed server.pool.threads server.pool.staff none 0 ⟨server.world, []⟩ ∧
      server.world.shared.Opened := by
  cases rises with
  | @up pool w state launched =>
    have up := (launched.launching begins).log (.threadsUp pool.started)
    exact ⟨up.staffed, up.opened⟩
  | missing launched short run =>
    have missing := (launched.launching begins).log .threadsMissing
    exact Scene.Reaches.staffed (missing.requests run) missing.staffed missing.opened

theorem launching_fresh {rig : Rig} (devices : DeviceSet) (robin : RoundRobin)
    (silent : rig.messages = []) (requested : Nat) :
    Launching ⟨[], requested, none⟩ (.fresh rig devices robin) :=
  ⟨Scene.staffed_fresh devices robin silent, ⟨rfl, rfl, by simp [World.fresh]⟩, rfl, by simp⟩

variable {rig : Rig} {surroundings : Surroundings} {devices : List Device} {settings : Settings}
  {server : Server}

theorem staffed_of_starts (silent : rig.messages = [])
    (starts : Server.Starts rig surroundings devices settings spawner seed server) :
    Scene.Staffed server.pool.threads server.pool.staff none 0 ⟨server.world, []⟩ ∧
      server.world.shared.Opened := by
  obtain ⟨segment, set, table, rig', -, initialised, rises⟩ := starts
  have deeds : (rig'.log .starting).deeds = rig.deeds ++ [.mapped segment.size] := by
    rw [Rig.deeds_log, Rig.deeds_of_initialise initialised, Rig.deeds_record]
    rfl
  have silent : (rig'.log .starting).messages = [] := by
    rw [Rig.messages_eq_filter, deeds, List.filter_append, ← Rig.messages_eq_filter, silent]
    rfl
  exact staffed_of_rises (launching_fresh set _ silent _) rises

/-- One order is that of a start at which the threads do not run before all are started. -/
theorem starts_of_start
    (h : Server.start rig surroundings devices settings spawner seed = .ok (server, state)) :
    Server.Starts rig surroundings devices settings spawner seed server := by
  have begins := Server.begins_start rig surroundings devices settings spawner seed
  rw [h] at begins
  generalize outcome : Except.ok (server, state) = result at begins
  cases begins with
  | unmapped | unpinned => cases outcome
  | @launched segment set table rig' allocated initialised =>
    refine ⟨segment, set, table, rig', allocated, initialised, ?_⟩
    have main : (World.fresh (rig'.log .starting) set ⟨0, devices.length⟩).threads[mainNumber]? =
        some (.idle mainThread) := rfl
    generalize World.fresh (rig'.log .starting) set ⟨0, devices.length⟩ = opening at main outcome
    replace outcome := Except.ok.inj outcome
    unfold Server.launch World.launch at outcome
    cases launched : World.launchFrom spawner
        (threadCount settings.threads surroundings.processors)
        ⟨[], threadCount settings.threads surroundings.processors, none⟩ opening seed with
    | mk pool rest =>
      obtain ⟨w, state'⟩ := rest
      obtain ⟨launches, full⟩ := World.launches_of_launchFrom .begins rfl (Nat.zero_add _) launched
      rw [launched] at outcome
      dsimp only at outcome
      split at outcome <;> rename_i error <;> cases outcome
      · exact .up launches error (full error)
      · exact .missing launches error (World.reaches_advanceFor _ mainNumber _)
          (World.request_returns .spawnFailure (launches.main main))

end DispatchServer
