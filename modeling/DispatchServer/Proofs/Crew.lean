import DispatchServer.Proofs.Launch
import DispatchServer.Proofs.Rounds

/-! The crew of a server: the threads that were started, each of which serves or is doomed to panic.
Nobody calls them, so whatever the other threads do with the queue, the threads of the crew come to
the end that the answer to the attempt has set for them. -/
namespace DispatchServer

def Spawn.cause? : Spawn → Option String
  | refused cause => some cause
  | _ => none

/-- Whether the thread ends by a panic. -/
def Spawn.dooms : Spawn → Bool
  | doomed _ => true
  | _ => false

/-- The same answers, with a list of the attempts and what was answered. -/
def Spawner.recording {σ : Type} (spawner : Spawner σ) : Spawner (σ × List (Nat × Spawn)) :=
  fun index (state, calls) =>
    let (spawn, state) := spawner index state
    (spawn, (state, calls ++ [(index, spawn)]))

theorem Spawner.recording_eq {σ : Type} {spawner : Spawner σ} {index : Nat} {state state' : σ}
    {spawn : Spawn} (answer : spawner index state = (spawn, state')) (calls : List (Nat × Spawn)) :
    spawner.recording index (state, calls) = (spawn, (state', calls ++ [(index, spawn)])) := by
  simp only [recording, answer]

theorem Spawner.calls_recording {σ : Type} {spawner : Spawner σ} {index : Nat}
    {both both' : σ × List (Nat × Spawn)} {spawn : Spawn}
    (answer : spawner.recording index both = (spawn, both')) :
    both'.2 = both.2 ++ [(index, spawn)] := by
  cases answer
  rfl

namespace Pool

def refusal (pool : Pool) : List (Nat × Spawn) :=
  (pool.spawnError.map fun cause => (pool.started, .refused cause)).toList

/-- Each thread that was started, and whether it is doomed. -/
def crew (pool : Pool) (calls : List (Nat × Spawn)) : List (Nat × Bool) :=
  pool.threads.zip ((calls.take pool.started).map (·.2.dooms))

/-- What the attempts came to: they were made one after the other, all of them granted but the last
one, if that was refused. -/
structure Launched (pool : Pool) (requested : Nat) (calls : List (Nat × Spawn)) : Prop where
  order : calls.map Prod.fst = List.range pool.attempts
  granted : ∀ call ∈ calls.take pool.started, call.2.cause? = Option.none
  refused : calls.drop pool.started = pool.refusal
  most : pool.started ≤ requested
  short : pool.spawnError ≠ Option.none → pool.started < requested
  wanted : pool.requested = requested

namespace Launched

variable {pool : Pool} {requested : Nat} {calls : List (Nat × Spawn)}

theorem length (launched : pool.Launched requested calls) : calls.length = pool.attempts := by
  have length := congrArg List.length launched.order
  rwa [List.length_map, List.length_range] at length

theorem crew_threads (launched : pool.Launched requested calls) :
    (pool.crew calls).map Prod.fst = pool.threads := by
  refine List.map_fst_zip ?_
  rw [List.length_map, List.length_take, launched.length, Pool.attempts, Pool.started]
  omega

theorem begins (requested : Nat) : Launched ⟨[], requested, Option.none⟩ requested [] :=
  ⟨rfl, nofun, rfl, Nat.zero_le _, fun short => absurd rfl short, rfl⟩

/-- As long as nothing was refused, the next attempt is the one of the next index. -/
theorem calm (launched : pool.Launched requested calls) (calm : pool.spawnError = Option.none) :
    calls.length = pool.started ∧ calls.take pool.started = calls := by
  have length : calls.length = pool.started := by
    rw [launched.length, attempts, calm]
    rfl
  exact ⟨length, List.take_of_length_le length.le⟩

theorem spawned (launched : pool.Launched requested calls) (calm : pool.spawnError = Option.none)
    (more : pool.started < requested) {spawn : Spawn} (starts : ∀ cause, spawn ≠ .refused cause)
    (t : Nat) : Launched { pool with threads := pool.threads ++ [t] } requested
      (calls ++ [(pool.started, spawn)]) := by
  obtain ⟨length, whole⟩ := launched.calm calm
  have started : Pool.started { pool with threads := pool.threads ++ [t] } = pool.started + 1 := by
    simp [Pool.started]
  have all : (calls ++ [(pool.started, spawn)]).length = pool.started + 1 := by simp [length]
  refine ⟨?_, fun call member => ?_, ?_, started ▸ more, fun short => ?_, launched.wanted⟩
  · rw [attempts, started, calm, List.map_append, launched.order, attempts, calm]
    simp [List.range_succ]
  · rw [started, List.take_of_length_le all.le] at member
    rcases List.mem_append.1 member with member | member
    · exact launched.granted call (by rwa [whole])
    · rw [List.mem_singleton.1 member]
      cases spawn with
      | refused cause => exact absurd rfl (starts cause)
      | _ => rfl
  · rw [started, List.drop_of_length_le all.le, refusal, calm]
    rfl
  · exact absurd calm short

theorem missed (launched : pool.Launched requested calls) (calm : pool.spawnError = Option.none)
    (more : pool.started < requested) (cause : String) :
    Launched { pool with spawnError := some cause } requested
      (calls ++ [(pool.started, .refused cause)]) := by
  obtain ⟨length, whole⟩ := launched.calm calm
  refine ⟨?_, fun call member => ?_, ?_, launched.most, fun _ => more, launched.wanted⟩
  · rw [List.map_append, launched.order, attempts, attempts, calm]
    simp [List.range_succ, started]
  · have before : (calls ++ [(pool.started, Spawn.refused cause)]).take pool.started = calls := by
      rw [← length, List.take_left]
    exact launched.granted call (by rw [whole]; rwa [← before])
  · show (calls ++ [(pool.started, Spawn.refused cause)]).drop pool.started = _
    rw [← length, List.drop_left, length]
    rfl

theorem crew_spawned (launched : pool.Launched requested calls)
    (calm : pool.spawnError = Option.none) (spawn : Spawn) (t : Nat) :
    crew { pool with threads := pool.threads ++ [t] } (calls ++ [(pool.started, spawn)]) =
      pool.crew calls ++ [(t, spawn.dooms)] := by
  obtain ⟨length, whole⟩ := launched.calm calm
  have all : (calls ++ [(pool.started, spawn)]).take
      (Pool.started { pool with threads := pool.threads ++ [t] }) =
        calls ++ [(pool.started, spawn)] :=
    List.take_of_length_le (by simp [Pool.started, length])
  rw [crew, all, crew, whole, List.map_append, List.zip_append (by simp [length, Pool.started])]
  rfl

theorem crew_missed (launched : pool.Launched requested calls)
    (calm : pool.spawnError = Option.none) (call : Nat × Spawn) (error : Option String) :
    crew { pool with spawnError := error } (calls ++ [call]) = pool.crew calls := by
  obtain ⟨length, -⟩ := launched.calm calm
  show pool.threads.zip (((calls ++ [call]).take pool.started).map _) = _
  rw [List.take_append_of_le_length length.ge]
  rfl

end Launched

end Pool

section

variable {σ : Type} {spawner : Spawner σ} {requested : Nat} {opening : World} {seed state : σ}
  {pool : Pool} {w : World}

/-- To note the attempts changes nothing else. -/
theorem World.Launches.recorded
    (launches : World.Launches spawner requested opening seed pool w state) :
    ∃ calls,
      World.Launches spawner.recording requested opening (seed, []) pool w (state, calls) := by
  induction launches with
  | begins => exact ⟨[], .begins⟩
  | step _ t h ih => exact ih.imp fun calls launches => .step launches t h
  | spawned _ calm more answer starts ih =>
    obtain ⟨calls, launches⟩ := ih
    exact ⟨_, .spawned launches calm more (Spawner.recording_eq answer calls) starts⟩
  | refused _ calm more answer ih =>
    obtain ⟨calls, launches⟩ := ih
    exact ⟨_, .refused launches calm more (Spawner.recording_eq answer calls)⟩

theorem World.Launches.launched {both : σ × List (Nat × Spawn)}
    (launches : World.Launches spawner.recording requested opening (seed, []) pool w both) :
    pool.Launched requested both.2 := by
  induction launches with
  | begins => exact .begins requested
  | step _ _ _ ih => exact ih
  | @spawned pool w _ _ _ _ calm more answer starts ih =>
    rw [Spawner.calls_recording answer]
    exact ih.spawned calm more starts w.threads.length
  | refused _ calm more answer ih =>
    rw [Spawner.calls_recording answer]
    exact ih.missed calm more _

/-- A launch is one of those in which the threads take no steps meanwhile. -/
theorem World.launches_of_launch (h : opening.launch requested spawner seed = (pool, w, state)) :
    World.Launches spawner requested opening seed pool w state ∧
      (pool.spawnError = none → pool.started = requested) :=
  World.launches_of_launchFrom .begins rfl (Nat.zero_add _) h

end

def Event.joined? : Event → Option (Nat × Bool)
  | joined thread panicked => some (thread, panicked)
  | _ => none

namespace Shared

/-- The threads that were joined one after the other, and whether each had panicked. -/
def gathered (s : Shared) : List (Nat × Bool) := s.rig.history.events.filterMap Event.joined?

theorem gathered_record (s : Shared) (event : Event) :
    (s.record event).gathered = s.gathered ++ event.joined?.toList := by
  simp only [gathered, record, Rig.record, History.events_record, List.filterMap_append,
    List.filterMap_cons, List.filterMap_nil]
  cases event.joined? <;> rfl

variable (s : Shared)

@[simp] theorem gathered_log (thread : String) (notice : Notice) :
    (s.log thread notice).gathered = s.gathered :=
  (s.gathered_record _).trans (List.append_nil _)

@[simp] theorem gathered_write (line : String) : (s.write line).gathered = s.gathered :=
  (s.gathered_record _).trans (List.append_nil _)

@[simp] theorem gathered_setState (state : ServerState) :
    (s.setState state).gathered = s.gathered :=
  (gathered_record { s with state := state } _).trans (List.append_nil _)

@[simp] theorem gathered_build (plan : Blueprint) : (s.build plan).2.gathered = s.gathered :=
  (gathered_record { s with ledger := _ } _).trans (List.append_nil _)

@[simp] theorem gathered_drop (m : Message) (panicking : Bool) :
    (s.drop m panicking).gathered = s.gathered :=
  (gathered_record { s with ledger := _ } _).trans (List.append_nil _)

@[simp] theorem gathered_publish (m : Message) (status : ReplyStatus) :
    (s.publish m status).gathered = s.gathered := rfl

theorem gathered_unpin (buffer : Handle) :
    gathered { s with rig := s.rig.unpinZone buffer } = s.gathered := by
  have told (rig : Rig) :
      rig.history.events.filterMap Event.joined? = rig.deeds.filterMap Event.joined? := by
    rw [Rig.deeds, List.filterMap_filter]
    refine List.filterMap_congr fun event _ => ?_
    cases event <;> rfl
  exact (told _).trans ((congrArg _ (s.rig.deeds_unpinZone buffer)).trans (told _).symm)

/-- Nobody was joined and the server was not stopped, nor the closing taken back. -/
structure Spares (s s' : Shared) : Prop where
  gathered : s'.gathered = s.gathered
  stopped : s'.state = .stopped → s.state = .stopped
  closing : s.closing = true → s'.closing = true

theorem Spares.refl (s : Shared) : s.Spares s := ⟨rfl, id, id⟩

end Shared

namespace Frame

def gathers : Frame → Bool
  | join .. | stop => true
  | _ => false

variable {f : Frame} {thread : String} {answer answer' : Answer} {exits : Nat → Option Exit}
  {s s' : Shared} {frames : List Frame} {goesOn : Bool}

theorem step_gathered (apart : f.gathers = false)
    (h : f.step thread answer exits s = .moved s' frames answer') :
    s'.gathered = s.gathered ∧ ∀ g ∈ frames, g.gathers = false := by
  cases moves_of_step h with
  | offers | holds => exact ⟨s.gathered_build _, by simp [gathers]⟩
  | submits => exact ⟨Shared.gathered_build { s with robin := _ } _, by simp [gathers]⟩
  | unpins => exact ⟨s.gathered_unpin _, by simp [gathers]⟩
  | joined | joins | joinsPanicked | stops | stopsAgain => cases apart
  | _ => simp [gathers, Shared.gathered_record, Event.joined?] <;> rfl

theorem step_spares (apart : f.gathers = false)
    (h : f.step thread answer exits s = .moved s' frames answer') :
    s.Spares s' ∧ ∀ g ∈ frames, g.gathers = false := by
  obtain ⟨gathered, kept⟩ := step_gathered apart h
  refine ⟨⟨gathered, ?_, ?_⟩, kept⟩
  · cases step_coordinates h with
    | quiet _ steady | remembers steady | cancels steady | closes steady =>
      exact steady.state.symm.trans
    | wins _ state => exact fun stopped => absurd (state.symm.trans stopped) nofun
    | loses _ same => rw [same]; exact id
    | stops | stays => cases apart
  · cases step_coordinates h with
    | quiet _ _ abides | wins _ _ _ abides | cancels _ abides | closes _ abides =>
      exact abides.closing
    | loses _ same => rw [same]; exact id
    | remembers _ _ _ closing => exact closing.trans
    | stops | stays => cases apart

theorem unwind_spares (h : f.unwind thread s = (s', frames, goesOn)) :
    s.Spares s' ∧ (f.gathers = false → ∀ g ∈ frames, g.gathers = false) := by
  have steady := unwind_steady h
  have closing := (unwind_abides h).1.closing
  refine ⟨⟨?_, steady.state.symm.trans, closing⟩, ?_⟩
  · cases f with
    | run device script held => cases held <;> cases h <;> simp
    | leave held given => cases held <;> cases h <;> simp
    | unpin buffers =>
      cases buffers <;> cases h
      · rfl
      · exact s.gathered_unpin _
    | _ => cases h; simp [Shared.gathered_record, Event.joined?]
  · intro apart
    cases f with
    | run device script held => cases held <;> cases h <;> simp [gathers]
    | leave held given => cases held <;> cases h <;> simp [gathers]
    | unpin buffers => cases buffers <;> cases h <;> simp [gathers]
    | _ => cases h; simp [gathers]

end Frame

namespace Thread

def Apart (thread : Thread) : Prop := ∀ f ∈ thread.frames, f.gathers = false

variable {thread thread' : Thread} {exits : Nat → Option Exit} {s s' : Shared}

/-- What stands above a frame joins nobody as long as it stands there. -/
theorem Steps.spares_above {above below : List Frame} (steps : thread.Steps exits s s' thread')
    (frames : thread.frames = above ++ below) (some : above ≠ [])
    (apart : ∀ f ∈ above, f.gathers = false) :
    s.Spares s' ∧
      ∃ above, thread'.frames = above ++ below ∧ ∀ f ∈ above, f.gathers = false := by
  obtain ⟨f, above, rfl⟩ := List.exists_cons_of_ne_nil some
  obtain ⟨own, others⟩ := List.forall_mem_cons.1 apart
  cases steps with
  | moved top _ h =>
    obtain ⟨rfl, rfl⟩ := List.cons.inj (frames.symm.trans top)
    obtain ⟨spares, kept⟩ := Frame.step_spares own h
    exact ⟨spares, _, (List.append_assoc ..).symm, List.forall_mem_append.2 ⟨kept, others⟩⟩
  | panicked => exact ⟨.refl s, _, frames, apart⟩
  | unwound top _ h =>
    obtain ⟨rfl, rfl⟩ := List.cons.inj (frames.symm.trans top)
    obtain ⟨spares, kept⟩ := Frame.unwind_spares h
    exact ⟨spares, _, (List.append_assoc ..).symm, List.forall_mem_append.2 ⟨kept own, others⟩⟩

theorem Steps.spares (steps : thread.Steps exits s s' thread') (apart : thread.Apart) :
    s.Spares s' ∧ thread'.Apart := by
  obtain ⟨spares, above, frames, kept⟩ :=
    steps.spares_above (List.append_nil _).symm steps.busy apart
  rw [List.append_nil] at frames
  exact ⟨spares, fun f member => kept f (frames ▸ member)⟩

/-- How a thread of the crew fares: it goes round in its loop until it leaves it, or it panics at
once if it is doomed to. -/
inductive Fares : Bool → Thread → Prop
  | cycles {thread : Thread} (cycles : thread.Cycles) : Fares false thread
  | left {name : String} : Fares false ⟨name, [], .done, none⟩
  | falls {name text : String} : Fares true ⟨name, [.run none (.panic text) []], .done, none⟩
  | unwinds {name text : String} :
      Fares true ⟨name, [.run none (.panic text) []], .done, some text⟩
  | fell {name text : String} : Fares true ⟨name, [], .done, some text⟩

theorem Steps.fares {dooms : Bool} (steps : thread.Steps exits s s' thread')
    (fares : thread.Fares dooms) : thread'.Fares dooms := by
  cases fares with
  | cycles cycles =>
    rcases steps.cycles cycles with cycles | ⟨none, -, worker, top⟩
    · exact .cycles cycles
    · cases cycles with
      | tests =>
        obtain ⟨frames, answer, h, rfl⟩ := steps.of_calm (by simp)
        cases Frame.moves_of_step h with
        | quits => exact .left
        | serves => cases none
      | awaits | begins => cases top
      | given => cases top
      | works _ frames => simp [frames, List.append_eq_singleton_iff] at top
  | left => exact absurd rfl steps.busy
  | falls =>
    cases steps with
    | moved top _ h =>
      obtain ⟨rfl, rfl⟩ := List.cons.inj top
      cases h
    | panicked top =>
      obtain ⟨frame, rfl⟩ := List.cons.inj top
      cases frame
      exact .unwinds
    | unwound _ panics => cases panics
  | unwinds =>
    obtain ⟨frames, goesOn, h, rfl⟩ := steps.of_panicking
    cases h
    exact .fell
  | fell => exact absurd rfl steps.busy

/-- A thread that has ended has panicked if and only if it was doomed to. -/
theorem Fares.ended {dooms : Bool} (fares : thread.Fares dooms) (gone : thread.frames = []) :
    thread.panicking.isSome = dooms ∧ thread.answer = .done := by
  cases fares with
  | cycles cycles =>
    obtain ⟨f, member, -⟩ := cycles.loops
    rw [gone] at member
    cases member
  | left | fell => exact ⟨rfl, rfl⟩
  | falls | unwinds => cases gone

end Thread

namespace Spawn

theorem fares_thread (spawn : Spawn) (index : Nat) (starts : ∀ cause, spawn ≠ .refused cause) :
    (spawn.thread index).Fares spawn.dooms := by
  cases spawn with
  | serving => exact .cycles .tests
  | doomed text => exact .falls
  | refused cause => exact absurd rfl (starts cause)

theorem apart_thread (spawn : Spawn) (index : Nat) : (spawn.thread index).Apart := by
  cases spawn <;> simp [Thread.Apart, thread, Thread.calling, Frame.gathers]

end Spawn

/-- All there is but the end of the server, for all threads that are not of the crew. -/
def Interface.crew (workers : List Nat) : Interface where
  services
    | .join _ | .finish _ | .shutdown .. => False
    | _ => True
  uses _ := True
  plans _ := True
  callers t := t ∉ workers

namespace Scene

variable {workers : List Nat} {ender : Option Nat} {sc sc' : Scene} {t : Nat} {thread : Thread}

/-- Whoever is of the crew is not called, and takes one step at most. -/
theorem Move.fares_crew {dooms : Bool} (h : Move (.crew workers) sc sc') (worker : t ∈ workers)
    (here : sc.world.threads[t]? = some thread) (fares : thread.Fares dooms) :
    ∃ thread', sc'.world.threads[t]? = some thread' ∧ thread'.Fares dooms := by
  have assigned {u : Nat} {frames : List Frame} (free : ∃ caller, caller ∈ sc.world.threads[u]?)
      (other : u ≠ t) :
      ∃ thread', (sc.world.assign u frames).threads[t]? = some thread' ∧ thread'.Fares dooms := by
    obtain ⟨caller, there⟩ := free
    rw [World.assign_eq there]
    exact ⟨thread, (List.getElem?_set_ne other).trans here, fares⟩
  cases h with
  | step u goes =>
    obtain ⟨mover, mover', s', there, steps, rfl⟩ := World.steps_of_step goes
    rcases eq_or_ne u t with rfl | other
    · obtain rfl := Option.some.inj (here.symm.trans there)
      exact ⟨mover', getElem?_set_here here, steps.fares fares⟩
    · exact ⟨thread, (List.getElem?_set_ne other).trans here, fares⟩
  | start name =>
    have bound := (List.getElem?_eq_some_iff.1 here).1
    exact ⟨thread, (List.getElem?_append_left bound).trans here, fares⟩
  | build | spill | signal => exact ⟨thread, here, fares⟩
  | call u _ _ calls idle =>
    exact assigned (idle.imp fun _ => And.left) (by rintro rfl; exact calls worker)
  | use u _ _ _ calls idle =>
    exact assigned (idle.imp fun _ => And.left) (by rintro rfl; exact calls worker)
  | take u m given =>
    obtain ⟨caller, there, none, gave⟩ := given
    refine assigned ⟨caller, there⟩ ?_
    rintro rfl
    obtain rfl := Option.some.inj (here.symm.trans there)
    have answer := (fares.ended none).2
    rw [gave] at answer
    cases answer
  | expire u ticket waits =>
    obtain ⟨caller, there, frames⟩ := waits
    refine assigned ⟨caller, there⟩ ?_
    rintro rfl
    obtain rfl := Option.some.inj (here.symm.trans there)
    cases fares with
    | cycles cycles =>
      obtain ⟨f, member, own⟩ := cycles.loops
      rw [frames, List.mem_singleton] at member
      rw [member] at own
      cases own
    | left | falls | unwinds | fell => cases frames

def Aloof (sc : Scene) (ender : Option Nat) : Prop :=
  ∀ t thread, t ∉ ender → sc.world.threads[t]? = some thread → thread.Apart

theorem aloof_set {s' : Shared} {hands : List Message} {new : Thread} (aloof : sc.Aloof ender)
    (apart : t ∉ ender → new.Apart) : Aloof ⟨⟨s', sc.world.threads.set t new⟩, hands⟩ ender := by
  intro u other outside there
  rcases eq_or_ne t u with rfl | apart'
  · have bound : t < sc.world.threads.length := by
      have := (List.getElem?_eq_some_iff.1 there).1
      rwa [List.length_set] at this
    obtain rfl := Option.some.inj ((List.getElem?_set_self bound).symm.trans there)
    exact apart outside
  · exact aloof u other outside ((List.getElem?_set_ne apart').symm.trans there)

theorem aloof_append {s' : Shared} {hands : List Message} {new : Thread} (aloof : sc.Aloof ender)
    (apart : new.Apart) : Aloof ⟨⟨s', sc.world.threads ++ [new]⟩, hands⟩ ender := by
  intro u other outside there
  rcases Nat.lt_or_ge u sc.world.threads.length with less | more
  · exact aloof u other outside ((List.getElem?_append_left less).symm.trans there)
  · have there : (sc.world.threads ++ [new])[u]? = some other := there
    rw [List.getElem?_append_right more] at there
    rw [List.mem_singleton.1 (List.mem_of_getElem? there)]
    exact apart

/-- A step of the thread that is to end the server, or nothing of what this is about. -/
theorem Move.spares_cases (h : Move (.crew workers) sc sc') (aloof : sc.Aloof ender)
    (busy : ∀ t ∈ ender, ∀ thread ∈ sc.world.threads[t]?, thread.frames ≠ [] ∧
      ∀ ticket, thread.frames ≠ [.awaitReply ticket]) :
    (sc.world.shared.Spares sc'.world.shared ∧ sc'.Aloof ender ∧ ∀ t ∈ ender, ∀ thread,
      sc.world.threads[t]? = some thread → sc'.world.threads[t]? = some thread) ∨
    ∃ t ∈ ender, ∃ thread thread' s', sc.world.threads[t]? = some thread ∧
      thread.Steps sc.world.exits sc.world.shared s' thread' ∧
      sc' = ⟨⟨s', sc.world.threads.set t thread'⟩, sc.hands⟩ := by
  have others {u : Nat} {new : Thread} (apart : u ∉ ender) : ∀ t ∈ ender, ∀ thread,
      sc.world.threads[t]? = some thread →
      (sc.world.threads.set u new)[t]? = some thread := by
    intro t member thread here
    exact (List.getElem?_set_ne (by rintro rfl; exact apart member)).trans here
  have assigned {u : Nat} {frames : List Frame} {hands : List Message}
      (free : ∃ caller ∈ sc.world.threads[u]?, caller.frames = [] ∨
        ∃ ticket, caller.frames = [.awaitReply ticket])
      (apart : ∀ f ∈ frames, f.gathers = false) :
      sc.world.shared.Spares (sc.world.assign u frames).shared ∧
        Aloof ⟨sc.world.assign u frames, hands⟩ ender ∧ ∀ t ∈ ender, ∀ thread,
          sc.world.threads[t]? = some thread →
          (sc.world.assign u frames).threads[t]? = some thread := by
    obtain ⟨caller, there, free⟩ := free
    rw [World.assign_eq there]
    refine ⟨.refl _, aloof_set aloof fun _ => apart, others fun member => ?_⟩
    obtain ⟨some, patient⟩ := busy u member caller there
    rcases free with none | ⟨ticket, waits⟩
    · exact some none
    · exact patient ticket waits
  cases h with
  | step u goes =>
    obtain ⟨mover, mover', s', there, steps, rfl⟩ := World.steps_of_step goes
    by_cases member : u ∈ ender
    · exact .inr ⟨u, member, mover, mover', s', there, steps, rfl⟩
    · obtain ⟨spares, apart⟩ := steps.spares (aloof u mover member there)
      exact .inl ⟨spares, aloof_set aloof fun _ => apart, others member⟩
  | start name =>
    refine .inl ⟨.refl _, aloof_append aloof (List.forall_mem_nil _), fun u _ other there => ?_⟩
    exact (List.getElem?_append_left (List.getElem?_eq_some_iff.1 there).1).trans there
  | @build w _ plan =>
    exact .inl ⟨⟨w.shared.gathered_build plan, id, id⟩, aloof, fun _ _ _ => id⟩
  | @spill w _ _ _ _ m => exact .inl ⟨⟨w.shared.gathered_drop m _, id, id⟩, aloof, fun _ _ _ => id⟩
  | signal => exact .inl ⟨⟨rfl, id, id⟩, aloof, fun _ _ _ => id⟩
  | call u service offered _ idle =>
    refine .inl (assigned (idle.imp fun _ free => ⟨free.1, .inl free.2.1⟩) ?_)
    cases service with
    | join | finish | shutdown => cases offered
    | _ => simp [Service.frames, Frame.gathers]
  | use u m use _ _ idle =>
    refine .inl (assigned (idle.imp fun _ free => ⟨free.1, .inl free.2.1⟩) ?_)
    cases use <;> simp [Use.frame, Frame.gathers]
  | take u m given =>
    exact .inl (assigned (given.imp fun _ free => ⟨free.1, .inl free.2.1⟩) (by simp))
  | expire u ticket waits =>
    exact .inl (assigned (waits.imp fun _ free => ⟨free.1, .inr ⟨ticket, free.2⟩⟩) (by simp))

end Scene

end DispatchServer
