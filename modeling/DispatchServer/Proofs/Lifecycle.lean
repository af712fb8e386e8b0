import DispatchServer.Proofs.Milestones
import DispatchServer.Proofs.Stages

/-! The stages of a server's life. The end of a server does not ask whether it was requested; it
waits for threads that leave their loop only once it was. -/
namespace DispatchServer

namespace Scene

theorem Ending.deserted_of_stop {workers : List Nat} {requested started : Nat}
    {below rest : List Frame} {drained : Multiset Nat} {thread : Thread} {sc : Scene}
    (ending : sc.Ending workers requested started below drained thread)
    (top : thread.frames = .stop :: rest) (calm : thread.panicking = none) :
    Deserted workers sc := by
  cases ending with
  | stops opened deserted => exact deserted
  | @drains _ _ _ _ _ above own =>
    cases above with
    | nil => cases top
    | cons f above =>
      obtain ⟨rfl, -⟩ := List.cons.inj top
      exact Bool.noConfusion (own _ List.mem_cons_self)
  | reports _ _ deserted => exact deserted
  | panics panics => exact absurd calm panics
  | _ => cases top

/-- The server is in one of its stages, its threads do not leave their loops before it is shutting
down, and it is not stopped before that. -/
structure Tended (server : Server) (waiter : Option Nat) (sc : Scene) : Prop where
  staged : sc.world.shared.Staged
  cancelled : sc.world.shared.cancelled = true → sc.world.shared.state ≠ .running
  cancels : ∀ thread ∈ sc.world.threads, .cancel ∈ thread.frames →
    sc.world.shared.state ≠ .running
  loops : ∀ t ∈ server.pool.threads, ∀ thread, sc.world.threads[t]? = some thread →
    thread.Loops ∨ thread.frames = [] ∧ sc.world.shared.state ≠ .running
  manned : server.pool.threads ≠ [] ∨ sc.world.shared.state ≠ .running
  quotes : ∀ thread ∈ sc.world.threads,
    thread.Quotes server.pool.requested server.pool.started
  halting : ∀ t ∈ waiter, sc.world.shared.state = .stopped ∨
    ∃ thread, sc.world.threads[t]? = some thread ∧ thread.Halting

variable {server : Server} {waiter : Option Nat} {sc sc' : Scene}

/-- Before the server can be stopped its threads have left their loops, and so it was shutting
down. -/
theorem Tended.parted (tended : Tended server waiter sc) (alive : Alive server sc waiter) {u : Nat}
    {thread : Thread} {rest : List Frame} (here : sc.world.threads[u]? = some thread)
    (top : thread.frames = .stop :: rest) (calm : thread.panicking = none) :
    u ∈ waiter ∧ (sc.world.shared.state ≠ .stopped → sc.world.shared.state = .shuttingDown) := by
  rcases alive.serves here with own | ⟨drained, rfl, leaving⟩
  · have own := own .stop (by simp [top])
    simp [Frame.Serves, Frame.attends, Frame.produces] at own
  · refine ⟨rfl, fun going => ?_⟩
    have left : sc.world.shared.state ≠ .running := by
      rcases tended.manned with some | left
      · obtain ⟨t, worker⟩ := List.exists_mem_of_ne_nil _ some
        obtain ⟨gone, there, none⟩ :=
          leaving.finishing.ending.deserted_of_stop top calm t worker
        rcases tended.loops t worker gone there with loops | ⟨-, left⟩
        · exact absurd none loops.busy
        · exact left
      · exact left
    cases tended.staged with
    | running state => exact absurd state left
    | shuttingDown state => exact state
    | stopped state => exact absurd state going

theorem Tended.step (tended : Tended server waiter sc) (alive : Alive server sc waiter) {u : Nat}
    {thread thread' : Thread} {s' : Shared} (here : sc.world.threads[u]? = some thread)
    (steps : thread.Steps sc.world.exits sc.world.shared s' thread') :
    Tended server waiter ⟨⟨s', sc.world.threads.set u thread'⟩, sc.hands⟩ := by
  obtain ⟨left, stopped⟩ := steps.state
  have own : ∀ f ∈ thread.frames, f.Serves ∨ f.Ends := by
    rcases alive.serves here with own | ⟨_, _, leaving⟩
    · exact fun f member => .inl (own f member)
    · exact fun f member => .inr (leaving.finishing.own f member)
  obtain ⟨cancelled, cancels⟩ := steps.cancelled own
  have member := List.mem_of_getElem? here
  refine ⟨?_, fun now => ?_, ?_, fun t worker other there => ?_, tended.manned.imp_right left,
    forall_mem_set tended.quotes (steps.quotes (tended.quotes thread member)),
    fun t waits => ?_⟩
  · -- The state changes with the first request and with the stop, which comes after a request.
    rcases steps.stages with steady | ⟨f, rest, top, calm, ⟨-, running, state, stages⟩ |
      ⟨rfl, going, state, stages⟩⟩
    · exact steady.staged tended.staged
    · refine .shuttingDown state ?_
      cases tended.staged with
      | running _ none => rw [stages, none]; rfl
      | shuttingDown other | stopped other => rw [running] at other; cases other
    · have before := (tended.parted alive here top calm).2 going
      refine .stopped state ?_
      cases tended.staged with
      | shuttingDown _ one => rw [stages, one]; rfl
      | running other | stopped other => rw [before] at other; cases other
  · rcases cancelled now with before | cancel
    · exact left (tended.cancelled before)
    · exact left (tended.cancels thread member cancel)
  · refine forall_mem_set (fun other there cancel => left (tended.cancels other there cancel))
      fun cancel => ?_
    rcases cancels cancel with before | left'
    · exact left (tended.cancels thread member before)
    · exact left'
  · rcases eq_or_ne u t with rfl | apart
    · obtain rfl := Option.some.inj ((getElem?_set_here here).symm.trans there)
      rcases tended.loops u worker thread here with loops | ⟨none, -⟩
      · exact (steps.loops loops).imp_right fun ⟨gone, before⟩ =>
          ⟨gone, left (tended.cancelled before)⟩
      · exact absurd none steps.busy
    · rw [List.getElem?_set_ne apart] at there
      exact (tended.loops t worker other there).imp_right (And.imp_right left)
  · rcases tended.halting t waits with before | ⟨other, there, halting⟩
    · exact .inl (stopped before)
    · rcases eq_or_ne u t with rfl | apart
      · obtain rfl := Option.some.inj (here.symm.trans there)
        exact (steps.halting halting).symm.imp_right fun halting =>
          ⟨thread', getElem?_set_here here, halting⟩
      · exact .inr ⟨other, by rw [List.getElem?_set_ne apart, there], halting⟩

/-- A thread that is not one of the server's begins or drops a call. -/
theorem Tended.assign (tended : Tended server waiter sc) {u : Nat} {thread : Thread}
    {frames : List Frame} (hands : List Message) (here : sc.world.threads[u]? = some thread)
    (free : ¬ thread.Halting) (outside : u ∉ server.pool.threads) (calm : .cancel ∉ frames)
    (quotes : frames.all (Frame.quotes server.pool.requested server.pool.started)) :
    Tended server waiter ⟨sc.world.assign u frames, hands⟩ := by
  rw [World.assign_eq here]
  refine ⟨tended.staged, tended.cancelled, forall_mem_set tended.cancels fun member =>
    absurd member calm, fun t worker other there => ?_, tended.manned,
    forall_mem_set tended.quotes ⟨quotes, rfl⟩, fun t waits => ?_⟩
  · have apart : u ≠ t := by
      rintro rfl
      exact outside worker
    rw [List.getElem?_set_ne apart] at there
    exact tended.loops t worker other there
  · refine (tended.halting t waits).imp_right fun ⟨other, there, halting⟩ => ?_
    have apart : u ≠ t := by
      rintro rfl
      obtain rfl := Option.some.inj (here.symm.trans there)
      exact free halting
    exact ⟨other, by rw [List.getElem?_set_ne apart, there], halting⟩

theorem Tended.aside (tended : Tended server waiter sc) {s' : Shared} (hands : List Message)
    (steady : sc.world.shared.Steady s') (cancelled : s'.cancelled = sc.world.shared.cancelled) :
    Tended server waiter ⟨⟨s', sc.world.threads⟩, hands⟩ := by
  obtain ⟨staged, cancelled', cancels, loops, manned, quotes, halting⟩ := tended
  rw [← steady.state] at cancels loops manned halting
  refine ⟨steady.staged staged, fun now => ?_, cancels, loops, manned, quotes, halting⟩
  rw [steady.state]
  exact cancelled' (cancelled.symm.trans now)

theorem Tended.start (tended : Tended server waiter sc)
    (exist : ∀ t ∈ server.pool.threads, t < sc.world.threads.length) (name : String) :
    Tended server waiter ⟨sc.world.start (.idle name), sc.hands⟩ := by
  have all {kind : Thread → Prop} (old : ∀ thread ∈ sc.world.threads, kind thread)
      (new : kind (.idle name)) : ∀ thread ∈ sc.world.threads ++ [.idle name], kind thread := by
    intro thread member
    rcases List.mem_append.1 member with member | member
    · exact old thread member
    · rwa [List.mem_singleton.1 member]
  refine ⟨tended.staged, tended.cancelled, all tended.cancels (by simp [Thread.idle]),
    fun t worker thread there => ?_, tended.manned, all tended.quotes ⟨rfl, rfl⟩,
    fun t waits => (tended.halting t waits).imp_right fun ⟨thread, there, halting⟩ => ?_⟩
  · rw [World.start, List.getElem?_append_left (exist t worker)] at there
    exact tended.loops t worker thread there
  · refine ⟨thread, ?_, halting⟩
    rw [World.start, List.getElem?_append_left (List.getElem?_eq_some_iff.1 there).1, there]

theorem calm_of_service {workers : List Nat} {service : Service}
    (h : (Interface.server workers).services service) (requested started : Nat) :
    .cancel ∉ service.frames ∧ service.frames.all (Frame.quotes requested started) := by
  cases service with
  | script | submit | produce | select | request | listen | awaitReply =>
    exact ⟨by simp [Service.frames], rfl⟩
  | _ => cases h

theorem Tended.move (tended : Tended server waiter sc) (alive : Alive server sc waiter)
    (h : Move (.server server.pool.threads) sc sc') : Tended server waiter sc' := by
  obtain ⟨ender, drained, staffed⟩ := alive.staffed
  have free {thread : Thread} (none : thread.frames = []) : ¬ thread.Halting := by
    rintro halting
    cases halting <;> cases none
  cases h with
  | step u h =>
    obtain ⟨thread, thread', s', here, steps, rfl⟩ := World.steps_of_step h
    exact tended.step alive here steps
  | start name => exact tended.start staffed.exist name
  | @build w hands plan => exact tended.aside _ (w.shared.steady_build plan) rfl
  | @spill w _ _ _ _ m => exact tended.aside _ (w.shared.steady_drop m _) rfl
  | @call w hands u service allowed calls idle =>
    obtain ⟨thread, here, none, -⟩ := idle
    obtain ⟨calm, quotes⟩ := calm_of_service allowed server.pool.requested
      server.pool.started
    exact tended.assign hands here (free none) calls calm quotes
  | @use w before after u m use allowed calls idle =>
    obtain ⟨thread, here, none, -⟩ := idle
    cases use <;> exact tended.assign _ here (free none) calls (by simp [Use.frame]) rfl
  | take u m given =>
    obtain ⟨thread, here, none, answer⟩ := given
    have clear := (staffed.rooted thread (List.mem_of_getElem? here)).clear (by simp [none])
    simp [answer, Answer.owned] at clear
  | @expire w hands u ticket waits =>
    obtain ⟨thread, here, frames⟩ := waits
    refine tended.assign hands here ?_ (fun worker => ?_) (by simp) rfl
    · rintro halting
      cases halting <;> cases frames
    · rcases tended.loops u worker thread here with loops | ⟨none, -⟩
      · cases loops with
        | @works _ above _ _ below => rw [frames] at below; cases above <;> simp at below
        | _ => cases frames
      · rw [frames] at none
        cases none
  | @signal w hands signal => exact tended.aside _ ⟨rfl, rfl⟩ rfl

theorem Lives.tended (lives : Lives server waiter sc)
    (start : Alive server ⟨server.world, []⟩ none)
    (begins : Tended server none ⟨server.world, []⟩) : Tended server waiter sc := by
  induction lives with
  | begins => exact begins
  | moves before h ih => exact ih.move (before.alive start) h
  | @waits sc t before outside idle ih =>
    obtain ⟨thread, here, none, -⟩ := idle
    have free : ¬ thread.Halting := by
      rintro halting
      cases halting <;> cases none
    have quotes : server.ending.all (Frame.quotes server.pool.requested server.pool.started) := by
      simp [Server.ending, Pool.finishing, Pool.joining, Frame.quotes]
    have called := ih.assign sc.hands here free outside
      (by simp [Server.ending, Pool.finishing, Pool.joining]) quotes
    refine { called with halting := ?_ }
    rintro u ⟨rfl⟩
    refine .inr ⟨.calling thread.name server.ending, ?_, .joins⟩
    rw [World.assign_eq here]
    exact getElem?_set_here here

end Scene

structure Idling (w : World) : Prop where
  waits : ∀ t thread, w.threads[t]? = some thread → t ≠ mainNumber → thread.Waits
  empty : w.shared.channel.pop? = none
  state : w.shared.state = .running
  stages : w.shared.stages = []
  reason : w.shared.reason = none
  cancelled : w.shared.cancelled = false

/-- How far the main thread has come that requests the shutdown because a thread is missing. -/
inductive Requesting (s : Shared) : List Frame → Prop
  | asks (state : s.state = .running) (stages : s.stages = []) (reason : s.reason = none)
      (cancelled : s.cancelled = false) : Requesting s [.request .spawnFailure]
  | remembers {given : Answer} (state : s.state = .shuttingDown)
      (stages : s.stages = [.shuttingDown]) (reason : s.reason = none) :
      Requesting s [.remember .spawnFailure, .cancel, .give given]
  | cancels {given : Answer} (state : s.state = .shuttingDown)
      (stages : s.stages = [.shuttingDown]) (reason : s.reason = some .spawnFailure) :
      Requesting s [.cancel, .give given]
  | ends {frames : List Frame} {given : Answer} (left : frames <:+ [.wake, .give given])
      (state : s.state = .shuttingDown) (stages : s.stages = [.shuttingDown])
      (reason : s.reason = some .spawnFailure) (cancelled : s.cancelled = true) :
      Requesting s frames

theorem Requesting.step {s s' : Shared} {name : String} {frames : List Frame} {answer : Answer}
    {exits : Nat → Option Exit} {thread' : Thread}
    (requesting : Requesting s frames)
    (steps : (Thread.mk name frames answer none).Steps exits s s' thread') :
    thread'.panicking = none ∧ Requesting s' thread'.frames ∧ s'.channel = s.channel := by
  cases requesting with
  | asks state stages reason cancelled =>
    obtain ⟨frames, answer', h, rfl⟩ := steps.of_calm (by simp)
    simp only [Frame.step, state] at h
    cases h
    refine ⟨rfl, .remembers rfl ?_ reason, rfl⟩
    rw [Shared.stages_setState, stages]
    rfl
  | remembers state stages reason =>
    obtain ⟨frames, answer', h, rfl⟩ := steps.of_calm (by simp)
    cases h
    have steady : s.Steady ({ s with reason := s.reason.or (some .spawnFailure) }.log name
        (.shutdownRequested .spawnFailure)) := .record ⟨rfl, rfl⟩ rfl
    refine ⟨rfl, .cancels state (steady.stages.trans stages) ?_, rfl⟩
    show s.reason.or (some .spawnFailure) = some .spawnFailure
    rw [reason]
    rfl
  | cancels state stages reason =>
    obtain ⟨frames, answer', h, rfl⟩ := steps.of_calm (by simp)
    cases h
    exact ⟨rfl, .ends List.suffix_rfl state stages reason rfl, rfl⟩
  | @ends frames given left state stages reason cancelled =>
    rcases List.suffix_cons_iff.1 left with rfl | left
    · obtain ⟨frames, answer', h, rfl⟩ := steps.of_calm (by simp)
      cases h
      exact ⟨rfl, .ends (List.suffix_cons _ _) state stages reason cancelled, rfl⟩
    · rcases List.suffix_cons_iff.1 left with rfl | left
      · obtain ⟨frames, answer', h, rfl⟩ := steps.of_calm (by simp)
        cases h
        have none : [] <:+ [Frame.wake, .give given] := List.nil_suffix
        exact ⟨rfl, .ends none state stages reason cancelled, rfl⟩
      · exact absurd (List.suffix_nil.1 left) steps.busy

theorem Idling.step {w v : World} {t : Nat} (idling : Idling w)
    (main : w.threads[mainNumber]? = some (.idle mainThread)) (h : w.step t = some v) :
    Idling v := by
  obtain ⟨thread, thread', s', here, steps, rfl⟩ := World.steps_of_step h
  have apart : t ≠ mainNumber := by
    rintro rfl
    obtain rfl := Option.some.inj (here.symm.trans main)
    exact steps.busy rfl
  obtain ⟨rfl, waits⟩ := steps.waits (idling.waits t thread here apart) idling.empty
  refine { idling with waits := fun u other there outside => ?_ }
  rcases eq_or_ne t u with rfl | other'
  · obtain rfl := Option.some.inj ((getElem?_set_here here).symm.trans there)
    refine waits.resolve_right fun ⟨_, cancelled⟩ => ?_
    rw [idling.cancelled] at cancelled
    cases cancelled
  · rw [List.getElem?_set_ne other'] at there
    exact idling.waits u other there outside

section

variable {σ : Type} {spawner : Spawner σ} {requested : Nat} {opening w : World} {seed state : σ}
  {pool : Pool}

theorem World.Launches.idling
    (launches : World.Launches spawner requested opening seed pool w state)
    (serving : ∀ index state text, (spawner index state).1 ≠ .doomed text)
    (main : opening.threads[mainNumber]? = some (.idle mainThread)) (begins : Idling opening) :
    Idling w := by
  induction launches with
  | begins => exact begins
  | step before t h ih => exact ih.step (before.main main) h
  | @spawned pool w state state' spawn before _ _ answer starts ih =>
    obtain ⟨waits, empty, running, stages, reason, cancelled⟩ := ih
    have steady : w.shared.Steady (w.shared.record (.spawned pool.started)) :=
      .record ⟨rfl, rfl⟩ rfl
    refine ⟨fun t thread here outside => ?_, empty, running, steady.stages.trans stages, reason,
      cancelled⟩
    have faithful : spawn = .serving := by
      cases spawn with
      | serving => rfl
      | doomed text => exact absurd (congrArg Prod.fst answer) (serving _ _ text)
      | refused cause => exact absurd rfl (starts cause)
    rcases lt_trichotomy t w.threads.length with less | rfl | more
    · rw [World.start, List.getElem?_append_left less] at here
      exact waits t thread here outside
    · rw [World.start, List.getElem?_concat_length] at here
      obtain rfl := Option.some.inj here
      rw [faithful]
      exact .serves
    · rw [World.start, List.getElem?_eq_none (by simp; omega)] at here
      cases here
  | @refused pool w _ _ cause before _ _ _ ih =>
    have steady : w.shared.Steady ((w.shared.record (.spawnRefused pool.started)).log mainThread
        (.spawnFailed pool.started pool.requested cause)) := .record (.record ⟨rfl, rfl⟩ rfl) rfl
    exact ⟨ih.waits, ih.empty, ih.state, steady.stages.trans ih.stages, ih.reason, ih.cancelled⟩

theorem World.Launches.short
    (launches : World.Launches spawner requested opening seed pool w state)
    (refused : pool.spawnError ≠ none) : pool.started < requested := by
  induction launches with
  | begins => exact absurd rfl refused
  | step _ _ _ ih => exact ih refused
  | spawned _ calm => exact absurd calm refused
  | refused _ _ more => exact more

end

theorem Requesting.left {s : Shared} {frames : List Frame} (requesting : Requesting s frames)
    (now : s.cancelled = true) : s.state ≠ .running := by
  cases requesting with
  | asks _ _ _ cancelled =>
    rw [cancelled] at now
    cases now
  | remembers state | cancels state | ends _ state =>
    rw [state]
    exact ServerState.noConfusion

/-- The main thread requests the shutdown, and the others still have nothing else to do than to
wait, or to leave. -/
structure Asking (w : World) : Prop where
  main : ∃ frames answer, w.threads[mainNumber]? = some ⟨mainThread, frames, answer, none⟩ ∧
    Requesting w.shared frames
  others : ∀ t thread, w.threads[t]? = some thread → t ≠ mainNumber →
    thread.Waits ∨ thread.frames = [] ∧ w.shared.state ≠ .running
  empty : w.shared.channel.pop? = none

theorem Asking.step {w v : World} {t : Nat} (asking : Asking w) (h : w.step t = some v) :
    Asking v := by
  obtain ⟨⟨frames, answer, main, requesting⟩, others, empty⟩ := asking
  obtain ⟨thread, thread', s', here, steps, rfl⟩ := World.steps_of_step h
  by_cases own : t = mainNumber
  · subst own
    obtain rfl := Option.some.inj (main.symm.trans here)
    have name := steps.name
    obtain ⟨calm, requesting', channel⟩ := requesting.step steps
    obtain ⟨name', frames', answer', panicking'⟩ := thread'
    cases name
    cases calm
    refine ⟨⟨frames', answer', getElem?_set_here here, requesting'⟩,
      fun u other there outside => ?_, channel ▸ empty⟩
    rw [List.getElem?_set_ne outside.symm] at there
    exact (others u other there outside).imp_right (And.imp_right steps.state.1)
  · have waits := (others t thread here own).resolve_right fun gone => steps.busy gone.1
    obtain ⟨rfl, waits'⟩ := steps.waits waits empty
    refine ⟨⟨frames, answer, by rw [List.getElem?_set_ne own, main], requesting⟩,
      fun u other there outside => ?_, empty⟩
    rcases eq_or_ne t u with rfl | apart
    · obtain rfl := Option.some.inj ((getElem?_set_here here).symm.trans there)
      exact waits'.imp_right (And.imp_right requesting.left)
    · rw [List.getElem?_set_ne apart] at there
      exact others u other there outside

theorem Asking.reaches {w v : World} (run : World.Reaches w v) (asking : Asking w) : Asking v := by
  induction run with
  | refl => exact asking
  | step t h _ ih => exact ih (asking.step h)

def World.Quotes (requested started : Nat) (w : World) : Prop :=
  ∀ thread ∈ w.threads, thread.Quotes requested started

namespace World.Quotes

variable {requested started : Nat} {w v : World}

theorem step {t : Nat} (quotes : w.Quotes requested started) (h : w.step t = some v) :
    v.Quotes requested started := by
  obtain ⟨thread, thread', s', here, steps, rfl⟩ := World.steps_of_step h
  exact forall_mem_set quotes (steps.quotes (quotes thread (List.mem_of_getElem? here)))

theorem reaches (run : World.Reaches w v) (quotes : w.Quotes requested started) :
    v.Quotes requested started := by
  induction run with
  | refl => exact quotes
  | step t h _ ih => exact ih (quotes.step h)

theorem launches {σ : Type} {spawner : Spawner σ} {attempts : Nat} {opening : World}
    {seed state : σ} {pool : Pool} (quotes : opening.Quotes requested started)
    (launches : World.Launches spawner attempts opening seed pool w state) :
    w.Quotes requested started := by
  induction launches with
  | begins => exact quotes
  | step _ t h ih => exact ih.step h
  | @spawned pool w _ _ spawn _ _ _ _ _ ih =>
    intro thread member
    rcases List.mem_append.1 member with member | member
    · exact ih thread member
    · rw [List.mem_singleton.1 member]
      cases spawn <;> exact ⟨rfl, rfl⟩
  | refused _ _ _ _ ih => exact ih

end World.Quotes

/-- A server is handed over running with all of its threads, or shutting down because one of them
is missing. -/
inductive Server.Ready (requested : Nat) (server : Server) : Prop
  | running (state : server.world.shared.state = .running) (calm : server.pool.spawnError = none)
      (full : server.pool.started = requested) : Ready requested server
  | shuttingDown (state : server.world.shared.state = .shuttingDown)
      (reason : server.world.shared.reason = some .spawnFailure)
      (cancelled : server.world.shared.cancelled = true)
      (missing : server.pool.spawnError ≠ none) (short : server.pool.started < requested) :
      Ready requested server

theorem Thread.Waits.calm {thread : Thread} (waits : thread.Waits) : .cancel ∉ thread.frames := by
  cases waits with
  | serves | handles => simp
  | @awaits _ f _ _ awaits =>
    have apart : f ≠ .cancel := by
      rintro rfl
      cases awaits
    simp [apart.symm]

theorem Idling.log {w : World} (idling : Idling w) (notice : Notice) :
    Idling { w with shared := w.shared.log mainThread notice } := by
  have steady : w.shared.Steady (w.shared.log mainThread notice) := .record ⟨rfl, rfl⟩ rfl
  exact ⟨idling.waits, idling.empty, idling.state, steady.stages.trans idling.stages,
    idling.reason, idling.cancelled⟩

theorem Idling.asking {w : World} (idling : Idling w)
    (main : w.threads[mainNumber]? = some (.idle mainThread)) :
    Asking (w.assign mainNumber [.request .spawnFailure]) := by
  rw [World.assign_eq main]
  refine ⟨⟨_, _, getElem?_set_here main, .asks idling.state idling.stages idling.reason
    idling.cancelled⟩, fun t thread here outside => ?_, idling.empty⟩
  rw [List.getElem?_set_ne outside.symm] at here
  exact .inl (idling.waits t thread here outside)

namespace Server

variable {server : Server} (outside : mainNumber ∉ server.pool.threads)
  (quotes : server.world.Quotes server.pool.requested server.pool.started)
include outside quotes

/-- All threads run, and nothing has happened yet. -/
theorem tended_of_idling (idling : Idling server.world)
    (main : server.world.threads[mainNumber]? = some (.idle mainThread))
    (manned : server.pool.threads ≠ []) : Scene.Tended server none ⟨server.world, []⟩ where
  staged := .running idling.state idling.stages
  cancelled now := by
    rw [idling.cancelled] at now
    cases now
  cancels thread member cancel := by
    obtain ⟨t, here⟩ := List.getElem?_of_mem member
    by_cases own : t = mainNumber
    · subst own
      obtain rfl := Option.some.inj (main.symm.trans here)
      simp [Thread.idle] at cancel
    · exact absurd cancel (idling.waits t thread here own).calm
  loops t worker thread here :=
    .inl (idling.waits t thread here (by rintro rfl; exact outside worker)).loops
  manned := .inl manned
  quotes := quotes
  halting := by simp

/-- The main thread has requested the shutdown. -/
theorem tended_of_asking (asking : Asking server.world)
    (back : ∃ thread ∈ server.world.threads[mainNumber]?, thread.frames = []) :
    Scene.Tended server none ⟨server.world, []⟩ ∧ server.world.shared.state = .shuttingDown ∧
      server.world.shared.reason = some .spawnFailure ∧ server.world.shared.cancelled = true := by
  obtain ⟨⟨frames, answer, main, requesting⟩, others, -⟩ := asking
  obtain ⟨thread, here, none⟩ := back
  obtain rfl := Option.some.inj (main.symm.trans here)
  obtain rfl : frames = [] := none
  cases requesting with
  | ends _ state stages reason cancelled =>
    have left : server.world.shared.state ≠ .running := by
      rw [state]
      exact ServerState.noConfusion
    exact ⟨⟨.shuttingDown state stages, fun _ => left, fun _ _ _ => left,
      fun t worker thread here =>
        (others t thread here (by rintro rfl; exact outside worker)).imp_left Thread.Waits.loops,
      .inr left, quotes, by simp⟩, state, reason, cancelled⟩

end Server

theorem Server.Rises.quotes {σ : Type} {spawner : Spawner σ} {seed : σ} {server : Server}
    {requested : Nat} {opening : World} {segment : Segment} {table : ZoneTable}
    (rises : Server.Rises spawner requested opening seed segment table server)
    (main : opening.threads[mainNumber]? = some (.idle mainThread))
    (quotes : ∀ requested started, opening.Quotes requested started) (requested' started : Nat) :
    server.world.Quotes requested' started := by
  cases rises with
  | @up pool w state launched =>
    have known : w.Quotes requested' started := (quotes _ _).launches launched
    exact known
  | @missing pool w v state cause launched short run =>
    have known : w.Quotes requested' started := (quotes _ _).launches launched
    refine .reaches run ?_
    rw [@World.assign_eq { w with shared := w.shared.log mainThread .threadsMissing } _ _ _
      (launched.main main)]
    exact forall_mem_set known ⟨rfl, rfl⟩

theorem Server.Rises.ready {σ : Type} {spawner : Spawner σ} {requested : Nat} {opening : World}
    {seed : σ} {segment : Segment} {table : ZoneTable} {server : Server}
    (rises : Server.Rises spawner requested opening seed segment table server)
    (serving : ∀ index state text, (spawner index state).1 ≠ .doomed text)
    (positive : 0 < requested) (begins : Launching ⟨[], requested, none⟩ opening)
    (idle : Idling opening)
    (quotes : ∀ requested started, opening.Quotes requested started) :
    server.Ready requested ∧ server.pool.requested = requested ∧
      Scene.Tended server none ⟨server.world, []⟩ := by
  have known := rises.quotes begins.main quotes server.pool.requested server.pool.started
  cases rises with
  | @up pool w state launched calm full =>
    have up := (launched.idling serving begins.main idle).log (.threadsUp pool.started)
    have launching := launched.launching begins
    have some : pool.threads ≠ [] := by
      rintro none
      rw [Pool.started, none] at full
      exact absurd full.symm (Nat.ne_of_gt positive)
    exact ⟨.running up.state calm full, launched.requested_eq,
      Server.tended_of_idling launching.outside known up launching.main some⟩
  | @missing pool w v state cause launched short run back =>
    have missing := (launched.idling serving begins.main idle).log .threadsMissing
    have launching := (launched.launching begins).log .threadsMissing
    have asking := Asking.reaches run (missing.asking launching.main)
    obtain ⟨tended, state, reason, cancelled⟩ :=
      @Server.tended_of_asking ⟨v, pool, segment, table⟩ launching.outside known asking back
    have refused : pool.spawnError ≠ none := by simp [short]
    exact ⟨.shuttingDown state reason cancelled refused (launched.short refused),
      launched.requested_eq, tended⟩

def Milestone.spawned? : Milestone → Option Nat
  | spawned index => some index
  | _ => none

def Milestone.attempts : Milestone → Bool
  | spawned _ | spawnRefused _ => true
  | _ => false

theorem Rig.attempts_of_deeds {rig : Rig} {size : Nat} (deeds : rig.deeds = [.mapped size]) :
    ∀ milestone ∈ rig.milestones, milestone.attempts = false := by
  intro milestone member
  obtain ⟨event, here, marks⟩ := List.mem_filterMap.1 member
  by_cases deed : event.deed
  · have listed : event ∈ rig.deeds := List.mem_filter.2 ⟨here, deed⟩
    rw [deeds, List.mem_singleton] at listed
    cases listed
    cases marks
    rfl
  · cases event with
    | called c answer => cases c <;> cases answer <;> cases marks <;> rfl
    | logged => cases marks
    | _ => exact absurd rfl deed

theorem Pool.spawned_course (pool : Pool) :
    pool.course.filterMap Milestone.spawned? = List.range pool.started := by
  have each : Milestone.spawned? ∘ .spawned = some := rfl
  rw [course, List.filterMap_append, List.filterMap_map, each, List.filterMap_some]
  split <;> simp [Milestone.spawned?]

theorem Pool.spawnRefused_course (pool : Pool) :
    (∀ index, .spawnRefused index ∉ pool.course) ↔ pool.spawnError = Option.none := by
  cases error : pool.spawnError <;> simp [course, error]

theorem idling_fresh {rig : Rig} {size : Nat} (deeds : rig.deeds = [.mapped size])
    (devices : DeviceSet) (robin : RoundRobin) : Idling (.fresh rig devices robin) := by
  refine ⟨fun t thread here outside => ?_, rfl, rfl, ?_, rfl, rfl⟩
  · cases t with
    | zero => exact absurd rfl outside
    | succ t => cases here
  · rw [Shared.stages_eq]
    exact congrArg (List.filterMap Event.stage?) deeds

theorem quotes_fresh (rig : Rig) (devices : DeviceSet) (robin : RoundRobin)
    (requested started : Nat) : World.Quotes requested started (.fresh rig devices robin) := by
  intro thread member
  rw [List.mem_singleton.1 member]
  exact ⟨rfl, rfl⟩

theorem launching_of_deeds {rig : Rig} {size : Nat} (deeds : rig.deeds = [.mapped size])
    (devices : DeviceSet) (robin : RoundRobin) (requested : Nat) :
    Launching ⟨[], requested, none⟩ (.fresh rig devices robin) :=
  launching_fresh devices robin (by rw [Rig.messages_eq_filter, deeds]; rfl) requested

namespace Server

variable {σ : Type} {rig : Rig} {surroundings : Surroundings} {devices : List Device}
  {settings : Settings} {spawner : Spawner σ} {seed : σ} {server : Server}

theorem Starts.rises (starts : Starts rig surroundings devices settings spawner seed server)
    (fresh : rig.history = .empty) : ∃ segment table set robin rig' size,
      Rises spawner (threadCount settings.threads surroundings.processors)
        (.fresh rig' set robin) seed segment table server ∧ rig'.deeds = [.mapped size] := by
  obtain ⟨segment, set, table, rig', -, initialised, rises⟩ := starts
  refine ⟨segment, table, set, _, _, segment.size, rises, ?_⟩
  rw [Rig.deeds_log, Rig.deeds_of_initialise initialised, Rig.deeds_record, Rig.deeds, fresh]
  rfl

/-- What is known of a server's stage and threads when it is handed over. -/
theorem Starts.ready (starts : Starts rig surroundings devices settings spawner seed server)
    (fresh : rig.history = .empty)
    (serving : ∀ index state text, (spawner index state).1 ≠ .doomed text) :
    server.Ready (threadCount settings.threads surroundings.processors) ∧
      server.pool.requested = threadCount settings.threads surroundings.processors ∧
      Scene.Tended server none ⟨server.world, []⟩ ∧
      (server.world.shared.milestones.filterMap Milestone.spawned?).length =
        server.pool.started ∧
      ((∀ index, .spawnRefused index ∉ server.world.shared.milestones) ↔
        server.pool.spawnError = none) := by
  obtain ⟨segment, table, set, robin, rig', size, rises, deeds⟩ := starts.rises fresh
  have begins := launching_of_deeds deeds set robin
    (threadCount settings.threads surroundings.processors)
  have unattempted := Rig.attempts_of_deeds deeds
  obtain ⟨ready, requested, tended⟩ := rises.ready serving (threadCount_pos _ _) begins
    (idling_fresh deeds set robin) (quotes_fresh rig' set robin)
  obtain ⟨milestones, -⟩ := rises.milestones begins
  replace milestones :
    server.world.shared.milestones = rig'.milestones ++ server.pool.course := milestones
  refine ⟨ready, requested, tended, ?_, ?_⟩
  · have none : rig'.milestones.filterMap Milestone.spawned? = [] := by
      refine List.filterMap_eq_nil_iff.2 fun milestone member => ?_
      have other := unattempted milestone member
      cases milestone <;> first | rfl | cases other
    rw [milestones, List.filterMap_append, none, List.nil_append, Pool.spawned_course,
      List.length_range]
  · rw [← Pool.spawnRefused_course, milestones]
    refine forall_congr' fun index => not_congr (List.mem_append.trans (or_iff_right ?_))
    intro member
    cases unattempted _ member

end Server

namespace Scene

variable {server : Server} {waiter : Option Nat} {sc sc' : Scene}

/-- Only a request takes the server out of running, and only the thread that waits for its end stops
it. -/
theorem Tended.passes (tended : Tended server waiter sc) (alive : Alive server sc waiter)
    (h : Move (.server server.pool.threads) sc sc')
    (other : sc'.world.shared.state ≠ sc.world.shared.state) :
    ∃ u thread f, sc.world.threads[u]? = some thread ∧ thread.frames.head? = some f ∧
      ((∃ reason, f = .request reason) ∧ sc.world.shared.state = .running ∧
          sc'.world.shared.state = .shuttingDown ∨
        f = .stop ∧ u ∈ waiter ∧ sc.world.shared.state = .shuttingDown ∧
          sc'.world.shared.state = .stopped) := by
  cases h with
  | step u h =>
    obtain ⟨thread, thread', s', here, steps, rfl⟩ := World.steps_of_step h
    rcases steps.stages with steady | ⟨f, rest, top, calm, ⟨asks, running, state, -⟩ |
      ⟨rfl, going, state, -⟩⟩
    · exact absurd steady.state other
    · exact ⟨u, thread, f, here, by simp [top], .inl ⟨asks, running, state⟩⟩
    · obtain ⟨waits, before⟩ := tended.parted alive here top calm
      exact ⟨u, thread, .stop, here, by simp [top], .inr ⟨rfl, waits, before going, state⟩⟩
  | _ => exact absurd rfl other

/-- The call that ends a server returns a report with these numbers, unless it panics. -/
theorem Alive.reports (alive : Alive server sc waiter)
    (quotes : ∀ thread ∈ sc'.world.threads,
      thread.Quotes server.pool.requested server.pool.started)
    (h : Move (.server server.pool.threads) sc sc') {t : Nat} {thread thread' : Thread}
    (here : sc.world.threads[t]? = some thread)
    (within : .unmap server.segment.size ∈ thread.frames)
    (here' : sc'.world.threads[t]? = some thread') (back : thread'.frames = [])
    (calm : thread'.panicking = none) : ∃ drained reason,
      thread'.answer = .report server.pool.requested server.pool.started drained reason := by
  rcases alive.serves here with own | ⟨drained, -, leaving⟩
  · have own := own _ within
    simp [Frame.Serves, Frame.attends, Frame.produces] at own
  · rcases leaving.move h with leaving | ⟨s', drained', next, -, -, finishing, -⟩
    · obtain rfl := Option.some.inj (leaving.finishing.here.symm.trans here')
      exact absurd back leaving.busy
    · obtain rfl := Option.some.inj (finishing.here.symm.trans here')
      obtain ⟨n, requested, started, reason, answer, -⟩ := finishing.ending.reported back calm
      have known := (quotes next (List.mem_of_getElem? here')).answer
      rw [answer] at known
      obtain ⟨rfl, rfl⟩ := of_decide_eq_true known
      exact ⟨n, reason, answer⟩

end Scene

/-- A server is handed over running, with all of the threads that were wanted, or shutting down
because one of them could not be started. From then on it passes its stages one after the other:
only a request takes it out of running, none of its threads ends before that, and the wait for its
end is not over before it is stopped. It then reports how many threads there should have been and
how many there were. -/
theorem stages_in_order {σ : Type} {rig : Rig} {surroundings : Surroundings}
    {devices : List Device} {settings : Settings} {spawner : Spawner σ} {seed : σ}
    (fresh : rig.history = .empty)
    (serving : ∀ index state text, (spawner index state).1 ≠ .doomed text) :
    (∀ server state, Server.start rig surroundings devices settings spawner seed =
        .ok (server, state) →
      Server.Starts rig surroundings devices settings spawner seed server) ∧
    ∀ server, Server.Starts rig surroundings devices settings spawner seed server →
      (server.world.shared.state = .running ∧ server.pool.spawnError = none ∧
          1 ≤ server.pool.started ∧ server.pool.started = server.pool.requested ∨
        server.world.shared.state = .shuttingDown ∧
          server.world.shared.reason = some .spawnFailure ∧
          server.world.shared.cancelled = true ∧ server.pool.spawnError ≠ none) ∧
      (settings.threads ≠ 0 → server.pool.requested = settings.threads) ∧
      (settings.threads = 0 →
        server.pool.requested = max (surroundings.processors.getD 1) 1) ∧
      1 ≤ server.pool.requested ∧
      server.pool.started =
        (server.world.shared.milestones.filterMap Milestone.spawned?).length ∧
      (server.pool.requested = server.pool.started ↔
        ∀ index, .spawnRefused index ∉ server.world.shared.milestones) ∧
      ∀ waiter sc, Scene.Lives server waiter sc →
        sc.world.shared.Staged ∧
        (∀ t ∈ server.pool.threads, sc.Over t → sc.world.shared.state ≠ .running) ∧
        (∀ t ∈ waiter, sc.Over t → sc.world.shared.stages = [.shuttingDown, .stopped]) ∧
        ∀ sc', Scene.Move (.server server.pool.threads) sc sc' →
          (sc'.world.shared.state ≠ sc.world.shared.state →
            ∃ u thread f, sc.world.threads[u]? = some thread ∧ thread.frames.head? = some f ∧
              ((∃ reason, f = .request reason) ∧ sc.world.shared.state = .running ∧
                  sc'.world.shared.state = .shuttingDown ∨
                f = .stop ∧ u ∈ waiter ∧ sc.world.shared.state = .shuttingDown ∧
                  sc'.world.shared.state = .stopped)) ∧
          ∀ (t : Nat) (thread thread' : Thread), sc.world.threads[t]? = some thread →
            .unmap server.segment.size ∈ thread.frames →
            sc'.world.threads[t]? = some thread' → thread'.frames = [] →
            thread'.panicking = none → ∃ drained reason, thread'.answer =
              .report server.pool.requested server.pool.started drained reason := by
  refine ⟨fun server state => starts_of_start, fun server starts => ?_⟩
  have silent := Rig.messages_of_fresh fresh
  obtain ⟨staffed, opened⟩ := staffed_of_starts silent starts
  have start : Scene.Alive server ⟨server.world, []⟩ none := .serving staffed opened
  obtain ⟨ready, requested, begins, spawned, refused⟩ := starts.ready fresh serving
  have positive : 1 ≤ server.pool.requested := by
    rw [requested]
    exact threadCount_pos _ _
  rw [← requested] at ready
  have configured (some : settings.threads ≠ 0) : server.pool.requested = settings.threads :=
    requested.trans (if_pos (Nat.pos_of_ne_zero some))
  have online (none : settings.threads = 0) :
      server.pool.requested = max (surroundings.processors.getD 1) 1 :=
    requested.trans (if_neg (by omega))
  refine ⟨?_, configured, online, positive, spawned.symm, ?_, fun waiter sc lives => ?_⟩
  · cases ready with
    | running state calm full => exact .inl ⟨state, calm, full ▸ positive, full⟩
    | shuttingDown state reason cancelled missing =>
      exact .inr ⟨state, reason, cancelled, missing⟩
  · rw [refused]
    cases ready with
    | running _ calm full => simp [calm, full]
    | shuttingDown _ _ _ missing short => simp [missing, Nat.ne_of_gt short]
  · have alive := lives.alive start
    have tended := lives.tended start begins
    refine ⟨tended.staged, fun t worker quit => ?_, fun t waits quit => ?_, fun sc' move =>
      ⟨tended.passes alive move, fun t thread thread' here within there back calm => ?_⟩⟩
    · obtain ⟨thread, here, none⟩ := quit
      rcases tended.loops t worker thread here with loops | ⟨-, left⟩
      · exact absurd none loops.busy
      · exact left
    · -- Whoever is still about to stop the server has frames left.
      have stopped : sc.world.shared.state = .stopped := by
        refine (tended.halting t waits).resolve_right ?_
        rintro ⟨thread, there, halting⟩
        obtain ⟨_, here, none⟩ := quit
        obtain rfl := Option.some.inj (there.symm.trans here)
        cases halting <;> cases none
      cases tended.staged with
      | stopped _ stages => exact stages
      | running other | shuttingDown other =>
        rw [stopped] at other
        cases other
    · have tended' := (lives.moves move).tended start begins
      exact alive.reports tended'.quotes move here within there back calm

/-- Of the two threads that were wanted one is missing, so that the server goes down at once. -/
theorem stages_in_order_of_short :
    ∃ server, Server.short = .ok (server, ()) ∧ server.pool.requested = 2 ∧
      server.pool.started = 1 ∧ server.world.shared.state = .shuttingDown ∧
      Scene.Lives server (some mainNumber) ⟨server.waitForShutdown, []⟩ ∧
      server.waitForShutdown.shared.stages = [.shuttingDown, .stopped] := by
  obtain ⟨server, started, ⟨count, stage⟩, lives, thread, back, finished, -⟩ :=
    @Server.short_lives (fun server => server.pool.started = 1 ∧
      server.world.shared.state ≠ .running) (by decide +kernel)
  have fresh : (Rig.ofHost (.ofSizes [10] false) .always .none).history = .empty := rfl
  obtain ⟨starts, stages⟩ := stages_in_order fresh Server.short_serving
  obtain ⟨ready, configured, -, -, -, -, stages⟩ := stages server (starts server () started)
  obtain ⟨-, -, ends, -⟩ := stages _ _ lives
  refine ⟨server, started, configured (by decide), count, ?_, lives,
    ends mainNumber rfl ⟨thread, back, finished⟩⟩
  rcases ready with ⟨running, -⟩ | ⟨down, -⟩
  · exact absurd running stage
  · exact down

end DispatchServer
