import DispatchServer.Proofs.Reasons
import DispatchServer.Proofs.Rounds

/-! How a server's threads leave their loops. A closed channel would give nothing to a thread that
goes on all the same, round after round; but a server closes its channel only when all of its
threads are gone, so that whoever is given nothing leaves. -/
namespace DispatchServer

theorem Spawn.fresh_thread (spawn : Spawn) (index : Nat) : (spawn.thread index).Fresh := by
  cases spawn with
  | doomed text => exact Thread.fresh_of_apart _ (by simp [Frame.loops])
  | _ => exact ⟨_, _, rfl, .inl ⟨index, rfl⟩⟩

theorem World.Launches.alert {σ : Type} {spawner : Spawner σ} {requested : Nat}
    {opening w : World} {seed state : σ} {pool : Pool}
    (launches : World.Launches spawner requested opening seed pool w state)
    (alert : opening.Alert) : w.Alert := by
  induction launches with
  | begins => exact alert
  | step _ t h ih => exact ih.step h
  | @spawned pool w _ _ spawn _ _ _ _ _ ih =>
    refine ih.of_fresh rfl rfl rfl fun thread member => ?_
    rcases List.mem_append.1 member with member | member
    · exact .inl member
    · rw [List.mem_singleton.1 member]
      exact .inr (spawn.fresh_thread pool.started)
  | refused _ _ _ _ ih => exact ih.of_fresh rfl rfl rfl fun _ => .inl

theorem Server.Rises.alert {σ : Type} {spawner : Spawner σ} {requested : Nat} {opening : World}
    {seed : σ} {segment : Segment} {table : ZoneTable} {server : Server}
    (rises : Server.Rises spawner requested opening seed segment table server)
    (main : opening.threads[mainNumber]? = some (.idle mainThread)) (alert : opening.Alert) :
    server.world.Alert := by
  cases rises with
  | up launched => exact (launched.alert alert).of_fresh rfl rfl rfl fun _ => .inl
  | @missing pool w v state cause launched short run =>
    refine World.Alert.reaches run ?_
    rw [@World.assign_eq { w with shared := w.shared.log mainThread .threadsMissing } _ _ _
      (launched.main main)]
    refine (launched.alert alert).of_fresh rfl rfl rfl fun thread member => ?_
    rcases List.mem_or_eq_of_mem_set member with member | rfl
    · exact .inl member
    · exact .inr (Thread.fresh_of_apart _ (by simp [Frame.loops]))

namespace Scene

variable {server : Server} {waiter : Option Nat} {sc sc' : Scene} {p q : Option Nat × Scene}
  {t : Nat} {thread : Thread}

/-- What can happen next in the life of a server. -/
inductive Turns (server : Server) : Option Nat × Scene → Option Nat × Scene → Prop
  | moves {waiter : Option Nat} {sc sc' : Scene} (h : Move (.server server.pool.threads) sc sc') :
      Turns server (waiter, sc) (waiter, sc')
  | waits {sc : Scene} {t : Nat} (outside : t ∉ server.pool.threads)
      (idle : ∃ thread ∈ sc.world.threads[t]?, thread.idles) :
      Turns server (none, sc) (some t, ⟨sc.world.assign t server.ending, sc.hands⟩)

abbrev Advances (server : Server) : Option Nat × Scene → Option Nat × Scene → Prop :=
  Relation.ReflTransGen (Turns server)

theorem Turns.move (turns : Turns server p q) : Move .queue p.2 q.2 := by
  cases turns with
  | moves h => exact h.widen
  | @waits sc t _ idle => exact .call t server.shutdown trivial trivial idle

theorem Turns.lives (turns : Turns server p q) (lives : Lives server p.1 p.2) :
    Lives server q.1 q.2 := by
  cases turns with
  | moves h => exact lives.moves h
  | waits outside idle => exact lives.waits outside idle

/-- No thread of the server is called again once it has left. -/
theorem Turns.over (turns : Turns server p q) (rooted : ∀ thread ∈ p.2.world.threads, thread.Rooted)
    (worker : t ∈ server.pool.threads) (quit : p.2.Over t) : q.2.Over t := by
  cases turns with
  | moves h => exact h.over rooted worker quit
  | @waits sc u outside idle =>
    obtain ⟨thread, here, none⟩ := quit
    obtain ⟨caller, there, -⟩ := idle
    have apart : u ≠ t := by
      rintro rfl
      exact outside worker
    refine ⟨thread, ?_, none⟩
    rw [World.assign_eq there]
    exact (List.getElem?_set_ne apart).trans here

theorem Lives.advances (lives : Lives server p.1 p.2) (run : Advances server p q) :
    Lives server q.1 q.2 := by
  induction run with
  | refl => exact lives
  | tail _ turns ih => exact turns.lives ih

theorem Lives.alert (lives : Lives server waiter sc) (begins : server.world.Alert) :
    sc.world.Alert := by
  induction lives with
  | begins => exact begins
  | moves _ h ih => exact (h.alert ih).1
  | waits _ outside idle ih => exact ((Turns.waits outside idle).move.alert ih).1

theorem Leaving.deserted {drained : Multiset Nat} (leaving : Leaving server t drained thread sc)
    (shutting : thread.shutting ≠ 0) : Deserted server.pool.threads sc := by
  by_cases calm : thread.panicking = none
  · cases leaving.finishing.ending with
    | joins => exact absurd rfl shutting
    | panics panics => exact absurd calm panics
    | stops _ deserted | closes _ deserted | seals _ deserted | fails _ deserted
    | drains _ _ deserted | reports _ _ deserted => exact deserted
  · exact (leaving.cut calm).1.deserted

theorem Thread.Serves.shutting (own : thread.Serves) : thread.shutting = 0 := by
  refine List.sum_eq_zero fun n member => ?_
  obtain ⟨f, here, rfl⟩ := List.mem_map.1 member
  exact (own f here).shutting

section

variable (start : Alive server ⟨server.world, []⟩ none)
include start

theorem Lives.deserted (lives : Lives server waiter sc) (shut : sc.world.shared.sealed = true) :
    Deserted server.pool.threads sc := by
  induction lives with
  | begins =>
    cases start with
    | serving _ opened =>
      rw [opened.sealed] at shut
      cases shut
  | @moves waiter sc sc' before h ih =>
    have alive := before.alive start
    obtain ⟨_, _, staffed⟩ := alive.staffed
    refine (h.onward staffed.sound staffed.rooted).deserted ?_
    by_cases already : sc.world.shared.sealed = true
    · exact ih already
    · rcases h.goes_or_stands with ⟨u, goes, -⟩ | stands
      · obtain ⟨thread, thread', s', here, steps, same⟩ := World.steps_of_step goes
        have shutting : thread.shutting ≠ 0 := by
          rw [same] at shut
          cases steps.turn (staffed.typed thread (List.mem_of_getElem? here)) with
          | shuts _ _ fewer => omega
          | stays _ kept | swaps _ _ kept | empties _ kept | cut _ _ kept =>
            exact absurd (kept.symm.trans shut) already
        rcases alive.serves here with own | ⟨drained, -, leaving⟩
        · exact absurd (Thread.Serves.shutting own) shutting
        · exact leaving.deserted shutting
      · exact absurd (stands.sealed.symm.trans shut) already
  | waits before outside idle ih =>
    obtain ⟨_, _, staffed⟩ := (before.alive start).staffed
    exact fun u worker => (Turns.waits outside idle).over staffed.rooted worker (ih shut u worker)

variable (begins : server.world.Alert) (worker : t ∈ server.pool.threads)
include begins worker

theorem Lives.dismissed (lives : Lives server waiter sc)
    (here : sc.world.threads[t]? = some thread) (dismissed : thread.Dismissed) :
    sc.world.shared.cancelled = true := by
  refine ((lives.alert begins).dismissed thread (List.mem_of_getElem? here) dismissed).resolve_right
    fun shut => ?_
  obtain ⟨gone, there, none⟩ := lives.deserted start shut t worker
  obtain rfl := Option.some.inj (here.symm.trans there)
  obtain ⟨_, frames, -⟩ := dismissed
  cases none.symm.trans frames

theorem Turns.quits (turns : Turns server p q) (lives : Lives server p.1 p.2)
    (cancelled : p.2.world.shared.cancelled = true)
    (quits : ∃ thread ∈ p.2.world.threads[t]?, thread.Quits) :
    q.2.world.shared.cancelled = true ∧ ∃ thread ∈ q.2.world.threads[t]?, thread.Quits := by
  obtain ⟨thread, here, quits⟩ := quits
  have alert := lives.alert begins
  refine ⟨(turns.move.alert alert).2 cancelled, ?_⟩
  rcases quits.loops with none | loops
  · obtain ⟨_, _, staffed⟩ := (lives.alive start).staffed
    obtain ⟨gone, there, none⟩ := turns.over staffed.rooted worker ⟨thread, here, none⟩
    exact ⟨gone, there, .inr (.inr none)⟩
  · obtain ⟨next, there, rfl | steps⟩ := turns.move.steps_of_loops here loops
    · exact ⟨next, there, quits⟩
    · exact ⟨next, there,
        steps.quits (alert.shaped thread (List.mem_of_getElem? here)) cancelled quits⟩

theorem Advances.quits (run : Advances server p q) (lives : Lives server p.1 p.2)
    (cancelled : p.2.world.shared.cancelled = true)
    (quits : ∃ thread ∈ p.2.world.threads[t]?, thread.Quits) :
    q.2.world.shared.cancelled = true ∧ ∃ thread ∈ q.2.world.threads[t]?, thread.Quits := by
  induction run with
  | refl => exact ⟨cancelled, quits⟩
  | tail run turns ih => exact turns.quits start begins worker (lives.advances run) ih.1 ih.2

/-- A round comes to a message, or else it is the last one. -/
theorem Advances.round (run : Advances server p q) (lives : Lives server p.1 p.2)
    (expects : ∃ thread ∈ p.2.world.threads[t]?,
      thread.Expects ∨ p.2.world.shared.cancelled = true ∧ thread.Quits) :
    (∃ b, Advances server p b ∧ Advances server b q ∧
      ∃ begun ∈ b.2.world.threads[t]?, ∃ m, begun.Begins m) ∨
    ∃ thread ∈ q.2.world.threads[t]?,
      thread.Expects ∨ q.2.world.shared.cancelled = true ∧ thread.Quits := by
  induction run with
  | refl => exact .inr expects
  | @tail q r run turns ih =>
    have lives := lives.advances run
    rcases ih with ⟨b, first, rest, begun⟩ | ⟨thread, here, expects | ⟨cancelled, quits⟩⟩
    · exact .inl ⟨b, first, rest.tail turns, begun⟩
    · obtain ⟨next, there, rfl | steps⟩ := turns.move.steps_of_loops here expects.loops
      · exact .inr ⟨next, there, .inl expects⟩
      · have shaped := (lives.alert begins).shaped thread (List.mem_of_getElem? here)
        rcases steps.expects shaped expects with expects | dismissed | begun
        · exact .inr ⟨next, there, .inl expects⟩
        · have cancelled := (turns.lives lives).dismissed start begins worker there dismissed
          exact .inr ⟨next, there, .inr ⟨cancelled, .inl dismissed⟩⟩
        · exact .inl ⟨r, run.tail turns, .refl, next, there, begun⟩
    · obtain ⟨cancelled, next, there, quits⟩ :=
        turns.quits start begins worker lives cancelled ⟨thread, here, quits⟩
      exact .inr ⟨next, there, .inr ⟨cancelled, quits⟩⟩

end

/-- How a thread of a server goes round in its loop. -/
structure Rounds (server : Server) (waiter : Option Nat) (sc : Scene) (t : Nat) (thread : Thread) :
    Prop where
  dismissed : thread.Dismissed → sc.world.shared.cancelled = true ∧
    ∀ q, Advances server (waiter, sc) q → ∃ last ∈ q.2.world.threads[t]?, last.Quits
  round : (∃ worker, thread.frames = [.serve worker]) → ∀ sc₁ q, sc.Goes t sc₁ →
    Advances server (waiter, sc₁) q →
    (∃ back ∈ q.2.world.threads[t]?, ∃ worker, back.frames = [.serve worker]) →
      (∃ b, Advances server (waiter, sc₁) b ∧ Advances server b q ∧
        ∃ begun ∈ b.2.world.threads[t]?, ∃ m, begun.Begins m) ∨
      q.2.world.shared.cancelled = true ∧
        ∀ r, Advances server q r → ∃ last ∈ r.2.world.threads[t]?, last.Quits

theorem Lives.rounds (lives : Lives server waiter sc) (start : Alive server ⟨server.world, []⟩ none)
    (begins : server.world.Alert) (worker : t ∈ server.pool.threads)
    (here : sc.world.threads[t]? = some thread) : Rounds server waiter sc t thread where
  dismissed dismissed := by
    have cancelled := lives.dismissed start begins worker here dismissed
    exact ⟨cancelled, fun q run => (Advances.quits start begins worker run lives cancelled
      ⟨thread, here, .inl dismissed⟩).2⟩
  round head sc₁ q goes run back := by
    have first := lives.moves (goes.move : Move (.server server.pool.threads) sc sc₁)
    have expects : ∃ next ∈ sc₁.world.threads[t]?,
        next.Expects ∨ sc₁.world.shared.cancelled = true ∧ next.Quits := by
      obtain ⟨index, frames⟩ := head
      have alert := lives.alert begins
      have shaped := alert.shaped thread (List.mem_of_getElem? here)
      have still := ((goes.move : Move .queue sc sc₁).alert alert).2
      obtain ⟨other, next, s', there, steps, same⟩ := World.steps_of_step goes.1
      obtain rfl := Option.some.inj (here.symm.trans there)
      refine ⟨next, by rw [same]; exact getElem?_set_here here, ?_⟩
      exact (steps.enters shaped frames).imp_right fun ⟨cancelled, gone⟩ =>
        ⟨still cancelled, .inr (.inr gone)⟩
    rcases Advances.round start begins worker run first expects with begun |
      ⟨next, there, expects | ⟨cancelled, quits⟩⟩
    · exact .inl begun
    · obtain ⟨last, there', _, frames⟩ := back
      obtain rfl := Option.some.inj (there.symm.trans there')
      rcases expects with ⟨_, _, awaits, -⟩ | ⟨_, _, given, -⟩
      · cases frames.symm.trans awaits
      · cases frames.symm.trans given
    · exact .inr ⟨cancelled, fun r rest => (Advances.quits start begins worker rest
        (first.advances run) cancelled ⟨next, there, quits⟩).2⟩

end Scene

/-- However many threads serve one queue, and whatever the messages, the producers and those who
cancel the token do meanwhile, a thread leaves its loop only where it finds the token cancelled. As
soon as that is so it begins one more message at most, for which it has entered a receive before,
and none if it still has to test the token; and all that nobody takes stays in the channel. In the
life of a server a receive gives a thread nothing only if the token is cancelled, so that every
round comes to a message or is the last one. -/
theorem workers_leave_only_when_cancelled {σ : Type} {rig : Rig} {surroundings : Surroundings}
    {devices : List Device} {settings : Settings} {spawner : Spawner σ} {seed : σ} {server : Server}
    (fresh : rig.history = .empty)
    (starts : Server.Starts rig surroundings devices settings spawner seed server) :
    (∀ rig devices robin sc, Scene.Reaches .queue (.opening rig devices robin) sc → sc.Orderly) ∧
    ∀ waiter sc, Scene.Lives server waiter sc → sc.Orderly ∧
      ∀ t ∈ server.pool.threads, ∀ thread ∈ sc.world.threads[t]?,
        Scene.Rounds server waiter sc t thread := by
  refine ⟨fun rig devices robin sc run => ?_, fun waiter sc lives => ?_⟩
  · exact Scene.orderly_of_alert (run.alert (alert_fresh _ devices robin)).1
      (run.sound (Scene.sound_opening rig devices robin))
  · have silent := Rig.messages_of_fresh fresh
    obtain ⟨staffed, opened⟩ := staffed_of_starts silent starts
    have start : Scene.Alive server ⟨server.world, []⟩ none := .serving staffed opened
    have begins : server.world.Alert := by
      obtain ⟨segment, table, set, robin, rig', size, rises, -⟩ := starts.rises fresh
      exact rises.alert rfl (alert_fresh rig' set robin)
    obtain ⟨_, _, staffed⟩ := (lives.alive start).staffed
    exact ⟨Scene.orderly_of_alert (lives.alert begins) staffed.sound,
      fun t worker thread here => lives.rounds start begins worker here⟩

/-- The server's thread waits for a message, but a shutdown is requested instead. -/
def World.forsaken (w : World) : World :=
  (((w.advance 1).start (.idle "caller")).call 2 [.request .terminate]).advanceFor 1 3

def World.sending (w : World) (m : Message) : World :=
  ((w.start (.idle "caller")).assign mainNumber [.enqueue m]).run [0, 0]

def World.overdue (w : World) (m : Message) : World :=
  ((((w.sending m).assign mainNumber [.serve 0]).run [0, 0]).assign 1 [.cancel]).run [1, 1]

/-- A thread begins a message that it has received when the token was cancelled. -/
theorem exists_overdue :
    let opening := Scene.opening (.ofHost (.ofSizes [] false) .always .none) ⟨0, [], []⟩ ⟨0, 1⟩
    ∃ (w v : World) (thread begun : Thread) (m : Message), Scene.Reaches .queue opening ⟨w, []⟩ ∧
      w.shared.cancelled = true ∧ w.threads[mainNumber]? = some thread ∧
      Scene.Reaches .queue ⟨w, []⟩ ⟨v, []⟩ ∧ v.threads[mainNumber]? = some begun ∧
      begun.Begins m := by
  intro opening
  let m := (opening.world.shared.build default).1
  let w : World := ⟨(opening.world.shared.build default).2, opening.world.threads⟩
  have runs : (∃ thread ∈ (w.sending m).threads[mainNumber]?, thread.idles) ∧
      (∃ thread ∈ (((w.sending m).assign mainNumber [.serve 0]).run [0, 0]).threads[1]?,
        thread.idles) ∧
      (w.overdue m).shared.cancelled = true ∧
      (w.overdue m).threads[mainNumber]?.isSome = true ∧
      ∃ thread ∈ ((w.overdue m).run [0, 0]).threads[mainNumber]?,
        thread.begins = true ∧ ∃ f ∈ thread.frames, f.loops = true := by decide +kernel
  obtain ⟨serves, cancels, cancelled, polls, begun, here, begins, loops⟩ := runs
  have built : Scene.Reaches .queue opening ⟨w, [m]⟩ := .single (.build default trivial)
  have sends := (built.tail (.start "caller")).tail
    (@Scene.Move.use .queue _ [] [] mainNumber m .enqueue trivial trivial ⟨_, rfl, rfl, rfl⟩)
  have sent : Scene.Reaches .queue opening ⟨w.sending m, []⟩ :=
    sends.trans (Scene.reaches_of_steps _ (World.reaches_run _ [0, 0]))
  have polled := (sent.tail (.call mainNumber (.serve 0) trivial trivial serves)).trans
    (Scene.reaches_of_steps _ (World.reaches_run _ [0, 0]))
  have run : Scene.Reaches .queue opening ⟨w.overdue m, []⟩ :=
    (polled.tail (.call 1 .cancel trivial trivial cancels)).trans
      (Scene.reaches_of_steps _ (World.reaches_run _ [1, 1]))
  have rest : Scene.Reaches .queue ⟨w.overdue m, []⟩ ⟨(w.overdue m).run [0, 0], []⟩ :=
    Scene.reaches_of_steps [] (World.reaches_run _ [0, 0])
  obtain ⟨thread, polling⟩ := Option.isSome_iff_exists.1 polls
  have alert := (rest.alert (run.alert (alert_fresh _ _ _)).1).1
  have cycles := (alert.shaped begun (List.mem_of_getElem? here)).cycles loops
  obtain ⟨m', begins⟩ := cycles.exists_begins begins
  exact ⟨_, _, thread, begun, m', run, cancelled, polling, rest, here, begins⟩

/-- One thread still begins a message after the token is cancelled, and no other; another one is
given nothing by its receive, and leaves. -/
theorem workers_leave_only_when_cancelled_of_single :
    (∃ (w v : World) (begun : Thread) (m : Message), w.shared.cancelled = true ∧
      Scene.Reaches .queue ⟨w, []⟩ ⟨v, []⟩ ∧ v.threads[mainNumber]? = some begun ∧ begun.Begins m ∧
      ∀ c last, Scene.Goes ⟨v, []⟩ mainNumber c → Scene.Reaches .queue c last →
        ∀ thread ∈ last.world.threads[mainNumber]?, ∀ m', ¬ thread.Begins m') ∧
    ∃ server, Server.single = .ok (server, ()) ∧
      Scene.Lives server none ⟨server.world.forsaken, []⟩ ∧
      (∃ thread ∈ server.world.forsaken.threads[1]?, thread.Dismissed) ∧
      server.world.forsaken.shared.cancelled = true := by
  have runs : ∃ pair ∈ Server.single.toOption, pair.1.pool.threads = [1] ∧
      (∃ thread ∈ ((pair.1.world.advance 1).start (.idle "caller")).threads[2]?, thread.idles) ∧
      ∃ thread ∈ pair.1.world.forsaken.threads[1]?, thread.Dismissed := by decide +kernel
  obtain ⟨⟨server, state⟩, here, pool, idle, thread, there, dismissed⟩ := runs
  have started : Server.single = .ok (server, ()) := eq_ok_of_mem_toOption here
  have pool : server.pool.threads = [1] := pool
  have outside : 2 ∉ server.pool.threads := by simp [pool]
  have worker : 1 ∈ server.pool.threads := by simp [pool]
  have starts : Scene.Lives server none ⟨server.world, []⟩ := .begins
  have waited : Scene.Lives server none ⟨server.world.advance 1, []⟩ :=
    starts.of_steps (World.reaches_advanceFor _ 1 _)
  have requested := (waited.moves (.start "caller")).moves
    (.call 2 (.request .terminate) trivial outside idle)
  have lives : Scene.Lives server none ⟨server.world.forsaken, []⟩ :=
    requested.of_steps ((World.reaches_advanceFor _ 2 _).trans (World.reaches_advanceFor _ 1 3))
  obtain ⟨queue, serves⟩ := workers_leave_only_when_cancelled rfl (starts_of_start started)
  obtain ⟨w, v, polling, begun, m, run, cancelled, here, rest, there', begins⟩ := exists_overdue
  have cycling := (queue _ _ _ _ run).cycling mainNumber polling here
  exact ⟨⟨w, v, begun, m, cancelled, rest, there', begins,
      (cycling.begins cancelled _ begun m rest there' begins).2⟩,
    server, started, lives, ⟨thread, there, dismissed⟩,
    (((serves none _ lives).2 1 worker thread there).dismissed dismissed).1⟩

end DispatchServer
