import DispatchServer.Proofs.Shutdown

/-! The whole life of a server. Once it is started, its threads and those who use it take their
steps in any order, and some thread that is not its own waits for its end, once. -/
namespace DispatchServer

theorem World.reaches_advanceAll (w : World) (threads : List Nat) :
    World.Reaches w (w.advanceAll threads) := by
  induction threads generalizing w with
  | nil => exact .refl w
  | cons t threads ih => exact (reaches_advanceFor w t _).trans (ih (w.advance t))

theorem Server.reaches_waitForShutdown (server : Server) :
    World.Reaches (server.world.assign mainNumber server.ending) server.waitForShutdown :=
  ((World.reaches_advanceFor _ mainNumber _).trans (World.reaches_advanceAll _ _)).trans
    (World.reaches_advanceFor _ mainNumber _)

theorem Frame.unwind_join {f : Frame} {thread : String} {s s' : Shared} {frames : List Frame}
    {goesOn : Bool} (h : f.unwind thread s = (s', frames, goesOn)) (pending : List Nat)
    (joined : Nat) : .join pending joined ∉ frames := by
  cases f with
  | run device script held => cases held <;> cases h <;> simp
  | leave held given => cases held <;> cases h <;> simp
  | unpin buffers => cases buffers <;> cases h <;> simp
  | _ => cases h; simp

namespace Scene

/-- Whatever becomes of a server, and the thread that waits or has waited for its end. -/
inductive Lives (server : Server) : Option Nat → Scene → Prop
  | begins : Lives server none ⟨server.world, []⟩
  | moves {waiter : Option Nat} {sc sc' : Scene} (before : Lives server waiter sc)
      (h : Move (.server server.pool.threads) sc sc') : Lives server waiter sc'
  | waits {sc : Scene} {t : Nat} (before : Lives server none sc) (outside : t ∉ server.pool.threads)
      (idle : ∃ thread ∈ sc.world.threads[t]?, thread.idles) :
      Lives server (some t) ⟨sc.world.assign t server.ending, sc.hands⟩

variable {server : Server} {t : Nat} {thread : Thread} {drained : Multiset Nat} {sc sc' : Scene}
  {workers : List Nat}

theorem Lives.of_steps {waiter : Option Nat} {w v : World} {hands : List Message}
    (lives : Lives server waiter ⟨w, hands⟩) (run : World.Reaches w v) :
    Lives server waiter ⟨v, hands⟩ := by
  induction run with
  | refl => exact lives
  | step t h _ ih => exact ih (lives.moves (.step t h))

structure Vacated (workers : List Nat) (sc : Scene) : Prop where
  closing : sc.world.shared.closing = true
  sealed : sc.world.shared.sealed = true
  deserted : Deserted workers sc

theorem Onward.vacated (onward : Onward workers sc sc') (vacated : Vacated workers sc) :
    Vacated workers sc' :=
  ⟨onward.closing vacated.closing, onward.sealed vacated.sealed, onward.deserted vacated.deserted⟩

theorem Shut.vacated {n : Nat} (shut : sc.Shut drained n) (deserted : Deserted workers sc) :
    Vacated workers sc :=
  ⟨shut.closing, shut.sealed, deserted⟩

/-- Callbacks run, and memory is given back, only when all threads are joined and the queue is
shut. -/
theorem Ending.vacated {requested started : Nat} {below rest : List Frame} {f : Frame}
    (ending : sc.Ending workers requested started below drained thread)
    (releases : ∀ f ∈ below, f.releases) (top : thread.frames = f :: rest)
    (calm : thread.panicking = none) (kind : f.releases ∨ f.produces) :
    Vacated workers sc ∧ ∀ pending joined, .join pending joined ∉ thread.frames := by
  have apart (pending : List Nat) (joined : Nat) : .join pending joined ∉ below := fun member =>
    Bool.noConfusion (releases _ member)
  cases ending with
  | joins | stops | closes | seals =>
    cases top
    simp [Frame.releases, Frame.produces] at kind
  | fails shut deserted => exact ⟨shut.vacated deserted, by simpa using apart⟩
  | @drains _ _ _ _ _ above own shut deserted =>
    refine ⟨shut.vacated deserted, fun pending joined member => ?_⟩
    rcases List.mem_append.1 member with member | member
    · exact Bool.noConfusion (own _ member)
    · exact apart pending joined (by simpa using member)
  | reports shut empty deserted reporting =>
    refine ⟨shut.vacated deserted, ?_⟩
    cases reporting with
    | tallies releases | reports releases =>
      refine fun pending joined member => ?_
      simp only [List.mem_cons, reduceCtorEq, false_or] at member
      exact Bool.noConfusion (releases _ member)
    | releases releases => exact fun _ _ member => Bool.noConfusion (releases _ member)
  | panics panics => exact absurd calm panics

structure Leaving (server : Server) (t : Nat) (drained : Multiset Nat) (thread : Thread)
    (sc : Scene) : Prop where
  finishing : Finishing server t drained thread sc
  last : ∃ above, thread.frames = above ++ [.unmap server.segment.size]
  cut : thread.panicking ≠ none → Vacated server.pool.threads sc ∧
    ∀ pending joined, .join pending joined ∉ thread.frames

theorem Leaving.busy (leaving : Leaving server t drained thread sc) : thread.frames ≠ [] := by
  obtain ⟨above, frames⟩ := leaving.last
  simp [frames]

theorem Leaving.patient (leaving : Leaving server t drained thread sc) (ticket : Nat) :
    thread.frames ≠ [.awaitReply ticket] := by
  intro waits
  obtain ⟨above, last⟩ := leaving.last
  rw [waits] at last
  cases above with
  | nil => cases last
  | cons g above => cases above <;> cases last

theorem Leaving.vacated {f : Frame} {rest : List Frame}
    (leaving : Leaving server t drained thread sc) (top : thread.frames = f :: rest)
    (kind : f.releases ∨ f.produces) : Vacated server.pool.threads sc ∧
      ∀ pending joined, .join pending joined ∉ thread.frames := by
  by_cases calm : thread.panicking = none
  · have releases : ∀ f ∈ server.releasing, f.releases := by
      simp [Server.releasing, Frame.releases]
    exact leaving.finishing.ending.vacated releases top calm kind
  · exact leaving.cut calm

/-- No thread but the one that ends the server can make it go back on that. -/
theorem Leaving.move (leaving : Leaving server t drained thread sc)
    (h : Move (.server server.pool.threads) sc sc') :
    Leaving server t drained thread sc' ∨
      ∃ s' drained' thread', thread.Steps sc.world.exits sc.world.shared s' thread' ∧
        sc' = ⟨⟨s', sc.world.threads.set t thread'⟩, sc.hands⟩ ∧
        Finishing server t drained' thread' sc' ∧
        (Leaving server t drained' thread' sc' ∨ thread'.frames = []) := by
  have onward := h.onward leaving.finishing.staffed.sound leaving.finishing.staffed.rooted
  obtain ⟨above, last⟩ := leaving.last
  rcases leaving.finishing.turn h leaving.busy with finishing |
    ⟨s', drained', thread', steps, rfl, finishing⟩ | ⟨⟨ticket, waits⟩, -⟩
  · exact .inl ⟨finishing, leaving.last, fun panics =>
      ⟨onward.vacated (leaving.cut panics).1, (leaving.cut panics).2⟩⟩
  · refine .inr ⟨s', drained', thread', steps, rfl, finishing, ?_⟩
    rcases steps.beneath last with stays | frames
    · refine .inl ⟨finishing, stays, fun panics' => ?_⟩
      cases steps with
      | moved top calm => exact absurd calm panics'
      -- What panics is a callback, and callbacks run here only when all threads are gone.
      | @panicked device text held rest top =>
        have own : (Frame.run device (.panic text) held).produces := rfl
        obtain ⟨vacated, apart⟩ := leaving.vacated top (.inr own)
        exact ⟨onward.vacated vacated, apart⟩
      | unwound top panics unwinds =>
        obtain ⟨vacated, apart⟩ := leaving.cut (by simp [panics])
        refine ⟨onward.vacated vacated, fun pending joined => ?_⟩
        rw [List.mem_append, not_or]
        exact ⟨Frame.unwind_join unwinds pending joined,
          fun member => apart pending joined (by simp [top, member])⟩
    · right
      cases steps with
      | moved top _ ends | unwound top _ ends =>
        obtain ⟨rfl, rfl⟩ := List.cons.inj (frames.symm.trans top)
        cases ends
        rfl
      | panicked top => cases frames.symm.trans top
  · exact absurd waits (leaving.patient ticket)

/-- The end of the server begins. -/
theorem leaving_of_idle (staffed : sc.Staffed server.pool.threads server.pool.staff none 0)
    (opened : sc.world.shared.Opened) (outside : t ∉ server.pool.threads)
    (idle : ∃ thread ∈ sc.world.threads[t]?, thread.idles) :
    ∃ thread, Leaving server t 0 thread ⟨sc.world.assign t server.ending, sc.hands⟩ ∧
      thread.frames = server.ending := by
  obtain ⟨thread', -, finishing⟩ := staffed.finishing opened outside idle
  obtain ⟨thread, here, -⟩ := idle
  obtain rfl : .calling thread.name server.ending = thread' := by
    have there := finishing.here
    rw [World.assign_eq here, getElem?_set_here here] at there
    exact Option.some.inj there
  refine ⟨_, ⟨finishing, ?_, by simp [Thread.calling]⟩, rfl⟩
  exact ⟨server.pool.finishing ++ [.report server.pool.requested server.pool.started,
    .unpin server.table.buffers], by simp [Thread.calling, Server.ending]⟩

/-- What is known of a server at any time of its life. -/
inductive Alive (server : Server) (sc : Scene) : Option Nat → Prop
  | serving (staffed : sc.Staffed server.pool.threads server.pool.staff none 0)
      (opened : sc.world.shared.Opened) : Alive server sc none
  | leaving {t : Nat} {drained : Multiset Nat} {thread : Thread}
      (leaving : Leaving server t drained thread sc) : Alive server sc (some t)
  | left {t : Nat} {drained : Multiset Nat}
      (staffed : sc.Staffed server.pool.threads server.pool.staff none drained)
      (outside : t ∉ server.pool.threads) : Alive server sc (some t)

variable {waiter : Option Nat}

theorem Alive.move (alive : Alive server sc waiter)
    (h : Move (.server server.pool.threads) sc sc') : Alive server sc' waiter := by
  cases alive with
  | serving staffed opened =>
    obtain ⟨staffed, opened⟩ := Reaches.staffed (.single h) staffed opened
    exact .serving staffed opened
  | @leaving t drained thread leaving =>
    rcases leaving.move h with leaving | ⟨_, drained', thread', -, -, finishing, leaving | none⟩
    · exact .leaving leaving
    · exact .leaving leaving
    · -- The thread that has ended the server is one like others again.
      refine @Alive.left server _ t drained' { finishing.staffed with
        produces := fun u outside _ other there => ?_ } finishing.outside
      rcases eq_or_ne u t with rfl | apart
      · obtain rfl := Option.some.inj (finishing.here.symm.trans there)
        simp [Thread.Produces, none]
      · exact finishing.staffed.produces u outside (by simpa using apart.symm) other there
  | left staffed outside =>
    rcases h.staffed staffed (by simp) with ⟨staffed, -⟩ | ⟨_, member, -⟩
    · exact .left staffed outside
    · cases member

theorem Lives.alive (lives : Lives server waiter sc)
    (start : Alive server ⟨server.world, []⟩ none) : Alive server sc waiter := by
  induction lives with
  | begins => exact start
  | moves before h ih => exact ih.move h
  | waits before outside idle ih =>
    cases ih with
    | serving staffed opened =>
      obtain ⟨thread, leaving, -⟩ := leaving_of_idle staffed opened outside idle
      exact .leaving leaving

theorem Alive.staffed (alive : Alive server sc waiter) :
    ∃ ender drained, sc.Staffed server.pool.threads server.pool.staff ender drained := by
  cases alive with
  | serving staffed => exact ⟨_, _, staffed⟩
  | leaving leaving => exact ⟨_, _, leaving.finishing.staffed⟩
  | left staffed => exact ⟨_, _, staffed⟩

/-- Only the thread that ends the server does anything but to serve or to produce. -/
theorem Alive.serves (alive : Alive server sc waiter) {u : Nat} {other : Thread}
    (there : sc.world.threads[u]? = some other) :
    other.Serves ∨ ∃ drained, waiter = some u ∧ Leaving server u drained other sc := by
  have role {ender : Option Nat} {drained : Multiset Nat}
      (staffed : sc.Staffed server.pool.threads server.pool.staff ender drained)
      (apart : u ∉ ender) : other.Serves := by
    by_cases worker : u ∈ server.pool.threads
    · exact (staffed.serves u worker other there).1
    · exact (staffed.produces u worker apart other there).serves
  cases alive with
  | serving staffed => exact .inl (role staffed (by simp))
  | @leaving t drained thread leaving =>
    rcases eq_or_ne t u with rfl | apart
    · obtain rfl := Option.some.inj (leaving.finishing.here.symm.trans there)
      exact .inr ⟨drained, rfl, leaving⟩
    · exact .inl (role leaving.finishing.staffed (by simpa using apart))
  | left staffed => exact .inl (role staffed (by simp))

end Scene

end DispatchServer
