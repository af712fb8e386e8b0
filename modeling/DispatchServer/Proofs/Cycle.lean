import DispatchServer.Proofs.Calls
import DispatchServer.Proofs.Stages

/-! How a server's thread goes round in its loop. It tests the token, receives, and processes what
it was given, which brings it back to the test whatever the message does; the token is tested again
within a receive, but a receive that has come past these tests takes a message if there is one. -/
namespace DispatchServer

namespace Frame

def loops : Frame → Bool
  | serve _ | handle _ | guard .. => true
  | _ => false

/-- The frame is not one of the loop, and begins no message. -/
def inner : Frame → Bool
  | serve _ | handle _ | guard .. | process _ => false
  | _ => true

/-- The frame looks into the channel, or will without another test of the token. -/
def receives : Frame → Bool
  | poll _ | await | park => true
  | _ => false

variable {f : Frame} {thread : String} {answer answer' : Answer} {exits : Nat → Option Exit}
  {s s' : Shared} {frames : List Frame} {goesOn : Bool}

theorem loops_of_inner (own : f.inner) : f.loops = false := by
  cases f <;> first | rfl | cases own

theorem step_inner (apart : f.loops = false)
    (h : f.step thread answer exits s = .moved s' frames answer') : ∀ g ∈ frames, g.inner := by
  cases moves_of_step h with
  | quits | serves | handles | handlesNone | guards => cases apart
  | _ => simp [inner]

theorem unwind_inner (apart : f.loops = false) (h : f.unwind thread s = (s', frames, goesOn)) :
    ∀ g ∈ frames, g.inner := by
  cases f with
  | run device script held => cases held <;> cases h <;> simp [inner]
  | leave held given => cases held <;> cases h <;> simp [inner]
  | unpin buffers => cases buffers <;> cases h <;> simp [inner]
  | guard => cases apart
  | _ => cases h; simp

/-- A step within a receive takes a message, or gives nothing and had reason to, or goes on with the
receive. Before it has come past the tests of the token it only does the last, and only as long as
the token is not cancelled. -/
theorem step_awaits (awaits : f.awaits)
    (h : f.step thread answer exits s = .moved s' frames answer') :
    (∃ m, frames = [] ∧ answer' = .received (some m) ∧ f.receives) ∨
    (frames = [] ∧ answer' = .received none ∧
      (s.cancelled = true ∨ s.woken = true ∨ s.sealed = true)) ∨
    ∃ g, frames = [g] ∧ g.awaits ∧ (f.receives ∨ s.cancelled = false) := by
  cases moves_of_step h with
  | dequeuesNone cancelled | heedsNone cancelled => exact .inr (.inl ⟨rfl, rfl, .inl cancelled⟩)
  | dequeues going | heeds going => exact .inr (.inr ⟨_, rfl, rfl, .inr going⟩)
  | receives => exact .inl ⟨_, rfl, rfl, rfl⟩
  | pollsNone _ shut => exact .inr (.inl ⟨rfl, rfl, .inr (.inr shut)⟩)
  | awaitsNone woken => exact .inr (.inl ⟨rfl, rfl, .inr (.inl woken)⟩)
  | polls | pollsAgain | awaits | rises => exact .inr (.inr ⟨_, rfl, rfl, .inl rfl⟩)
  | _ => cases awaits

end Frame

namespace Thread

/-- Where a thread of a server can be in its loop. -/
inductive Cycles : Thread → Prop
  | tests {name : String} {worker : Nat} {answer : Answer} :
      Cycles ⟨name, [.serve worker], answer, none⟩
  | awaits {name : String} {f : Frame} {worker : Nat} {answer : Answer} (awaits : f.awaits) :
      Cycles ⟨name, [f, .handle worker], answer, none⟩
  | given {name : String} {worker : Nat} {message : Option Message} :
      Cycles ⟨name, [.handle worker], .received message, none⟩
  | begins {name : String} {m : Message} {worker : Nat} {desc : String} {answer : Answer} :
      Cycles ⟨name, [.process m, .guard worker desc], answer, none⟩
  | works {thread : Thread} {above : List Frame} {worker : Nat} {desc : String}
      (inner : ∀ f ∈ above, f.inner) (frames : thread.frames = above ++ [.guard worker desc]) :
      Cycles thread

def Shaped (thread : Thread) : Prop := thread.Cycles ∨ ∀ f ∈ thread.frames, f.loops = false

variable {thread thread' : Thread} {exits : Nat → Option Exit} {s s' : Shared}

/-- Whatever a message does, a panic included, it does above the guard, which ends it. -/
theorem Steps.works {above : List Frame} {worker : Nat} {desc : String}
    (steps : thread.Steps exits s s' thread') (inner : ∀ f ∈ above, f.inner)
    (frames : thread.frames = above ++ [.guard worker desc]) :
    (thread'.frames = [.serve worker] ∧ thread'.panicking = none) ∨
      ∃ above, (∀ f ∈ above, f.inner) ∧ thread'.frames = above ++ [.guard worker desc] := by
  cases above with
  | nil =>
    left
    cases steps with
    | moved top calm h =>
      cases frames.symm.trans top
      cases h
      exact ⟨rfl, calm⟩
    | panicked top => cases frames.symm.trans top
    | unwound top _ h =>
      cases frames.symm.trans top
      cases h
      exact ⟨rfl, rfl⟩
  | cons f above =>
    right
    obtain ⟨own, rest⟩ := List.forall_mem_cons.1 inner
    cases steps with
    | moved top _ h =>
      obtain ⟨rfl, rfl⟩ := List.cons.inj (frames.symm.trans top)
      have all := Frame.step_inner (Frame.loops_of_inner own) h
      exact ⟨_, List.forall_mem_append.2 ⟨all, rest⟩, (List.append_assoc ..).symm⟩
    | panicked top => exact ⟨_, inner, frames⟩
    | unwound top _ h =>
      obtain ⟨rfl, rfl⟩ := List.cons.inj (frames.symm.trans top)
      have all := Frame.unwind_inner (Frame.loops_of_inner own) h
      exact ⟨_, List.forall_mem_append.2 ⟨all, rest⟩, (List.append_assoc ..).symm⟩

theorem cycles_of_serve {worker : Nat} (frames : thread.frames = [.serve worker])
    (calm : thread.panicking = none) : thread.Cycles := by
  obtain ⟨name, _, answer, _⟩ := thread
  cases frames
  cases calm
  exact .tests

/-- One step takes the thread further in its loop, or out of it if the token is cancelled. -/
theorem Steps.cycles (steps : thread.Steps exits s s' thread') (cycles : thread.Cycles) :
    thread'.Cycles ∨ thread'.frames = [] ∧ s.cancelled = true ∧
      ∃ worker, thread.frames = [.serve worker] := by
  cases cycles with
  | tests =>
    obtain ⟨frames, answer', h, rfl⟩ := steps.of_calm (by simp)
    cases Frame.moves_of_step h with
    | quits cancelled => exact .inr ⟨rfl, cancelled, _, rfl⟩
    | serves => exact .inl (.awaits rfl)
  | @awaits name f worker answer awaits =>
    obtain ⟨frames, answer', h, rfl⟩ := steps.of_calm (by rintro _ _ _ rfl; cases awaits)
    left
    rcases Frame.step_awaits awaits h with ⟨m, rfl, rfl, -⟩ | ⟨rfl, rfl, -⟩ | ⟨g, rfl, awaits, -⟩
    · exact .given
    · exact .given
    · exact .awaits awaits
  | @given name worker message =>
    obtain ⟨frames, answer', h, rfl⟩ := steps.of_calm (by simp)
    cases message <;> cases h
    · exact .inl .tests
    · exact .inl .begins
  | begins =>
    obtain ⟨frames, answer', h, rfl⟩ := steps.of_calm (by simp)
    exact .inl (.works (Frame.step_inner rfl h) rfl)
  | works inner frames =>
    left
    rcases steps.works inner frames with ⟨back, calm⟩ | ⟨above, inner, frames⟩
    · exact cycles_of_serve back calm
    · exact .works inner frames

theorem Steps.apart (steps : thread.Steps exits s s' thread')
    (apart : ∀ f ∈ thread.frames, f.loops = false) : ∀ f ∈ thread'.frames, f.loops = false :=
  steps.all (fun _ own h g member => Frame.loops_of_inner (Frame.step_inner own h g member))
    (fun own h g member => Frame.loops_of_inner (Frame.unwind_inner own h g member)) apart

theorem Steps.shaped (steps : thread.Steps exits s s' thread') (shaped : thread.Shaped) :
    thread'.Shaped := by
  rcases shaped with cycles | apart
  · rcases steps.cycles cycles with cycles | ⟨none, -⟩
    · exact .inl cycles
    · exact .inr (by simp [none])
  · exact .inr (steps.apart apart)

def Receives (thread : Thread) : Prop :=
  ∃ f worker, thread.frames = [f, .handle worker] ∧ f.receives

/-- The thread's receive has given it the message, which it has not begun. -/
def Holds (m : Message) (thread : Thread) : Prop :=
  ∃ worker, thread.frames = [.handle worker] ∧ thread.answer = .received (some m) ∨
    ∃ desc, thread.frames = [.process m, .guard worker desc]

/-- The thread's receive has given it nothing. -/
def Dismissed (thread : Thread) : Prop :=
  ∃ worker, thread.frames = [.handle worker] ∧ thread.answer = .received none

/-- Whether the thread's receive has given it nothing. -/
def dismissed (thread : Thread) : Bool :=
  match thread.frames, thread.answer with
  | [.handle _], .received none => true
  | _, _ => false

theorem dismissed_iff : thread.dismissed = true ↔ thread.Dismissed := by
  unfold dismissed Dismissed
  split <;> simp_all

instance (thread : Thread) : Decidable thread.Dismissed := decidable_of_iff _ dismissed_iff

def Spent (thread : Thread) : Prop := ¬ thread.Receives ∧ ∀ m, ¬ thread.Holds m

/-- The thread is about to begin the message in its loop. -/
def Begins (m : Message) (thread : Thread) : Prop :=
  thread.panicking = none ∧
    ∃ worker desc rest, thread.frames = .process m :: .guard worker desc :: rest

def Tests (thread : Thread) : Prop :=
  ∃ worker, thread.frames = [.serve worker] ∨ thread.frames = [.dequeue, .handle worker] ∨
    thread.frames = [.heed, .handle worker]

def Expects (thread : Thread) : Prop :=
  (∃ f worker, thread.frames = [f, .handle worker] ∧ f.awaits) ∨
    ∃ worker m, thread.frames = [.handle worker] ∧ thread.answer = .received (some m)

/-- The round in which the thread is gives it no message, or it has come out of it. -/
def Quits (thread : Thread) : Prop :=
  thread.Dismissed ∨ (∃ worker, thread.frames = [.serve worker]) ∨ thread.frames = []

theorem Cycles.loops (cycles : thread.Cycles) : ∃ f ∈ thread.frames, f.loops := by
  cases cycles with
  | tests => exact ⟨_, List.mem_cons_self, rfl⟩
  | @awaits _ _ worker => exact ⟨.handle worker, by simp, rfl⟩
  | given => exact ⟨_, List.mem_cons_self, rfl⟩
  | @begins _ _ worker desc => exact ⟨.guard worker desc, by simp, rfl⟩
  | @works _ _ worker desc _ frames => exact ⟨.guard worker desc, by simp [frames], rfl⟩

theorem Cycles.calm (cycles : thread.Cycles)
    (free : ∀ worker desc, .guard worker desc ∉ thread.frames) : thread.panicking = none := by
  cases cycles with
  | @works _ _ worker desc _ frames => exact absurd (by simp [frames]) (free worker desc)
  | _ => rfl

theorem Shaped.cycles (shaped : thread.Shaped) (loops : ∃ f ∈ thread.frames, f.loops) :
    thread.Cycles := by
  obtain ⟨f, member, own⟩ := loops
  refine shaped.resolve_right fun apart => ?_
  rw [apart f member] at own
  cases own

theorem Quits.loops (quits : thread.Quits) :
    thread.frames = [] ∨ ∃ f ∈ thread.frames, f.loops := by
  rcases quits with ⟨worker, frames, -⟩ | ⟨worker, frames⟩ | none
  · exact .inr ⟨.handle worker, by simp [frames], rfl⟩
  · exact .inr ⟨.serve worker, by simp [frames], rfl⟩
  · exact .inl none

theorem Expects.loops (expects : thread.Expects) : ∃ f ∈ thread.frames, f.loops := by
  rcases expects with ⟨f, worker, frames, -⟩ | ⟨worker, m, frames, -⟩
  all_goals exact ⟨.handle worker, by simp [frames], rfl⟩

theorem Begins.holds {m : Message} (begins : thread.Begins m) (shaped : thread.Shaped) :
    thread.Holds m := by
  obtain ⟨-, worker, desc, rest, frames⟩ := begins
  rcases shaped with cycles | apart
  · cases cycles with
    | begins => cases frames; exact ⟨worker, .inr ⟨desc, rfl⟩⟩
    | @works _ above _ _ inner below =>
      rw [frames] at below
      cases above with
      | nil => cases below
      | cons f above =>
        obtain ⟨rfl, -⟩ := List.cons.inj below
        cases inner _ List.mem_cons_self
    | _ => cases frames
  · cases apart (.guard worker desc) (by simp [frames])

/-- Within its loop a thread begins no message but one that it was given. -/
theorem Cycles.exists_begins (cycles : thread.Cycles) (begins : thread.begins = true) :
    ∃ m, thread.Begins m := by
  cases cycles with
  | @begins _ m worker desc => exact ⟨m, rfl, worker, desc, [], rfl⟩
  | @awaits _ f _ _ awaits =>
    cases f with
    | process => cases awaits
    | _ => cases begins
  | @works _ above _ _ inner frames =>
    rw [Thread.begins, frames] at begins
    cases above with
    | nil => cases begins
    | cons f above =>
      have own := inner f List.mem_cons_self
      cases f with
      | process => cases own
      | _ => cases begins
  | _ => cases begins

theorem Begins.unique {m m' : Message} (begins : thread.Begins m) (holds : thread.Holds m') :
    m' = m := by
  obtain ⟨-, worker, desc, rest, frames⟩ := begins
  obtain ⟨other, ⟨given, -⟩ | ⟨desc', begun⟩⟩ := holds
  · cases frames.symm.trans given
  · cases frames.symm.trans begun
    rfl

theorem Tests.spent (tests : thread.Tests) : thread.Spent := by
  obtain ⟨worker, frames | frames | frames⟩ := tests
  all_goals simp [Spent, Receives, Holds, frames, Frame.receives]

theorem Dismissed.spent (dismissed : thread.Dismissed) : thread.Spent := by
  obtain ⟨worker, frames, answer⟩ := dismissed
  simp [Spent, Receives, Holds, frames, answer]

theorem spent_of_apart (apart : ∀ f ∈ thread.frames, f.loops = false) : thread.Spent := by
  refine ⟨?_, fun m => ?_⟩
  · rintro ⟨f, worker, frames, -⟩
    cases apart (.handle worker) (by simp [frames])
  · rintro ⟨worker, ⟨frames, -⟩ | ⟨desc, frames⟩⟩
    · cases apart (.handle worker) (by simp [frames])
    · cases apart (.guard worker desc) (by simp [frames])

theorem spent_of_works {above : List Frame} {worker : Nat} {desc : String}
    (inner : ∀ f ∈ above, f.inner) (frames : thread.frames = above ++ [.guard worker desc]) :
    thread.Spent := by
  have last : thread.frames.getLast? = some (.guard worker desc) := by
    rw [frames, List.getLast?_concat]
  refine ⟨?_, fun m => ?_⟩
  · rintro ⟨f, other, frames', -⟩
    rw [frames'] at last
    cases last
  · rintro ⟨other, ⟨frames', -⟩ | ⟨desc', frames'⟩⟩
    · rw [frames'] at last
      cases last
    · rw [frames] at frames'
      cases above with
      | nil => cases frames'
      | cons f above =>
        obtain ⟨rfl, -⟩ := List.cons.inj frames'
        cases inner _ List.mem_cons_self

/-- Once the token is cancelled, whoever has entered no receive enters none, and whoever was given a
message begins it and takes no other. -/
theorem Steps.spends (steps : thread.Steps exits s s' thread') (shaped : thread.Shaped)
    (cancelled : s.cancelled = true) :
    (thread.Spent → thread'.Spent) ∧ ∀ m, thread.Holds m →
      thread'.Spent ∨ thread'.Holds m ∧ ¬ thread.Begins m := by
  have always (spent : thread'.Spent) : (thread.Spent → thread'.Spent) ∧ ∀ m, thread.Holds m →
      thread'.Spent ∨ thread'.Holds m ∧ ¬ thread.Begins m :=
    ⟨fun _ => spent, fun _ _ => .inl spent⟩
  rcases shaped with cycles | apart
  · cases cycles with
    | tests =>
      obtain ⟨frames, answer', h, rfl⟩ := steps.of_calm (by simp)
      simp only [Frame.step, cancelled, if_true] at h
      cases h
      exact always (spent_of_apart (by simp))
    | @awaits name f worker answer awaits =>
      by_cases receives : f.receives
      · -- This one can still be given a message.
        refine ⟨fun spent => absurd ⟨f, worker, rfl, receives⟩ spent.1, fun m holds => ?_⟩
        obtain ⟨other, ⟨frames, -⟩ | ⟨desc, frames⟩⟩ := holds <;> cases frames
      · obtain ⟨frames, answer', h, rfl⟩ := steps.of_calm (by rintro _ _ _ rfl; cases awaits)
        rcases Frame.step_awaits awaits h with
          ⟨m, -, -, able⟩ | ⟨rfl, rfl, -⟩ | ⟨g, -, -, able | uncancelled⟩
        · exact absurd able receives
        · exact always (Dismissed.spent ⟨worker, rfl, rfl⟩)
        · exact absurd able receives
        · cases uncancelled.symm.trans cancelled
    | @given name worker message =>
      obtain ⟨frames, answer', h, rfl⟩ := steps.of_calm (by simp)
      cases message with
      | none =>
        cases h
        exact always (Tests.spent ⟨worker, .inl rfl⟩)
      | some m =>
        cases h
        refine ⟨fun spent => absurd ⟨worker, .inl ⟨rfl, rfl⟩⟩ (spent.2 m), fun m' holds => .inr ?_⟩
        obtain ⟨other, ⟨-, same⟩ | ⟨desc, frames⟩⟩ := holds
        · cases same
          exact ⟨⟨worker, .inr ⟨_, rfl⟩⟩, by simp [Begins]⟩
        · cases frames
    | begins =>
      obtain ⟨frames, answer', h, rfl⟩ := steps.of_calm (by simp)
      exact always (spent_of_works (Frame.step_inner rfl h) rfl)
    -- What is above the loop while a message is worked on receives nothing.
    | works inner frames =>
      rcases steps.works inner frames with ⟨back, -⟩ | ⟨above, inner, frames⟩
      · exact always (Tests.spent ⟨_, .inl back⟩)
      · exact always (spent_of_works inner frames)
  · exact always (spent_of_apart (steps.apart apart))

theorem Steps.of_loops {f : Frame} {rest : List Frame} (steps : thread.Steps exits s s' thread')
    (shaped : thread.Shaped) (frames : thread.frames = f :: rest)
    (loops : ∃ g ∈ f :: rest, g.loops) (free : ∀ worker desc, .guard worker desc ∉ f :: rest)
    (calm : ∀ device text held, f ≠ .run device (.panic text) held) :
    ∃ frames' answer', f.step thread.name thread.answer exits s = .moved s' frames' answer' ∧
      thread' = ⟨thread.name, frames' ++ rest, answer', none⟩ := by
  have quiet := (shaped.cycles (frames ▸ loops)).calm (frames ▸ free)
  obtain ⟨name, _, answer, _⟩ := thread
  cases frames
  cases quiet
  exact steps.of_calm calm

theorem Steps.enters (steps : thread.Steps exits s s' thread') (shaped : thread.Shaped)
    {worker : Nat} (frames : thread.frames = [.serve worker]) :
    thread'.Expects ∨ s.cancelled = true ∧ thread'.frames = [] := by
  obtain ⟨_, _, h, rfl⟩ := steps.of_loops shaped frames (by simp [Frame.loops]) (by simp) (by simp)
  cases Frame.moves_of_step h with
  | quits cancelled => exact .inr ⟨cancelled, rfl⟩
  | serves => exact .inl (.inl ⟨_, worker, rfl, rfl⟩)

/-- Once the token is cancelled, whoever was given nothing leaves. -/
theorem Steps.quits (steps : thread.Steps exits s s' thread') (shaped : thread.Shaped)
    (cancelled : s.cancelled = true) (quits : thread.Quits) : thread'.Quits := by
  rcases quits with ⟨worker, frames, answer⟩ | ⟨worker, frames⟩ | none
  · obtain ⟨_, _, h, rfl⟩ :=
      steps.of_loops shaped frames (by simp [Frame.loops]) (by simp) (by simp)
    rw [answer] at h
    cases h
    exact .inr (.inl ⟨worker, rfl⟩)
  · obtain ⟨_, _, h, rfl⟩ :=
      steps.of_loops shaped frames (by simp [Frame.loops]) (by simp) (by simp)
    simp only [Frame.step, cancelled, if_true] at h
    cases h
    exact .inr (.inr rfl)
  · exact absurd none steps.busy

/-- A round comes to a message, or is given none. -/
theorem Steps.expects (steps : thread.Steps exits s s' thread') (shaped : thread.Shaped)
    (expects : thread.Expects) :
    thread'.Expects ∨ thread'.Dismissed ∨ ∃ m, thread'.Begins m := by
  rcases expects with ⟨f, worker, frames, awaits⟩ | ⟨worker, m, frames, answer⟩
  · have free (other : Nat) (desc : String) : .guard other desc ∉ [f, .handle worker] := by
      intro member
      rcases List.mem_pair.1 member with rfl | guarded
      · cases awaits
      · cases guarded
    obtain ⟨_, _, h, rfl⟩ := steps.of_loops shaped frames (by simp [Frame.loops]) free
      (by rintro _ _ _ rfl; cases awaits)
    rcases Frame.step_awaits awaits h with ⟨m, rfl, rfl, -⟩ | ⟨rfl, rfl, -⟩ | ⟨g, rfl, awaits, -⟩
    · exact .inl (.inr ⟨worker, m, rfl, rfl⟩)
    · exact .inr (.inl ⟨worker, rfl, rfl⟩)
    · exact .inl (.inl ⟨g, worker, rfl, awaits⟩)
  · obtain ⟨_, _, h, rfl⟩ :=
      steps.of_loops shaped frames (by simp [Frame.loops]) (by simp) (by simp)
    rw [answer] at h
    cases h
    exact .inr (.inr ⟨m, rfl, _, _, [], rfl⟩)

/-- A receive gives nothing only if the token is cancelled or the channel is closed. -/
theorem Steps.dismissed (steps : thread.Steps exits s s' thread') (shaped : thread.Shaped)
    (dismissed : thread'.Dismissed) : s.cancelled = true ∨ s.woken = true ∨ s.sealed = true := by
  obtain ⟨worker, frames, answer⟩ := dismissed
  rcases shaped with cycles | apart
  · cases cycles with
    | tests =>
      obtain ⟨_, _, h, rfl⟩ := steps.of_calm (by simp)
      cases Frame.moves_of_step h <;> cases frames
    | @awaits name f worker answer awaits =>
      obtain ⟨_, _, h, rfl⟩ := steps.of_calm (by rintro _ _ _ rfl; cases awaits)
      rcases Frame.step_awaits awaits h with ⟨m, -, rfl, -⟩ | ⟨-, -, reason⟩ | ⟨g, rfl, -⟩
      · cases answer
      · exact reason
      · cases frames
    | @given name worker message =>
      obtain ⟨_, _, h, rfl⟩ := steps.of_calm (by simp)
      cases message <;> cases h <;> cases frames
    | begins =>
      obtain ⟨above, _, h, rfl⟩ := steps.of_calm (by simp)
      have last := congrArg List.getLast? frames
      simp at last
    | works inner guarded =>
      rcases steps.works inner guarded with ⟨back, -⟩ | ⟨above, -, still⟩
      · cases back.symm.trans frames
      · have last := congrArg List.getLast? (still.symm.trans frames)
        simp at last
  · cases steps.apart apart (.handle worker) (by simp [frames])

end Thread

/-- Neither the token's flag nor the end of the channel is taken back, and nobody who waits for the
token is woken, or about to be, before it is cancelled. -/
structure Shared.Alerts (s s' : Shared) (frames frames' : List Frame) : Prop where
  cancelled : s.cancelled = true → s'.cancelled = true
  sealed : s.sealed = true → s'.sealed = true
  woken : s'.woken = true → s.woken = true ∨ .wake ∈ frames
  wakes : .wake ∈ frames' → .wake ∈ frames ∨ s'.cancelled = true

namespace Frame

variable {f : Frame} {thread : String} {answer answer' : Answer} {exits : Nat → Option Exit}
  {s s' : Shared} {frames : List Frame} {goesOn : Bool}

theorem step_alerts (h : f.step thread answer exits s = .moved s' frames answer') :
    s.Alerts s' [f] frames := by
  cases moves_of_step h with
  | cancels => exact ⟨fun _ => rfl, id, .inl, fun _ => .inr rfl⟩
  | wakes => exact ⟨id, id, fun _ => .inr (by simp), by simp⟩
  | seals => exact ⟨id, fun _ => rfl, .inl, by simp⟩
  | _ => exact ⟨id, id, .inl, by simp⟩

theorem unwind_alerts (h : f.unwind thread s = (s', frames, goesOn)) : s.Alerts s' [f] frames := by
  cases f with
  | run device script held => cases held <;> cases h <;> exact ⟨id, id, .inl, by simp⟩
  | leave held given => cases held <;> cases h <;> exact ⟨id, id, .inl, by simp⟩
  | unpin buffers => cases buffers <;> cases h <;> exact ⟨id, id, .inl, by simp⟩
  | _ => cases h; exact ⟨id, id, .inl, by simp⟩

end Frame

theorem Shared.Alerts.above {s s' : Shared} {f : Frame} {frames : List Frame}
    (alerts : s.Alerts s' [f] frames) (rest : List Frame) :
    s.Alerts s' (f :: rest) (frames ++ rest) where
  cancelled := alerts.cancelled
  sealed := alerts.sealed
  woken now := (alerts.woken now).imp_right fun wake => by
    rw [List.mem_singleton.1 wake]
    exact List.mem_cons_self
  wakes wake := by
    rcases List.mem_append.1 wake with wake | wake
    · exact (alerts.wakes wake).imp_left fun wake => by
        rw [List.mem_singleton.1 wake]
        exact List.mem_cons_self
    · exact .inl (List.mem_cons_of_mem f wake)

theorem Thread.Steps.alerts {thread thread' : Thread} {exits : Nat → Option Exit} {s s' : Shared}
    (steps : thread.Steps exits s s' thread') : s.Alerts s' thread.frames thread'.frames := by
  cases steps with
  | moved top _ h =>
    rw [top]
    exact (Frame.step_alerts h).above _
  | panicked => exact ⟨id, id, .inl, .inl⟩
  | unwound top _ h =>
    rw [top]
    exact (Frame.unwind_alerts h).above _

end DispatchServer
