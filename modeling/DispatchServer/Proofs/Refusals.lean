import DispatchServer.Proofs.Calls

/-! An enqueue that comes when closing has begun. Its message is failed, and so is every message
that the fail callback enqueues in turn; none of this ever waits for another thread, so the call
comes to its end in a bounded number of its own steps. -/
namespace DispatchServer

mutual

/-- Whether a script does not panic, and no fail callback of a message that it enqueues does. -/
def Script.calm : Script → Bool
  | .done | .fault _ => true
  | .panic _ => false
  | .act _ next => next.calm
  | .enqueue message next => message.calm && next.calm
  | .hold _ next => next.calm

/-- Whether a message can be failed without a panic. -/
def Blueprint.calm : Blueprint → Bool
  | .mk kind _ _ _ _ fail => kind = .reply || fail.calm

end

namespace Frame

/-- What is on the stack while a message is refused, and does not panic. -/
def refusing : Frame → Bool
  | run _ script _ => script.calm
  | enqueue m | fail m _ => m.plan.calm
  | leave .. | noteEnqueue _ | noteClose | noteCancel | noteShutdown | reject | close | cancel
  | wake | request _ | remember _ | give _ => true
  | _ => false

/-- No more steps than these are taken by the frame and those that come in its place, once closing
has begun. -/
def span : Frame → Nat
  | run _ script held => script.work + held.length + 1
  | leave held _ => held.length + 1
  | enqueue m => m.work + 2
  | fail m _ => m.work
  | request _ => 6
  | cancel => 2
  | _ => 1

end Frame

def spans (frames : List Frame) : Nat := (frames.map Frame.span).sum

@[simp] theorem spans_nil : spans [] = 0 := rfl

@[simp] theorem spans_cons (f : Frame) (frames : List Frame) :
    spans (f :: frames) = f.span + spans frames := by
  simp [spans]

@[simp] theorem spans_append (frames frames' : List Frame) :
    spans (frames ++ frames') = spans frames + spans frames' := by
  simp [spans]

theorem Blueprint.fail_calm {plan : Blueprint} (calm : plan.calm) (kind : plan.kind = .closure) :
    plan.fail.calm := by
  cases plan
  simp_all [Blueprint.calm, Blueprint.kind, Blueprint.fail]

theorem Blueprint.work_fail (plan : Blueprint) : plan.fail.work + operationWork ≤ plan.work := by
  cases plan
  simp only [Blueprint.fail, Blueprint.work]
  omega

def Outcome.Shrinks (outcome : Outcome) (f : Frame) : Prop :=
  ∃ s' frames answer, outcome = .moved s' frames answer ∧ (∀ g ∈ frames, g.refusing) ∧
    spans frames < f.span

theorem Action.perform_shrinks (action : Action) (thread : String) (device : Option Nat)
    (s : Shared) :
    (∀ g ∈ (action.perform thread device s).2, g.refusing) ∧
      spans (action.perform thread device s).2 < operationWork := by
  cases action <;> simp [Action.perform, Frame.refusing, Frame.span, operationWork]

theorem Script.step_shrinks {script : Script} {thread : String} {device : Option Nat}
    {held : List Message} {s : Shared} (calm : script.calm) :
    (script.step thread device held s).Shrinks (.run device script held) := by
  cases script with
  | panic text => cases calm
  | done | fault =>
    refine ⟨_, _, _, rfl, by simp [Frame.refusing], ?_⟩
    simp [Frame.span, Script.work, operationWork]
  | hold plan next =>
    have calm : next.calm := calm
    refine ⟨_, _, _, rfl, by simpa [Frame.refusing] using calm, ?_⟩
    simp [Frame.span, Script.work, operationWork]
    omega
  | enqueue plan next =>
    obtain ⟨first, rest⟩ := Bool.and_eq_true_iff.1 calm
    refine ⟨_, _, _, rfl, ?_, ?_⟩
    · simpa [Frame.refusing, Shared.build, Ledger.issue] using ⟨first, rest⟩
    · simp [Frame.span, Script.work, Message.work, operationWork]
      omega
  | act action next =>
    have calm : next.calm := calm
    obtain ⟨refusing, few⟩ := action.perform_shrinks thread device s
    refine ⟨_, (action.perform thread device s).2 ++ [.run device next held], _, rfl,
      fun g member => ?_, ?_⟩
    · rcases List.mem_append.1 member with member | member
      · exact refusing g member
      · rwa [List.mem_singleton.1 member]
    · rw [spans_append]
      simp only [spans_cons, spans_nil, Frame.span, Script.work]
      omega

theorem Frame.step_shrinks {f : Frame} {thread : String} {answer : Answer}
    {exits : Nat → Option Exit} {s : Shared} (calm : f.refusing) (closing : s.closing = true) :
    (f.step thread answer exits s).Shrinks f := by
  cases f with
  | run device script held => exact Script.step_shrinks calm
  | leave held given =>
    cases held with
    | nil => exact ⟨_, _, _, rfl, by simp, by simp [span]⟩
    | cons m held => exact ⟨_, _, _, rfl, by simp [refusing], by simp [span]⟩
  | enqueue m =>
    have calm : m.plan.calm := calm
    refine ⟨_, _, _, if_pos closing, by simp [refusing, calm], ?_⟩
    simp [span]
  | fail m error =>
    have calm : m.plan.calm := calm
    have work := m.plan.work_fail
    simp only [operationWork] at work
    simp only [step]
    split
    · rename_i kind
      refine ⟨_, _, _, rfl, by simp [refusing, Blueprint.fail_calm calm kind], ?_⟩
      simp only [spans_cons, spans_nil, span, Message.work, List.length_nil]
      omega
    · refine ⟨_, _, _, rfl, by simp, ?_⟩
      simp only [spans_nil, span, Message.work]
      omega
  | close => exact ⟨_, _, _, if_pos closing, by simp, by simp [span]⟩
  | request reason =>
    simp only [step]
    split
    · exact ⟨_, _, _, rfl, by simp [refusing], by simp [span]⟩
    · exact ⟨_, _, _, rfl, by simp [refusing], by simp [span]⟩
  | noteEnqueue | noteClose | noteCancel | noteShutdown | reject | wake | remember | give
  | cancel =>
    exact ⟨_, _, _, rfl, by simp [refusing], by simp [span]⟩
  | _ => cases calm

namespace Scene

variable {offered : Interface} {sc sc' : Scene} {t : Nat} {below : List Frame}

def Refusing (sc : Scene) (t : Nat) (below above : List Frame) : Prop :=
  sc.world.shared.closing = true ∧ (∀ f ∈ above, f.refusing) ∧
    ∃ name answer, sc.world.threads[t]? = some ⟨name, above ++ below, answer, none⟩

/-- Whatever happens, the refusal goes on. -/
theorem Refusing.move {above : List Frame} (refusing : sc.Refusing t below above)
    (some : above ≠ []) (sound : sc.Sound) (h : Move offered sc sc') :
    ∃ above', sc'.Refusing t below above' := by
  obtain ⟨closing, all, name, answer, here⟩ := refusing
  have closing' := (h.closing sound).1 closing
  obtain ⟨f, above, rfl⟩ := List.exists_cons_of_ne_nil some
  rcases h.thread_cases here with here' | ⟨s', thread', steps, -, here'⟩ | none | ⟨_, waits, -⟩
  · exact ⟨_, closing', all, name, answer, here'⟩
  · obtain ⟨s'', frames, answer', moved, own, -⟩ :=
      Frame.step_shrinks (all f List.mem_cons_self) closing
    obtain ⟨frames', answer'', moved', rfl⟩ := steps.of_calm (by
      rintro device text held rfl
      cases moved)
    obtain ⟨rfl, rfl, rfl⟩ := Outcome.moved.inj (moved.symm.trans moved')
    have all' : ∀ g ∈ frames ++ above, g.refusing :=
      List.forall_mem_append.2 ⟨own, fun g member => all g (List.mem_cons_of_mem f member)⟩
    have frames' : frames ++ above ++ below = frames ++ (above ++ below) :=
      List.append_assoc ..
    exact ⟨frames ++ above, closing', all', name, answer', by rw [here', frames']; rfl⟩
  · cases none
  · obtain ⟨rfl, -⟩ := List.cons.inj waits
    cases all _ List.mem_cons_self

/-- The thread itself can always take it further. -/
theorem Refusing.step {above : List Frame} (refusing : sc.Refusing t below above)
    (some : above ≠ []) (sound : sc.Sound) :
    ∃ sc' above', Move offered sc sc' ∧ sc'.Refusing t below above' ∧
      spans above' < spans above := by
  obtain ⟨closing, all, name, answer, here⟩ := refusing
  obtain ⟨f, above, rfl⟩ := List.exists_cons_of_ne_nil some
  have shrinks : (f.step name answer sc.world.exits sc.world.shared).Shrinks f :=
    Frame.step_shrinks (all f List.mem_cons_self) closing
  obtain ⟨s', frames, answer', moved, own, fewer⟩ := shrinks
  have h : sc.world.step t =
      .some ⟨s', sc.world.threads.set t ⟨name, frames ++ (above ++ below), answer', none⟩⟩ :=
    World.step_of_moved here moved
  have move : Move offered sc ⟨_, sc.hands⟩ := .step t h
  have all' : ∀ g ∈ frames ++ above, g.refusing :=
    List.forall_mem_append.2 ⟨own, fun g member => all g (List.mem_cons_of_mem f member)⟩
  refine ⟨_, frames ++ above, move, ⟨(move.closing sound).1 closing, all', name, answer', ?_⟩,
    by simpa using fewer⟩
  rw [List.append_assoc]
  exact getElem?_set_here here

theorem Refusing.leaves {above : List Frame} (refusing : sc.Refusing t below above)
    (some : above ≠ []) (sound : sc.Sound) :
    ∃ last answer, Leaves offered t below sc last answer := by
  induction n : spans above using Nat.strong_induction_on generalizing sc above with
  | _ n ih =>
    obtain ⟨sc', above', move, refusing', fewer⟩ := refusing.step some sound
    have ⟨_, _, name, answer, here⟩ := refusing'
    by_cases empty : above' = []
    · subst empty
      exact ⟨sc', answer, name, sc, .refl, move, here⟩
    · obtain ⟨last, answer, name, before, run, final⟩ :=
        ih _ (n ▸ fewer) refusing' empty (move.sound sound) rfl
      exact ⟨last, answer, name, before, .head ⟨move, _, here, above', empty, rfl⟩ run, final⟩

theorem Refusing.within {above : List Frame} {now : Scene} (run : Within offered t below sc now)
    (refusing : sc.Refusing t below above) (some : above ≠ []) (sound : sc.Sound) :
    ∃ above', above' ≠ [] ∧ now.Refusing t below above' := by
  induction run with
  | refl => exact ⟨above, some, refusing⟩
  | tail run move ih =>
    obtain ⟨above, some, refusing⟩ := ih
    obtain ⟨above', refusing'⟩ := refusing.move some ((reaches_of_within run).sound sound) move.1
    have ⟨_, _, name, answer, here⟩ := refusing'
    obtain ⟨thread, there, high, some', frames⟩ := move.2
    obtain rfl := Option.some.inj (here.symm.trans there)
    obtain rfl := List.append_cancel_right frames
    exact ⟨_, some', refusing'⟩

/-- Whoever enqueues when closing has begun is refused, and the message is failed. The call returns,
however far it has come and whatever happened meanwhile. -/
theorem Sound.refuses {first now : Scene} {m : Message} {name : String} {left : Answer}
    (sound : first.Sound) (closing : first.world.shared.closing = true)
    (here : first.world.threads[t]? = some ⟨name, .enqueue m :: below, left, none⟩)
    (run : Within offered t below first now) :
    (∀ last answer, Leaves offered t below now last answer →
      answer = .refused ∧ last.traffic.failures m.ticket = [.queueClosed]) ∧
    (m.plan.calm → ∃ last, Leaves offered t below now last .refused) := by
  have refused {last : Scene} {answer : Answer} (leaves : Leaves offered t below now last answer) :
      answer = .refused ∧ last.traffic.failures m.ticket = [.queueClosed] := by
    obtain ⟨other, before, rest, move, back⟩ := leaves
    have returns : Returns offered t (.enqueue m) first last answer :=
      ⟨name, left, below, here, other, before, run.trans rest, move, back⟩
    rcases sound.enqueue_returns returns with ⟨-, opened, -⟩ | ⟨refused, -, failed⟩
    · rw [closing] at opened
      cases opened
    · exact ⟨refused, failed⟩
  refine ⟨fun last answer => refused, fun calm => ?_⟩
  have refusing : first.Refusing t below [.enqueue m] :=
    ⟨closing, by simpa [Frame.refusing] using calm, name, left, here⟩
  obtain ⟨above, some, refusing⟩ := refusing.within run (by simp) sound
  obtain ⟨last, answer, leaves⟩ :=
    refusing.leaves some ((reaches_of_within run).sound sound)
  exact ⟨last, (refused leaves).1 ▸ leaves⟩

end Scene

end DispatchServer
