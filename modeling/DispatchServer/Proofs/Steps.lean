import DispatchServer.Proofs.Moves
import DispatchServer.Proofs.Scene

/-! What a step can be: the frame on top moves on, or begins a panic, or is unwound by one. Whatever
holds of every step is proved from these three cases. A move of a scene is such a step, or somebody
is called, or no thread has a part in it. -/
namespace DispatchServer

section

variable {threads : List Thread} {t : Nat} {thread new : Thread}

theorem getElem?_set_here (here : threads[t]? = some thread) :
    (threads.set t new)[t]? = some new :=
  List.getElem?_set_self (List.getElem?_eq_some_iff.1 here).1

theorem mem_set_here (here : threads[t]? = some thread) : new ∈ threads.set t new :=
  List.mem_of_getElem? (getElem?_set_here here)

theorem forall_mem_set {kind : Thread → Prop} (all : ∀ thread ∈ threads, kind thread)
    (h : kind new) : ∀ thread ∈ threads.set t new, kind thread := by
  intro thread member
  rcases List.mem_or_eq_of_mem_set member with member | rfl
  · exact all thread member
  · exact h

end

inductive Thread.Steps (thread : Thread) (exits : Nat → Option Exit) (s : Shared) :
    Shared → Thread → Prop
  | moved {f : Frame} {rest frames : List Frame} {answer : Answer} {s' : Shared}
      (top : thread.frames = f :: rest) (calm : thread.panicking = none)
      (h : f.step thread.name thread.answer exits s = .moved s' frames answer) :
      Steps thread exits s s' { thread with frames := frames ++ rest, answer := answer }
  | panicked {device : Option Nat} {text : String} {held : List Message} {rest : List Frame}
      (top : thread.frames = .run device (.panic text) held :: rest)
      (calm : thread.panicking = none) :
      Steps thread exits s s { thread with panicking := some text }
  | unwound {f : Frame} {rest frames : List Frame} {text : String} {s' : Shared} {goesOn : Bool}
      (top : thread.frames = f :: rest) (panics : thread.panicking = some text)
      (h : f.unwind thread.name s = (s', frames, goesOn)) :
      Steps thread exits s s' { thread with
        frames := frames ++ rest
        panicking := if goesOn then some text else none }

theorem Thread.steps_of_step {thread thread' : Thread} {exits : Nat → Option Exit}
    {s s' : Shared} (h : thread.step exits s = some (s', thread')) :
    thread.Steps exits s s' thread' := by
  unfold Thread.step at h
  split at h
  case h_1 => cases h
  case h_2 f rest text top panics =>
    cases h
    rw [panics]
    exact .unwound top panics rfl
  case h_3 f rest top calm =>
    split at h
    case h_1 => cases h
    case h_2 s' frames answer h' => cases h; exact .moved top calm h'
    case h_3 text h' =>
      cases h
      obtain ⟨device, held, rfl⟩ := Frame.step_panicked h'
      exact .panicked top calm

theorem Thread.Steps.busy {thread thread' : Thread} {exits : Nat → Option Exit} {s s' : Shared}
    (steps : thread.Steps exits s s' thread') : thread.frames ≠ [] := by
  cases steps with
  | moved top | panicked top | unwound top => simp [top]

/-- Frames above a frame come and go; it takes part only when it is on top. -/
theorem Thread.Steps.beneath {thread thread' : Thread} {exits : Nat → Option Exit} {s s' : Shared}
    {g : Frame} {above below : List Frame} (steps : thread.Steps exits s s' thread')
    (frames : thread.frames = above ++ g :: below) :
    (∃ above, thread'.frames = above ++ g :: below) ∨ thread.frames = g :: below := by
  cases above with
  | nil => exact .inr frames
  | cons f above =>
    left
    cases steps with
    | panicked => exact ⟨_, frames⟩
    | moved top | unwound top =>
      obtain ⟨rfl, rfl⟩ := List.cons.inj (frames.symm.trans top)
      exact ⟨_, (List.append_assoc ..).symm⟩

/-- As long as nothing panics, the frame on top moves on. -/
theorem Thread.Steps.of_calm {name : String} {f : Frame} {rest : List Frame} {answer : Answer}
    {exits : Nat → Option Exit} {s s' : Shared} {thread' : Thread}
    (steps : Steps ⟨name, f :: rest, answer, none⟩ exits s s' thread')
    (calm : ∀ device text held, f ≠ .run device (.panic text) held) :
    ∃ frames answer', f.step name answer exits s = .moved s' frames answer' ∧
      thread' = ⟨name, frames ++ rest, answer', none⟩ := by
  cases steps with
  | moved top _ h =>
    obtain ⟨rfl, rfl⟩ := List.cons.inj top
    exact ⟨_, _, h, rfl⟩
  | panicked top =>
    obtain ⟨rfl, rfl⟩ := List.cons.inj top
    exact absurd rfl (calm _ _ _)
  | unwound _ panics => cases panics

theorem Thread.Steps.of_panicking {name text : String} {f : Frame} {rest : List Frame}
    {answer : Answer} {exits : Nat → Option Exit} {s s' : Shared} {thread' : Thread}
    (steps : Steps ⟨name, f :: rest, answer, some text⟩ exits s s' thread') :
    ∃ frames goesOn, f.unwind name s = (s', frames, goesOn) ∧
      thread' = ⟨name, frames ++ rest, answer, if goesOn then some text else none⟩ := by
  cases steps with
  | moved _ calm | panicked _ calm => cases calm
  | unwound top panics h =>
    obtain ⟨rfl, rfl⟩ := List.cons.inj top
    cases panics
    exact ⟨_, _, h, rfl⟩

/-- A step of the machine is a step of one of its threads. -/
theorem World.steps_of_step {w v : World} {t : Nat} (h : w.step t = some v) :
    ∃ thread thread' s', w.threads[t]? = some thread ∧
      thread.Steps w.exits w.shared s' thread' ∧ v = ⟨s', w.threads.set t thread'⟩ := by
  unfold World.step at h
  split at h
  · cases h
  · rename_i thread here
    split at h
    · cases h
    · rename_i s' thread' h'
      cases h
      exact ⟨thread, thread', s', here, Thread.steps_of_step h', rfl⟩

theorem World.idle_of_step {w v : World} {t u : Nat} {thread : Thread} (h : w.step t = some v)
    (here : w.threads[u]? = some thread) (none : thread.frames = []) :
    v.threads[u]? = some thread := by
  obtain ⟨mover, mover', s', there, steps, rfl⟩ := World.steps_of_step h
  have apart : t ≠ u := by
    rintro rfl
    obtain rfl := Option.some.inj (there.symm.trans here)
    exact steps.busy none
  rw [List.getElem?_set_ne apart]
  exact here

theorem World.step_of_moved {w : World} {t : Nat} {name : String} {f : Frame}
    {rest frames : List Frame} {answer answer' : Answer} {s' : Shared}
    (here : w.threads[t]? = some ⟨name, f :: rest, answer, none⟩)
    (moved : f.step name answer w.exits w.shared = .moved s' frames answer') :
    w.step t = some ⟨s', w.threads.set t ⟨name, frames ++ rest, answer', none⟩⟩ := by
  simp only [World.step, here, Thread.step, moved]

theorem World.blocks_of_stuck {w : World} {t : Nat} {name : String} {f : Frame}
    {rest : List Frame} {answer : Answer}
    (here : w.threads[t]? = some ⟨name, f :: rest, answer, none⟩) (stuck : w.step t = none) :
    f.Blocks w.exits w.shared := by
  cases h : f.step name answer w.exits w.shared with
  | blocked => exact Frame.blocks_of_step h
  | moved | panicked => simp [step, here, Thread.step, h] at stuck

theorem World.assign_eq {w : World} {t : Nat} {thread : Thread} {frames : List Frame}
    (here : thread ∈ w.threads[t]?) :
    w.assign t frames = { w with threads := w.threads.set t (.calling thread.name frames) } := by
  unfold World.assign
  congr 1
  apply List.ext_getElem?
  intro i
  by_cases h : t = i
  · subst h
    obtain ⟨bound, -⟩ := List.getElem?_eq_some_iff.1 here
    rw [List.getElem?_modify_eq, here, List.getElem?_set_self bound]
    rfl
  · rw [List.getElem?_modify_ne _ _ h, List.getElem?_set_ne h]

namespace World

variable {kind : World → Prop} {measure : World → Nat}

/-- So many steps, of whatever threads, lead from one world to the other. -/
inductive Takes : Nat → World → World → Prop
  | none (w : World) : Takes 0 w w
  | step {n : Nat} {w v u : World} (t : Nat) (h : w.step t = some v) (rest : Takes n v u) :
      Takes (n + 1) w u

theorem Takes.bounded {n : Nat} {w v : World} (takes : Takes n w v) (start : kind w)
    (lowers : ∀ w v t, kind w → w.step t = some v → kind v ∧ measure v < measure w) :
    kind v ∧ n + measure v ≤ measure w := by
  induction takes with
  | none w => exact ⟨start, Nat.le_of_eq (Nat.zero_add _)⟩
  | step t h _ ih =>
    obtain ⟨kept, lower⟩ := lowers _ _ t start h
    obtain ⟨kept, bound⟩ := ih kept
    exact ⟨kept, by omega⟩

/-- A thread that may take as many steps as it has left comes to a stop. -/
theorem advanceFor_stops {t steps : Nat} {w : World} (start : kind w)
    (lowers : ∀ w v, kind w → w.step t = some v → kind v ∧ measure v < measure w)
    (enough : measure w ≤ steps) :
    kind (w.advanceFor t steps) ∧ (w.advanceFor t steps).step t = none := by
  induction steps generalizing w with
  | zero =>
    refine ⟨start, Option.eq_none_iff_forall_ne_some.2 fun v h => ?_⟩
    have lower := (lowers w v start h).2
    omega
  | succ steps ih =>
    cases h : w.step t with
    | none => simpa only [advanceFor, h] using And.intro start trivial
    | some v =>
      obtain ⟨kept, lower⟩ := lowers w v start h
      simpa only [advanceFor, h] using ih kept (by omega)

end World

namespace Scene

inductive Errand : List Frame → Prop
  | service (service : Service) : Errand service.frames
  | use (use : Use) (m : Message) : Errand [use.frame m]
  | nothing : Errand []

/-- What a move does, whatever the callers have in their hands: somebody takes a step, or somebody
is called who was in no call or waited for a reply, or the threads stay as they are. -/
inductive Shift : Scene → Scene → Prop
  | steps {w v : World} {hands : List Message} (t : Nat) (h : w.step t = some v) :
      Shift ⟨w, hands⟩ ⟨v, hands⟩
  | starts {w : World} {hands : List Message} (name : String) :
      Shift ⟨w, hands⟩ ⟨w.start (.idle name), hands⟩
  | builds {w : World} {hands hands' : List Message} (plan : Blueprint) :
      Shift ⟨w, hands⟩ ⟨{ w with shared := (w.shared.build plan).2 }, hands'⟩
  | spills {w : World} {hands hands' : List Message} (m : Message) (panicking : Bool) :
      Shift ⟨w, hands⟩ ⟨{ w with shared := w.shared.drop m panicking }, hands'⟩
  | signals {w : World} {hands : List Message} (signal : Signal) :
      Shift ⟨w, hands⟩ ⟨w.signalled signal, hands⟩
  | calls {w : World} {hands hands' : List Message} {t : Nat} {caller : Thread}
      {frames : List Frame} (here : caller ∈ w.threads[t]?)
      (free : caller.frames = [] ∨ ∃ ticket, caller.frames = [.awaitReply ticket])
      (errand : Errand frames) : Shift ⟨w, hands⟩ ⟨w.assign t frames, hands'⟩

theorem Move.shift {offered : Interface} {sc sc' : Scene} (h : Move offered sc sc') :
    sc.Shift sc' := by
  cases h with
  | step t h => exact .steps t h
  | start name => exact .starts name
  | build plan => exact .builds plan
  | spill m => exact .spills m _
  | signal signal => exact .signals signal
  | call t service _ _ idle =>
    obtain ⟨caller, here, none, -⟩ := idle
    exact .calls here (.inl none) (.service service)
  | use t m use _ _ idle =>
    obtain ⟨caller, here, none, -⟩ := idle
    exact .calls here (.inl none) (.use use m)
  | take t m given =>
    obtain ⟨caller, here, none, -⟩ := given
    exact .calls here (.inl none) .nothing
  | expire t ticket waits =>
    obtain ⟨caller, here, frames⟩ := waits
    exact .calls here (.inr ⟨ticket, frames⟩) .nothing

end Scene

end DispatchServer
