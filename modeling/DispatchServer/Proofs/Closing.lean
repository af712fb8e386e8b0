import DispatchServer.Proofs.Custody

/-! Who closes the queue. The closing flag is swapped once; whoever has swapped it closes the
channel and fails what is left in it, unless a panic takes the thread away from that. -/
namespace DispatchServer

/-- The frame has swapped the closing flag and not yet closed the channel. -/
def Frame.shutting : Frame → Nat
  | closeChannel => 1
  | _ => 0

def Frame.draining : Frame → Nat
  | drain _ => 1
  | _ => 0

/-- What one move does to the gate of the queue. A panic can take a drain away only if the threads
are not calm. -/
inductive Turn (calm : Prop) (s s' : Shared) (shutting shutting' draining draining' : Nat) : Prop
  | stays (closing : s'.closing = s.closing) (sealed : s'.sealed = s.sealed)
      (empty : s.sealed = true → s.channel.toList = [] → s'.channel.toList = [])
      (same : shutting' = shutting) (same' : draining' = draining)
  | swaps (opened : s.closing = false) (closing : s'.closing = true) (sealed : s'.sealed = s.sealed)
      (channel : s'.channel = s.channel) (more : shutting' = shutting + 1)
      (same : draining' = draining)
  | shuts (closing : s'.closing = s.closing) (sealed : s'.sealed = true)
      (fewer : shutting' + 1 = shutting) (more : draining' = draining + 1)
  | empties (closing : s'.closing = s.closing) (sealed : s'.sealed = s.sealed)
      (empty : s'.channel.toList = []) (same : shutting' = shutting)
      (fewer : draining' + 1 = draining)
  | cut (panics : ¬ calm) (closing : s'.closing = s.closing) (sealed : s'.sealed = s.sealed)
      (same : shutting' = shutting) (fewer : draining' + 1 = draining)

namespace Turn

variable {calm : Prop} {s s' : Shared} {shutting shutting' draining draining' : Nat}

/-- What other frames and threads are at does not matter. -/
theorem total {shutting₀ shutting₁ draining₀ draining₁ : Nat}
    (turn : Turn calm s s' shutting shutting' draining draining')
    (sum : shutting₁ + shutting = shutting₀ + shutting')
    (sum' : draining₁ + draining = draining₀ + draining') :
    Turn calm s s' shutting₀ shutting₁ draining₀ draining₁ := by
  cases turn with
  | stays closing sealed empty same same' =>
    exact .stays closing sealed empty (by omega) (by omega)
  | swaps opened closing sealed channel more same =>
    exact .swaps opened closing sealed channel (by omega) (by omega)
  | shuts closing sealed fewer more => exact .shuts closing sealed (by omega) (by omega)
  | empties closing sealed empty same fewer =>
    exact .empties closing sealed empty (by omega) (by omega)
  | cut panics closing sealed same fewer =>
    exact .cut panics closing sealed (by omega) (by omega)

theorem mono {calm' : Prop} (h : calm' → calm)
    (turn : Turn calm s s' shutting shutting' draining draining') :
    Turn calm' s s' shutting shutting' draining draining' := by
  cases turn with
  | stays closing sealed empty same same' => exact .stays closing sealed empty same same'
  | swaps opened closing sealed channel more same =>
    exact .swaps opened closing sealed channel more same
  | shuts closing sealed fewer more => exact .shuts closing sealed fewer more
  | empties closing sealed empty same fewer => exact .empties closing sealed empty same fewer
  | cut panics closing sealed same fewer =>
    exact .cut (fun calm => panics (h calm)) closing sealed same fewer

theorem quiet (closing : s'.closing = s.closing) (sealed : s'.sealed = s.sealed)
    (channel : s'.channel = s.channel) (same : shutting' = shutting)
    (same' : draining' = draining) : Turn calm s s' shutting shutting' draining draining' :=
  .stays closing sealed (fun _ h => by rw [channel, h]) same same'

/-- Closing never ends, and a closed channel stays closed. -/
theorem closing (turn : Turn calm s s' shutting shutting' draining draining') :
    (s.closing = true → s'.closing = true) ∧ (s.sealed = true → s'.sealed = true) := by
  cases turn <;> simp_all

end Turn

namespace Frame

variable {calm : Prop} {f : Frame} {thread : String} {answer answer' : Answer}
  {exits : Nat → Option Exit} {s s' : Shared} {frames : List Frame}

theorem step_turn (h : f.step thread answer exits s = .moved s' frames answer') :
    Turn calm s s' f.shutting (frames.map shutting).sum f.draining (frames.map draining).sum := by
  cases moves_of_step h with
  | closes opened => exact .swaps opened rfl rfl rfl rfl rfl
  | seals => exact .shuts rfl rfl rfl rfl
  | drained none => exact .empties rfl rfl ((Channel.pop?_eq_none_iff _).1 none) rfl rfl
  | drains popped | receives popped =>
    refine .stays rfl rfl (fun _ empty => ?_) rfl rfl
    rw [Channel.toList_of_pop? popped] at empty
    cases empty
  | sends opened => exact .stays rfl rfl (fun sealed => by simp [opened] at sealed) rfl rfl
  | _ => exact .quiet rfl rfl rfl rfl rfl

/-- A panic only takes frames away. -/
theorem unwind_turn {goesOn : Bool} (brief : f.brief = false)
    (h : f.unwind thread s = (s', frames, goesOn)) :
    Turn (∀ n, f ≠ drain n) s s' f.shutting (frames.map shutting).sum f.draining
      (frames.map draining).sum := by
  cases f with
  | run device script held => cases held <;> cases h <;> exact .quiet rfl rfl rfl rfl rfl
  | leave held given => cases held <;> cases h <;> exact .quiet rfl rfl rfl rfl rfl
  | unpin buffers => cases buffers <;> cases h <;> exact .quiet rfl rfl rfl rfl rfl
  | drain n => cases h; exact .cut (by simp) rfl rfl rfl rfl
  | closeChannel => cases brief
  | _ => cases h; exact .quiet rfl rfl rfl rfl rfl

end Frame

namespace Thread

def shutting (thread : Thread) : Nat := (thread.frames.map Frame.shutting).sum

def draining (thread : Thread) : Nat := (thread.frames.map Frame.draining).sum

/-- No panic is about to pass through a drain. -/
def Calm (thread : Thread) : Prop := thread.panicking ≠ none → ∀ n, .drain n ∉ thread.frames

theorem Steps.turn {thread thread' : Thread} {exits : Nat → Option Exit} {s s' : Shared}
    (h : thread.Steps exits s s' thread') (typed : thread.Typed) :
    Turn thread.Calm s s' thread.shutting thread'.shutting thread.draining thread'.draining := by
  cases h with
  | @moved f rest frames answer s' top calm h =>
    refine (Frame.step_turn h).total ?_ ?_ <;>
      simp only [shutting, draining, top, List.map_append, List.map_cons, List.sum_append,
        List.sum_cons] <;> omega
  | panicked top calm => exact .quiet rfl rfl rfl rfl rfl
  | @unwound f rest frames text s' goesOn top panics h =>
    have brief := (typed.cut (by simp [panics])).2 f (by simp [top])
    have past : thread.Calm → ∀ n, f ≠ .drain n := fun calm n here =>
      calm (by simp [panics]) n (by simp [top, here])
    refine ((Frame.unwind_turn brief h).mono past).total ?_ ?_ <;>
      simp only [shutting, draining, top, List.map_append, List.map_cons, List.sum_append,
        List.sum_cons] <;> omega

end Thread

namespace Scene

def shutting (sc : Scene) : Nat := (sc.world.threads.map Thread.shutting).sum

def draining (sc : Scene) : Nat := (sc.world.threads.map Thread.draining).sum

/-- No fail callback that a drain has called is cut short by a panic. -/
def Calm (sc : Scene) : Prop := ∀ thread ∈ sc.world.threads, thread.Calm

theorem turn_assign {calm : Prop} {w : World} {hands hands' : List Message} {t : Nat}
    {thread : Thread} {frames : List Frame} (here : thread ∈ w.threads[t]?)
    (none : thread.shutting = 0 ∧ thread.draining = 0)
    (none' : (Thread.calling thread.name frames).shutting = 0 ∧
      (Thread.calling thread.name frames).draining = 0) :
    Turn calm w.shared (w.assign t frames).shared (shutting ⟨w, hands⟩)
      (shutting ⟨w.assign t frames, hands'⟩) (draining ⟨w, hands⟩)
      (draining ⟨w.assign t frames, hands'⟩) := by
  rw [World.assign_eq here]
  have sum := sum_map_set Thread.shutting (.calling thread.name frames) here
  have sum' := sum_map_set Thread.draining (.calling thread.name frames) here
  rw [none.1, none'.1] at sum
  rw [none.2, none'.2] at sum'
  exact .quiet rfl rfl rfl sum sum'

theorem Move.turn {offered : Interface} {sc sc' : Scene} (h : Move offered sc sc')
    (typed : ∀ thread ∈ sc.world.threads, thread.Typed) :
    Turn sc.Calm sc.world.shared sc'.world.shared sc.shutting sc'.shutting sc.draining
      sc'.draining := by
  cases h.shift with
  | steps t goes =>
    obtain ⟨thread, thread', s', here, steps, rfl⟩ := World.steps_of_step goes
    have member := List.mem_of_getElem? here
    exact ((steps.turn (typed thread member)).mono fun calm => calm thread member).total
      (sum_map_set _ _ here) (sum_map_set _ _ here)
  | starts name =>
    exact .quiet rfl rfl rfl (by simp [shutting, World.start, Thread.shutting, Thread.idle])
      (by simp [draining, World.start, Thread.draining, Thread.idle])
  | builds | spills | signals => exact .quiet rfl rfl rfl rfl rfl
  | calls here free errand =>
    refine turn_assign here ?_ ?_
    · rw [Thread.shutting, Thread.draining]
      rcases free with none | ⟨ticket, waits⟩
      · rw [none]
        exact ⟨rfl, rfl⟩
      · rw [waits]
        exact ⟨rfl, rfl⟩
    · cases errand with
      | service service => cases service <;> exact ⟨rfl, rfl⟩
      | use use => cases use <;> exact ⟨rfl, rfl⟩
      | nothing => exact ⟨rfl, rfl⟩

theorem Move.closing {offered : Interface} {sc sc' : Scene} (h : Move offered sc sc')
    (sound : sc.Sound) :
    (sc.world.shared.closing = true → sc'.world.shared.closing = true) ∧
      (sc.world.shared.sealed = true → sc'.world.shared.sealed = true) :=
  (h.turn sound.typed).closing

theorem Reaches.closing {offered : Interface} {sc sc' : Scene} (run : Reaches offered sc sc')
    (sound : sc.Sound) :
    (sc.world.shared.closing = true → sc'.world.shared.closing = true) ∧
      (sc.world.shared.sealed = true → sc'.world.shared.sealed = true) := by
  induction run with
  | refl => exact ⟨id, id⟩
  | tail run move ih =>
    have next := move.closing (Reaches.sound run sound)
    exact ⟨fun h => next.1 (ih.1 h), fun h => next.2 (ih.2 h)⟩

/-- How far the closing of the queue has come. One thread at most is at it. -/
inductive Gate (sc : Scene) : Prop
  | opened (closing : sc.world.shared.closing = false) (sealed : sc.world.shared.sealed = false)
      (shutting : sc.shutting = 0) (draining : sc.draining = 0)
  | swapped (closing : sc.world.shared.closing = true) (sealed : sc.world.shared.sealed = false)
      (shutting : sc.shutting = 1) (draining : sc.draining = 0)
  | drains (closing : sc.world.shared.closing = true) (sealed : sc.world.shared.sealed = true)
      (shutting : sc.shutting = 0) (draining : sc.draining = 1)
  | closed (closing : sc.world.shared.closing = true) (sealed : sc.world.shared.sealed = true)
      (shutting : sc.shutting = 0) (draining : sc.draining = 0) (empty : sc.traffic.channel = [])

theorem Move.gate {offered : Interface} {sc sc' : Scene} (h : Move offered sc sc')
    (sound : sc.Sound) (calm : sc.Calm) (gate : sc.Gate) : sc'.Gate := by
  have turn := h.turn sound.typed
  -- Each turn leaves the gate as it is or takes it one further. Any other turn would need a frame
  -- that closes or drains where the sums say that there is none.
  cases gate with
  | opened closing sealed shutting draining =>
    cases turn with
    | stays closing' sealed' _ same same' =>
      exact .opened (closing'.trans closing) (sealed'.trans sealed) (by omega) (by omega)
    | swaps _ closing' sealed' _ more same =>
      exact .swapped closing' (sealed'.trans sealed) (by omega) (by omega)
    | cut panics => exact absurd calm panics
    | _ => omega
  | swapped closing sealed shutting draining =>
    cases turn with
    | stays closing' sealed' _ same same' =>
      exact .swapped (closing'.trans closing) (sealed'.trans sealed) (by omega) (by omega)
    | swaps opened => simp [closing] at opened
    | shuts closing' sealed' fewer more =>
      exact .drains (closing'.trans closing) sealed' (by omega) (by omega)
    | cut panics => exact absurd calm panics
    | empties => omega
  | drains closing sealed shutting draining =>
    cases turn with
    | stays closing' sealed' _ same same' =>
      exact .drains (closing'.trans closing) (sealed'.trans sealed) (by omega) (by omega)
    | swaps opened => simp [closing] at opened
    | empties closing' sealed' empty same fewer =>
      exact .closed (closing'.trans closing) (sealed'.trans sealed) (by omega) (by omega) empty
    | cut panics => exact absurd calm panics
    | shuts => omega
  | closed closing sealed shutting draining empty =>
    cases turn with
    | stays closing' sealed' keeps same same' =>
      exact .closed (closing'.trans closing) (sealed'.trans sealed) (by omega) (by omega)
        (keeps sealed empty)
    | swaps opened => simp [closing] at opened
    | cut panics => exact absurd calm panics
    | _ => omega

/-- Runs in which no fail callback that a drain has called is cut short by a panic. -/
abbrev Calmly (offered : Interface) : Scene → Scene → Prop :=
  Relation.ReflTransGen fun a b => Move offered a b ∧ a.Calm

theorem reaches_of_calmly {offered : Interface} {sc sc' : Scene} (run : Calmly offered sc sc') :
    Reaches offered sc sc' :=
  Relation.ReflTransGen.mono (fun _ _ h => h.1) _ _ run

theorem gate_of_calmly {offered : Interface} {sc sc' : Scene} (run : Calmly offered sc sc')
    (sound : sc.Sound) (gate : sc.Gate) : sc'.Gate := by
  induction run with
  | refl => exact gate
  | tail run move ih => exact move.1.gate ((reaches_of_calmly run).sound sound) move.2 ih

theorem calm_of_quiet {w : World} {hands : List Message}
    (quiet : ∀ thread ∈ w.threads, thread.panicking = none) : Calm ⟨w, hands⟩ :=
  fun thread member panics => absurd (quiet thread member) panics

/-- A thread runs alone, and nothing panics. -/
theorem calmly_advanceFor {offered : Interface} {w : World} {hands : List Message} {t n : Nat}
    (quiet : ∀ i < n, ∀ thread ∈ (w.advanceFor t i).threads, thread.panicking = none) :
    Calmly offered ⟨w, hands⟩ ⟨w.advanceFor t n, hands⟩ := by
  induction n generalizing w with
  | zero => exact .refl
  | succ n ih =>
    cases h : w.step t with
    | none =>
      simp only [World.advanceFor, h]
      exact .refl
    | some v =>
      have goes (i : Nat) : w.advanceFor t (i + 1) = v.advanceFor t i := by
        simp only [World.advanceFor, h]
      rw [goes]
      refine .head ⟨.step t h, calm_of_quiet (quiet 0 (Nat.succ_pos _))⟩ (ih fun i less => ?_)
      exact goes i ▸ quiet (i + 1) (Nat.succ_lt_succ less)

theorem gate_opening (rig : Rig) (devices : DeviceSet) (robin : RoundRobin) :
    (opening rig devices robin).Gate :=
  .opened rfl rfl rfl rfl

end Scene

end DispatchServer
