import DispatchServer.Proofs.Demands
import DispatchServer.Proofs.Drain

/-! What the demands made of a coordinator come to. While a call of it is under way, no other thread
takes a step; the calls themselves come in any order and number, from any threads. -/
namespace DispatchServer

namespace World

variable {w : World} {t : Nat} {name : String} {below : List Frame} {left : Answer}

/-- What a thread demands if it alone takes so many steps. -/
def demands (w : World) (t : Nat) : (steps : Nat) → List Demand
  | 0 => []
  | steps + 1 =>
    match w.step t with
    | none => []
    | some v => (w.demand? t).toList ++ v.demands t steps

end World

theorem Scene.Traced.advance {offered : Interface} {first : Scene} {demands : List Demand}
    {w : World} {hands : List Message} (traced : Traced offered first demands ⟨w, hands⟩) (t : Nat)
    (steps : Nat) :
    Traced offered first (demands ++ w.demands t steps) ⟨w.advanceFor t steps, hands⟩ := by
  induction steps generalizing w demands with
  | zero => rwa [World.demands, List.append_nil]
  | succ steps ih =>
    cases stepped : w.step t with
    | none =>
      simp only [World.demands, World.advanceFor, stepped, List.append_nil]
      exact traced
    | some v =>
      have goes : Goes ⟨w, hands⟩ t ⟨v, hands⟩ := ⟨stepped, rfl⟩
      simp only [World.demands, World.advanceFor, stepped, ← List.append_assoc]
      exact ih (traced.goes goes)

namespace World

variable {w : World} {t : Nat} {name : String} {below : List Frame} {left : Answer}

theorem demands_of_moved {f : Frame} {rest frames : List Frame} {answer : Answer} {s' : Shared}
    (here : w.threads[t]? = some ⟨name, f :: rest, left, none⟩)
    (moved : f.step name left w.exits w.shared = .moved s' frames answer) :
    ∃ v : World, v.shared = s' ∧ v.threads = w.threads.set t ⟨name, frames ++ rest, answer, none⟩ ∧
      (∀ steps, w.advanceFor t (steps + 1) = v.advanceFor t steps) ∧
      ∀ steps, w.demands t (steps + 1) =
        (Thread.demand? ⟨name, f :: rest, left, none⟩).toList ++ v.demands t steps := by
  have stepped := step_of_moved here moved
  have demand : w.demand? t = Thread.demand? ⟨name, f :: rest, left, none⟩ := by
    rw [demand?, here]
    rfl
  refine ⟨⟨s', w.threads.set t ⟨name, frames ++ rest, answer, none⟩⟩, rfl, rfl, fun steps => ?_,
    fun steps => ?_⟩
  · simp only [advanceFor, stepped]
  · simp only [demands, stepped, demand]

theorem demands_append (w : World) (t j k : Nat) :
    w.demands t (j + k) = w.demands t j ++ (w.advanceFor t j).demands t k := by
  induction j generalizing w with
  | zero => rw [Nat.zero_add]; rfl
  | succ j ih =>
    rw [Nat.succ_add]
    cases stepped : w.step t with
    | none => cases k <;> simp only [demands, advanceFor, stepped, List.append_nil]
    | some v => simp only [demands, advanceFor, stepped, ih v, List.append_assoc]

theorem mem_demands {steps : Nat} {demand : Demand} (member : demand ∈ w.demands t steps) :
    ∃ j < steps, (w.advanceFor t j).demand? t = some demand := by
  induction steps generalizing w with
  | zero => cases member
  | succ steps ih =>
    cases stepped : w.step t with
    | none =>
      simp only [demands, stepped] at member
      cases member
    | some v =>
      simp only [demands, stepped] at member
      rcases List.mem_append.1 member with first | later
      · exact ⟨0, Nat.succ_pos _, Option.mem_toList.1 first⟩
      · obtain ⟨j, less, made⟩ := ih later
        exact ⟨j + 1, Nat.succ_lt_succ less, by simpa only [advanceFor, stepped] using made⟩

theorem request_alone {reason : ShutdownReason}
    (here : w.threads[t]? = some ⟨name, .request reason :: below, left, none⟩) :
    ∃ steps, (w.advanceFor t steps).threads[t]? =
        some ⟨name, below, .flag (w.shared.state = .running), none⟩ ∧
      w.demands t steps = [.request reason] := by
  have cancels {v : World} {answer given : Answer}
      (here : v.threads[t]? = some ⟨name, .cancel :: .give given :: below, answer, none⟩) :
      (v.advanceFor t 3).threads[t]? = some ⟨name, below, given, none⟩ ∧ v.demands t 3 = [] := by
    obtain ⟨v₁, -, threads, first, nothing⟩ := demands_of_moved here rfl
    have here₁ := threads ▸ getElem?_set_here here
    obtain ⟨v₂, -, threads, second, nothing₁⟩ := demands_of_moved here₁ rfl
    have here₂ := threads ▸ getElem?_set_here here₁
    obtain ⟨v₃, -, threads, third, nothing₂⟩ := demands_of_moved here₂ rfl
    have here₃ := threads ▸ getElem?_set_here here₂
    rw [first 2, second 1, third 0, nothing 2, nothing₁ 1, nothing₂ 0]
    exact ⟨here₃, rfl⟩
  by_cases running : w.shared.state = .running
  · obtain ⟨v, -, threads, first, demand⟩ := demands_of_moved here
      (by simp only [Frame.step, running]; rfl)
    have here := threads ▸ getElem?_set_here here
    obtain ⟨v', -, threads, second, nothing⟩ := demands_of_moved here rfl
    have here := threads ▸ getElem?_set_here here
    obtain ⟨back, none⟩ := cancels here
    refine ⟨5, ?_, ?_⟩
    · rw [first 4, second 3, back]
      simp [running]
    · rw [demand 4, nothing 3, none]
      rfl
  · obtain ⟨v, -, threads, first, demand⟩ := demands_of_moved here
      (by simp only [Frame.step]; rfl)
    have here := threads ▸ getElem?_set_here here
    obtain ⟨back, none⟩ := cancels here
    refine ⟨4, ?_, ?_⟩
    · rw [first 3, back]
      simp [running]
    · rw [demand 3, none]
      rfl

/-- A thread that waits for threads which have ended is told how many there were. -/
theorem join_alone {pending : List Nat} {joined : Nat}
    (here : w.threads[t]? = some ⟨name, .join pending joined :: below, left, none⟩)
    (gone : ∀ u ∈ pending, w.exits u ≠ none) :
    ∃ steps joined', (w.advanceFor t steps).threads[t]? =
        some ⟨name, below, .count joined', none⟩ ∧ w.demands t steps = [] ∧
      (w.advanceFor t steps).shared.state = w.shared.state ∧
      (w.advanceFor t steps).shared.closing = w.shared.closing ∧
      (w.advanceFor t steps).shared.channel = w.shared.channel := by
  -- Over those that are still to be joined, in any world, since each join is a step of its own.
  induction pending generalizing w joined left with
  | nil =>
    obtain ⟨v, shared, threads, first, nothing⟩ := demands_of_moved here rfl
    have here := threads ▸ getElem?_set_here here
    refine ⟨1, joined, ?_, ?_, ?_⟩
    · rw [first 0]
      exact here
    · rw [nothing 0]
      rfl
    · rw [first 0, advanceFor, shared]
      exact ⟨rfl, rfl, rfl⟩
  | cons other pending ih =>
    obtain ⟨⟨exit, panicked⟩, ended⟩ := Option.ne_none_iff_exists'.1 (gone other List.mem_cons_self)
    obtain ⟨s', joined', moved, state, closing, channel⟩ : ∃ s' joined',
        (Frame.join (other :: pending) joined).step name left w.exits w.shared =
          .moved s' [.join pending joined'] .done ∧ s'.state = w.shared.state ∧
        s'.closing = w.shared.closing ∧ s'.channel = w.shared.channel := by
      cases panicked <;> simp only [Frame.step, ended] <;> exact ⟨_, _, rfl, rfl, rfl, rfl⟩
    obtain ⟨v, rfl, threads, first, nothing⟩ := demands_of_moved here moved
    have here' := threads ▸ getElem?_set_here here
    have gone' : ∀ u ∈ pending, v.exits u ≠ none := by
      intro u member
      have there := gone u (List.mem_cons_of_mem other member)
      have apart : t ≠ u := by
        rintro rfl
        simp [exits, here, Thread.finished] at there
      rw [exits, threads, List.getElem?_set_ne apart]
      exact there
    obtain ⟨steps, joined', back, none, state', closing', channel'⟩ := ih here' gone'
    refine ⟨steps + 1, joined', ?_, ?_, ?_⟩
    · rw [first steps]
      exact back
    · rw [nothing steps, none]
      rfl
    · rw [first steps]
      exact ⟨state'.trans state, closing'.trans closing, channel'.trans channel⟩

theorem finish_notMem_demands {steps : Nat}
    (within : ∀ j < steps, ∃ above left, above ≠ [] ∧
      (∀ f ∈ above, f ≠ .stop) ∧ (w.advanceFor t j).threads[t]? =
        some ⟨name, above ++ below, left, none⟩) : .finish ∉ w.demands t steps := by
  intro member
  obtain ⟨j, less, made⟩ := mem_demands member
  obtain ⟨above, left, some, apart, here⟩ := within j less
  obtain ⟨f, above, rfl⟩ := List.exists_cons_of_ne_nil some
  rw [demand?, here, Option.bind_some] at made
  unfold Thread.demand? at made
  split at made
  · cases made
  · rename_i top _
    exact apart f List.mem_cons_self (List.cons.inj top).1
  · cases made

theorem close_alone (here : w.threads[t]? = some ⟨name, .close :: below, left, none⟩)
    (calm : ∀ m ∈ w.shared.channel.toList, m.plan.calm) :
    ∃ steps, (w.advanceFor t steps).threads[t]? = some ⟨name, below,
        .count (if w.shared.closing then 0 else w.shared.queued.length), none⟩ ∧
      .finish ∉ w.demands t steps := by
  cases closing : w.shared.closing with
  | true =>
    obtain ⟨v, -, threads, first, nothing⟩ := demands_of_moved here (if_pos closing)
    refine ⟨1, ?_, ?_⟩
    · rw [first 0]
      exact threads ▸ getElem?_set_here here
    · rw [nothing 0]
      exact List.not_mem_nil
  | false =>
    obtain ⟨steps, -, back, within⟩ := closes here closing calm
    refine ⟨steps, back.back, @finish_notMem_demands w t name below steps fun j less => ?_⟩
    rcases Nat.eq_zero_or_pos j with rfl | after
    · exact ⟨[.close], left, by simp, by simp, here⟩
    · obtain ⟨above, left, some, draining, there⟩ := within j less after
      refine ⟨above, left, some, fun f member => ?_, there⟩
      rintro rfl
      rcases draining.own _ member with own | own <;> cases own

/-- A thread that ends the server alone, when the threads have ended that it waits for, is told how
many messages were left in the queue, unless somebody was there before. -/
theorem finish_alone {pending : List Nat} {joined : Nat}
    (here : w.threads[t]? = some ⟨name, .join pending joined :: .stop :: below, left, none⟩)
    (gone : ∀ u ∈ pending, w.exits u ≠ none)
    (calm : ∀ m ∈ w.shared.channel.toList, m.plan.calm) :
    ∃ steps joined' asked, (w.advanceFor t steps).threads[t]? = some ⟨name, below,
        .outcome joined' (if w.shared.state = .stopped ∨ w.shared.closing then 0
          else w.shared.queued.length), none⟩ ∧
      w.demands t steps = .finish :: asked ∧ .finish ∉ asked := by
  obtain ⟨waits, joined', here, none, state, closing, channel⟩ := join_alone here gone
  have queued : (w.advanceFor t waits).shared.queued = w.shared.queued := by
    rw [Shared.queued, channel, Shared.queued]
  rw [← state, ← closing, ← queued]
  rw [← channel] at calm
  have both (steps : Nat) : w.advanceFor t (waits + steps) =
      (w.advanceFor t waits).advanceFor t steps := advanceFor_add w t waits steps
  have demands (steps : Nat) : w.demands t (waits + steps) =
      (w.advanceFor t waits).demands t steps := by
    rw [demands_append, none, List.nil_append]
  clear none state closing channel queued
  generalize w.advanceFor t waits = v at both demands here calm ⊢
  have logged : (v.shared.log name .stopping).state = v.shared.state := rfl
  by_cases stopped : v.shared.state = .stopped
  · obtain ⟨v', -, threads, first, demand⟩ := demands_of_moved here
      (by simp only [Frame.step, logged, stopped]; rfl)
    refine ⟨waits + 1, joined', [], ?_, ?_, List.not_mem_nil⟩
    · rw [both, first 0, if_pos (.inl stopped)]
      exact threads ▸ getElem?_set_here here
    · rw [demands, demand 0]
      rfl
  · have moved : Frame.stop.step name (.count joined') v.exits v.shared =
        .moved ((v.shared.log name .stopping).setState .stopped) [.close, .tally joined']
          .done := by
      simp only [Frame.step, logged]
    obtain ⟨v', shared, threads, first, demand⟩ := demands_of_moved here moved
    have here' : v'.threads[t]? =
        some ⟨name, .close :: ([.tally joined'] ++ below), .done, none⟩ :=
      threads ▸ getElem?_set_here here
    obtain ⟨steps, back, quiet⟩ := close_alone here' (by rw [shared]; exact calm)
    obtain ⟨v'', -, threads', second, nothing⟩ := demands_of_moved back rfl
    refine ⟨waits + (steps + 1 + 1), joined', v'.demands t steps, ?_, ?_, quiet⟩
    · rw [both, first, advanceFor_add, second 0, advanceFor, threads', getElem?_set_here back]
      simp only [stopped, false_or, shared]
      rfl
    · have tallied := nothing 0
      rw [Thread.demand?_of_frames rfl rfl] at tallied
      rw [demands, demand, demands_append, tallied]
      simp only [World.demands, Option.toList_none, List.append_nil]
      rfl

theorem getElem?_advanceFor {u : Nat} (apart : t ≠ u) (steps : Nat) :
    (w.advanceFor t steps).threads[u]? = w.threads[u]? := by
  induction steps generalizing w with
  | zero => rfl
  | succ steps ih =>
    cases stepped : w.step t with
    | none => simp only [advanceFor, stepped]
    | some v =>
      obtain ⟨mover, mover', s', -, -, rfl⟩ := steps_of_step stepped
      simp only [advanceFor, stepped]
      rw [ih, List.getElem?_set_ne apart]

end World

def Frame.halfway : Frame → Bool
  | remember _ | cancel | close => true
  | _ => false

namespace Scene

variable {offered : Interface} {first sc : Scene} {demands : List Demand} {w : World}
  {hands : List Message}

theorem Traced.call (traced : Traced offered first demands ⟨w, hands⟩) (t : Nat)
    (service : Service) (some : service.frames ≠ []) (offers : offered.services service)
    (calls : offered.callers t) (idle : ∃ thread ∈ w.threads[t]?, thread.idles)
    {new : List Demand} (told : (w.assign t service.frames).demands t
      (2 * (w.assign t service.frames).work t) = new) :
    Traced offered first (demands ++ new) ⟨w.call t service.frames, hands⟩ := by
  rw [← told]
  obtain ⟨thread, there, none, -⟩ := id idle
  exact (traced.aside (.call t service offers calls idle)
    (still_of_assign there none some)).advance t _

def Settled (sc : Scene) : Prop :=
  ∀ thread ∈ sc.world.threads, ∀ f ∈ thread.frames, f.halfway = false

instance (sc : Scene) : Decidable sc.Settled :=
  inferInstanceAs (Decidable (∀ thread ∈ sc.world.threads, ∀ f ∈ thread.frames, _))

theorem Settled.not_poised (settled : sc.Settled) {f : Frame} (halfway : f.halfway = true) :
    ¬ ∃ thread ∈ sc.world.threads, thread.Poised f := by
  rintro ⟨thread, member, -, head⟩
  have quiet := settled thread member f (List.mem_of_mem_head? head)
  cases quiet.symm.trans halfway

theorem Settled.not_cancelling (settled : sc.Settled) :
    ¬ ∃ thread ∈ sc.world.threads, thread.Cancelling := by
  rintro ⟨thread, member, -, rest, frames | ⟨reason, frames⟩⟩
  · cases settled thread member .cancel (by simp [frames])
  · cases settled thread member .cancel (by simp [frames])

theorem Settled.back (settled : Settled ⟨w, hands⟩) {t steps : Nat} {name : String}
    {frames below : List Frame} {left answer : Answer}
    (here : w.threads[t]? = some ⟨name, frames, left, none⟩) (call : below <:+ frames)
    (back : (w.advanceFor t steps).threads[t]? = some ⟨name, below, answer, none⟩) :
    Settled ⟨w.advanceFor t steps, hands⟩ := by
  intro thread member f inside
  obtain ⟨u, there⟩ := List.getElem?_of_mem member
  rcases eq_or_ne t u with rfl | apart
  · obtain rfl := Option.some.inj (back.symm.trans there)
    exact settled _ (List.mem_of_getElem? here) f (call.mem inside)
  · rw [World.getElem?_advanceFor apart] at there
    exact settled thread (List.mem_of_getElem? there) f inside

/-- The demands of a run decide what the coordinator and its queue are at, and what further calls
are told. A call of its own runs to its end while no other thread takes a step. -/
structure Decided (offered : Interface) (first : Scene) (demands : List Demand) (sc : Scene) :
    Prop where
  stopped : sc.world.shared.state = .stopped ↔ .finish ∈ demands
  shuttingDown : sc.world.shared.state = .shuttingDown ↔
    (∃ reason, .request reason ∈ demands) ∧ .finish ∉ demands
  onward : ∀ later, Reaches offered sc later →
    sc.world.shared.state.rank ≤ later.world.shared.state.rank
  reason : sc.Settled → sc.world.shared.reason = Demand.asked? demands
  reason_stays : sc.Settled → demands ≠ [] → ∀ later, Reaches offered sc later →
    later.world.shared.reason = Demand.asked? demands
  cancelled : sc.Settled → (∃ reason, .request reason ∈ demands) →
    sc.world.shared.cancelled = true ∧ ∀ t name below left,
      sc.world.threads[t]? = some ⟨name, .dequeue :: below, left, none⟩ →
      ∃ v, sc.world.step t = some v ∧ v.shared = sc.world.shared ∧
        v.threads[t]? = some ⟨name, below, .received none, none⟩
  closing : sc.Settled → .finish ∈ demands → sc.world.shared.closing = true
  request : sc.Settled → ∀ t name reason below left,
    sc.world.threads[t]? = some ⟨name, .request reason :: below, left, none⟩ →
    ∃ steps, (sc.world.advanceFor t steps).threads[t]? =
        some ⟨name, below, .flag (demands = []), none⟩ ∧
      Traced offered first (demands ++ [.request reason]) ⟨sc.world.advanceFor t steps, sc.hands⟩ ∧
      Settled ⟨sc.world.advanceFor t steps, sc.hands⟩
  finish : sc.Settled → ∀ t name pending joined below left,
    sc.world.threads[t]? = some ⟨name, .join pending joined :: .stop :: below, left, none⟩ →
    (∀ u ∈ pending, sc.world.exits u ≠ none) →
    (∀ m ∈ sc.world.shared.channel.toList, m.plan.calm) →
    ∃ steps joined' asked, (sc.world.advanceFor t steps).threads[t]? = some ⟨name, below,
        .outcome joined' (if .finish ∈ demands ∨ sc.world.shared.closing then 0
          else sc.world.shared.queued.length), none⟩ ∧
      .finish ∉ asked ∧
      Traced offered first (demands ++ .finish :: asked)
        ⟨sc.world.advanceFor t steps, sc.hands⟩ ∧
      Settled ⟨sc.world.advanceFor t steps, sc.hands⟩

/-- Whatever calls are made, by whichever threads and in whichever order: the first demand gives the
reason, the first end counts the messages that were left, and neither is taken back. -/
theorem coordinator_decided_by_demands {rig : Rig} {devices : DeviceSet} {robin : RoundRobin}
    {demands : List Demand} {sc : Scene}
    (traced : Traced .queue (.opening rig devices robin) demands sc) :
    Decided .queue (.opening rig devices robin) demands sc := by
  have opened := coordinated_opening rig devices robin
  have known := traced.coordinated opened
  rw [List.nil_append] at known
  have stopped : sc.world.shared.state = .stopped ↔ .finish ∈ demands := by
    rw [known.state, Demand.stage_eq_stopped_iff]
  -- Between a request and its record the reason is with the thread that is poised to record it.
  have recorded (settled : sc.Settled) : sc.world.shared.reason = Demand.asked? demands := by
    refine known.reason.resolve_right ?_
    rintro ⟨-, reason, -, poised⟩
    exact settled.not_poised rfl poised
  refine ⟨stopped, ?_, fun later run => ?_, recorded, fun settled some later run => ?_,
    fun settled asked => ?_, fun settled finished => ?_,
    fun settled t name reason below left here => ?_,
    fun settled t name pending joined below left here gone calm => ?_⟩
  · rw [known.state, Demand.stage_eq_shuttingDown_iff]
  · obtain ⟨more, traced⟩ := traced.extend run
    have known' := traced.coordinated opened
    rw [List.nil_append] at known'
    rw [known.state, known'.state]
    exact Demand.rank_stage_le demands more
  · obtain ⟨more, traced⟩ := traced.extend run
    have known' := (traced.coordinated opened).reason
    rw [List.nil_append, Demand.asked?_append some] at known'
    refine known'.resolve_right ?_
    rintro ⟨none, reason, first, -⟩
    cases none.symm.trans (run.reason ((recorded settled).trans first))
  · obtain ⟨reason, asked⟩ := asked
    have cancelled := (known.cancelled reason asked).resolve_right settled.not_cancelling
    exact ⟨cancelled, fun t name below left here =>
      ⟨_, World.step_of_moved here (if_pos cancelled), rfl, getElem?_set_here here⟩⟩
  · exact (known.closing finished).resolve_right (settled.not_poised rfl)
  · obtain ⟨steps, back, asked⟩ := World.request_alone here
    refine ⟨steps, ?_, ?_, settled.back here (List.suffix_cons _ _) back⟩
    · rw [back, known.state]
      simp only [Demand.stage_eq_running_iff]
    · rw [← asked]
      exact traced.advance t steps
  · obtain ⟨steps, joined', asked, back, asks, once⟩ := World.finish_alone here gone calm
    refine ⟨steps, joined', asked, ?_, once, ?_, settled.back here ⟨[_, _], rfl⟩ back⟩
    · simpa only [stopped] using back
    · rw [← asks]
      exact traced.advance t steps

/-- The shutdown is requested, the server is ended without any threads, and requested to end once
more. -/
def requestedTwice (first : World) : World :=
  ((first.call mainNumber [.request .terminate]).call mainNumber [.join [] 0, .stop]).call
    mainNumber [.request .reconfigure]

/-- The first reason stays, and the second request is told that it was not the first. -/
theorem coordinator_decided_of_requestedTwice :
    let first := opening (.ofHost (.ofSizes [] false) .always .none) ⟨0, [], []⟩ ⟨0, 1⟩
    let last : Scene := ⟨requestedTwice first.world, []⟩
    Decided .queue first [.request .terminate, .finish, .request .reconfigure] last ∧
      last.world.shared.state = .stopped ∧ last.world.shared.reason = some .terminate ∧
      last.world.shared.cancelled = true ∧ last.world.shared.closing = true := by
  intro first last
  have settled : last.Settled := by decide +kernel
  have traced : Traced .queue first [.request .terminate, .finish, .request .reconfigure] last := by
    have begun : Traced .queue first [] ⟨first.world, []⟩ := .begins
    have asked := begun.call mainNumber (.request .terminate) (List.cons_ne_nil _ _) trivial
      trivial (by decide +kernel)
      (show _ = [Demand.request .terminate] by decide +kernel)
    have ended := asked.call mainNumber (.finish []) (List.cons_ne_nil _ _) trivial trivial
      (by decide +kernel) (show _ = [Demand.finish] by decide +kernel)
    exact ended.call mainNumber (.request .reconfigure) (List.cons_ne_nil _ _) trivial
      trivial (by decide +kernel) (show _ = [Demand.request .reconfigure] by decide +kernel)
  have decided := coordinator_decided_by_demands traced
  exact ⟨decided, decided.stopped.2 (by decide), decided.reason settled,
    (decided.cancelled settled ⟨.terminate, by decide⟩).1, decided.closing settled (by decide)⟩

end Scene

end DispatchServer
