import DispatchServer.Proofs.Toil

/-! A queue that is served until nothing is left. Messages may enqueue further messages as they are
processed, so the queue can grow while it is served; still it gets empty, and which messages were
processed then is known beforehand. -/
namespace DispatchServer

namespace World

def workers (w : World) : Nat := w.threads.countP fun thread => !thread.finished

def queue (w : World) : List Message := w.shared.channel.toList

/-- Messages are in the queue, which is open, and some threads are about to serve it; the others do
nothing. -/
structure Ready (w : World) : Prop where
  attended : w.shared.Attended
  threads : ∀ thread ∈ w.threads, thread.idles ∨
    ∃ name worker, thread = .calling name [.serve worker]
  workers : 0 < w.workers
  steady : ∀ m ∈ w.queue, m.plan.steady
  built : ∀ m ∈ w.queue, m.ticket < w.shared.ledger.next
  once : (w.queue.map Message.ticket).Nodup

def beginning (w : World) (t : Nat) : List Message :=
  match w.threads[t]? with
  | none => []
  | some thread => thread.beginning

/-- Some steps lead from one world to the other, and these are the messages that begin with them, in
their order. -/
inductive Processes : List Message → World → World → Prop
  | none (w : World) : Processes [] w w
  | step {begun : List Message} {w v u : World} (before : Processes begun w v) (t : Nat)
      (h : v.step t = some u) : Processes (begun ++ v.beginning t) w u

def cost (w : World) : Nat :=
  (w.threads.map (Thread.cost w.threads.length w.shared.channel.isEmpty)).sum +
    Message.costs w.threads.length w.queue

/-- The messages that were built and not begun. -/
def present (w : World) : Multiset Message :=
  w.queue + (w.threads.map fun thread => (thread.due + thread.built : Multiset Message)).sum

def outstanding (w : World) : Multiset Blueprint :=
  (w.queue.map Message.plan : List Blueprint) + (w.threads.map fun thread =>
    ((thread.due.map Message.plan : List Blueprint) + thread.coming : Multiset Blueprint)).sum

/-- What holds of the world when so many messages have begun since the start. -/
structure Toiling (start : World) (begun : List Message) (w : World) : Prop where
  attended : w.shared.Attended
  steady : ∀ m ∈ w.queue, m.plan.steady
  toils : ∀ thread ∈ w.threads, thread.Toils
  busy : ∃ thread ∈ w.threads, thread.frames ≠ []
  once : (((begun : Multiset Message) + w.present).map Message.ticket).Nodup
  built : ∀ m ∈ (begun : Multiset Message) + w.present, m.ticket < w.shared.ledger.next
  initial : ∀ m ∈ start.queue, m ∈ (begun : Multiset Message) + w.present
  families : (begun.map Message.plan : List Blueprint) + w.outstanding.bind Blueprint.family =
    start.outstanding.bind Blueprint.family
  told : w.shared.told Event.begun? = start.shared.told Event.begun? ++ begun.map Message.ticket
  returned : w.shared.told Event.returned? = start.shared.told Event.returned?

section

variable {start w v : World} {begun : List Message} {t : Nat} {thread thread' : Thread}
  {s' : Shared} {deed : Deed}

/-- A step takes away what it begins, and adds what it builds. -/
theorem present_of_done (here : w.threads[t]? = some thread)
    (done : deed.Done w.shared s' thread thread') :
    (⟨s', w.threads.set t thread'⟩ : World).present + deed.begins = w.present + deed.builds := by
  classical
  have all := sum_map_set (fun thread => (thread.due + thread.built : Multiset Message)) thread'
    here
  have channel := congrArg (Multiset.ofList) done.alters.channel
  have due := congrArg (Multiset.ofList) done.turns.due
  have built := congrArg (Multiset.ofList) done.turns.built
  ext m
  simp only [← Multiset.coe_add, Multiset.ext, Multiset.count_add] at all channel due built
  simp only [present, queue, Multiset.count_add]
  have all := all m
  have channel := channel m
  have due := due m
  have built := built m
  omega

/-- A step takes away what it begins, and adds what comes of it next. -/
theorem outstanding_of_done (here : w.threads[t]? = some thread)
    (done : deed.Done w.shared s' thread thread') :
    (⟨s', w.threads.set t thread'⟩ : World).outstanding + (deed.begins.map Message.plan : List _) =
      w.outstanding + (deed.begins.flatMap (·.plan.children) : List _) := by
  classical
  have all := sum_map_set (fun thread => ((thread.due.map Message.plan : List Blueprint) +
    thread.coming : Multiset Blueprint)) thread' here
  have channel := congrArg (fun messages => (messages.map Message.plan : Multiset Blueprint))
    done.alters.channel
  have due := congrArg (fun messages => (messages.map Message.plan : Multiset Blueprint))
    done.turns.due
  have coming := congrArg (Multiset.ofList) done.turns.coming
  ext plan
  simp only [List.map_append, ← Multiset.coe_add, Multiset.ext, Multiset.count_add]
    at all channel due coming
  simp only [outstanding, queue, Multiset.count_add]
  have all := all plan
  have channel := channel plan
  have due := due plan
  have coming := coming plan
  omega

theorem Toiling.done_of_step (toiling : start.Toiling begun w) (h : w.step t = some v) :
    ∃ thread thread' s', ∃ deed : Deed, w.threads[t]? = some thread ∧
      v = ⟨s', w.threads.set t thread'⟩ ∧ deed.Done w.shared s' thread thread' ∧
      w.beginning t = deed.begins := by
  obtain ⟨thread, thread', s', here, steps, rfl⟩ := steps_of_step h
  obtain ⟨deed, done⟩ := (toiling.toils thread (List.mem_of_getElem? here)).step steps
    toiling.attended toiling.steady
  refine ⟨thread, thread', s', deed, here, rfl, done, ?_⟩
  simp only [beginning, here, done.turns.begins]

theorem families_of_done (here : w.threads[t]? = some thread)
    (done : deed.Done w.shared s' thread thread') :
    (deed.begins.map Message.plan : List Blueprint) +
        (⟨s', w.threads.set t thread'⟩ : World).outstanding.bind Blueprint.family =
      w.outstanding.bind Blueprint.family := by
  have balance := congrArg (Multiset.bind · Blueprint.family) (outstanding_of_done here done)
  simp only [Multiset.add_bind] at balance
  have begins : (deed.begins.map Message.plan : Multiset Blueprint).bind Blueprint.family =
      (deed.begins.map Message.plan : List Blueprint) +
        (deed.begins.flatMap (·.plan.children) : Multiset Blueprint).bind Blueprint.family := by
    cases deed with
    | begun m => simpa using m.plan.family_eq
    | _ => rfl
  rw [begins, ← add_assoc] at balance
  rw [← add_right_cancel balance, add_comm]

theorem Toiling.step (toiling : start.Toiling begun w) (h : w.step t = some v) :
    start.Toiling (begun ++ w.beginning t) v := by
  obtain ⟨thread, thread', s', deed, here, rfl, done, begins⟩ := toiling.done_of_step h
  rw [begins]
  have present := present_of_done here done
  have all : ((begun ++ deed.begins : List Message) : Multiset Message) +
      (⟨s', w.threads.set t thread'⟩ : World).present =
        begun + w.present + deed.builds := by
    rw [← Multiset.coe_add, add_assoc, add_comm (deed.begins : Multiset Message), present,
      add_assoc]
  have next := done.alters.next
  have fresh := done.alters.fresh
  refine
    { attended := done.alters.attended
      steady := fun m member => ?_
      toils := forall_mem_set toiling.toils done.toils
      busy := ⟨thread', mem_set_here here, done.turns.busy⟩
      once := ?_
      built := ?_
      initial := ?_
      families := ?_
      told := ?_
      returned := done.alters.returned.trans toiling.returned }
  · have parts : m ∈ deed.receives ++ s'.channel.toList := List.mem_append_right _ member
    rw [done.alters.channel] at parts
    rcases List.mem_append.1 parts with old | new
    · exact toiling.steady m old
    · exact done.steady m new
  · rw [all, Multiset.map_add]
    refine Multiset.nodup_add.2 ⟨toiling.once, by cases deed <;> simp, ?_⟩
    rw [Multiset.disjoint_left]
    intro k old new
    obtain ⟨m, member, rfl⟩ := Multiset.mem_map.1 old
    obtain ⟨m', member', same⟩ := Multiset.mem_map.1 new
    have less := toiling.built m member
    rw [← same, fresh m' member'] at less
    exact absurd less (Nat.lt_irrefl _)
  · rw [all]
    intro m member
    show m.ticket < s'.ledger.next
    rw [next]
    rcases Multiset.mem_add.1 member with old | new
    · exact Nat.lt_add_right _ (toiling.built m old)
    · rw [fresh m new]
      exact Nat.lt_add_of_pos_right (List.length_pos_of_mem new)
  · intro m member
    rw [all]
    exact Multiset.mem_add.2 (.inl (toiling.initial m member))
  · rw [List.map_append, ← Multiset.coe_add, add_assoc, families_of_done here done]
    exact toiling.families
  · rw [done.alters.begun, toiling.told, List.map_append, List.append_assoc]

theorem Toiling.cost_lt (toiling : start.Toiling begun w) (h : w.step t = some v) :
    v.cost < w.cost := by
  obtain ⟨thread, thread', s', deed, here, rfl, done, -⟩ := toiling.done_of_step h
  have others := sum_map_set_le thread' here fun other member =>
    done.others (toiling.toils other member) w.threads.length
  have own := done.cost w.threads.length
  rw [Nat.mul_right_comm] at own
  simp only [cost, queue, List.length_set]
  omega

theorem Processes.toiling (processes : Processes begun w v) (begins : w.Toiling [] w) :
    w.Toiling begun v := by
  induction processes with
  | none => exact begins
  | step _ t h ih => exact (ih begins).step h

theorem rests_of_toils (here : w.threads[t]? = some thread) (toils : thread.Toils)
    (stuck : w.step t = none) :
    thread.idles ∨ w.queue = [] ∧ ∃ name worker,
      thread = ⟨name, [.park, .handle worker], .done, none⟩ := by
  cases toils with
  | away idles => exact .inl idles
  | awaits awaits =>
    have blocks := blocks_of_stuck here stuck
    cases blocks with
    | parks empty => exact .inr ⟨(Channel.isEmpty_iff _).1 empty, _, _, rfl⟩
    | _ => cases awaits
  | ends base => cases base <;> cases blocks_of_stuck here stuck
  | panics => simp [World.step, here, Thread.step] at stuck
  | unwinds base => cases base <;> simp [World.step, here, Thread.step] at stuck
  | _ => cases blocks_of_stuck here stuck

theorem Toiling.served (toiling : start.Toiling begun w) (stuck : ∀ t, w.step t = none) :
    w.queue = [] ∧ ∀ thread ∈ w.threads, thread.owned = [] ∧ thread.Bare := by
  have rests (thread : Thread) (member : thread ∈ w.threads) :
      thread.idles ∨ w.queue = [] ∧ ∃ name worker,
        thread = ⟨name, [.park, .handle worker], .done, none⟩ := by
    obtain ⟨t, here⟩ := List.mem_iff_getElem?.1 member
    exact rests_of_toils here (toiling.toils thread member) (stuck t)
  constructor
  · obtain ⟨thread, member, busy⟩ := toiling.busy
    rcases rests thread member with idles | ⟨empty, -⟩
    · exact absurd idles.1 busy
    · exact empty
  · intro thread member
    rcases rests thread member with idles | ⟨-, name, worker, rfl⟩
    · exact ⟨by simp [Thread.owned, idles.1, idles.2], .of_idles idles⟩
    · exact ⟨rfl, rfl, rfl, rfl⟩

end

section

variable {w : World}

theorem present_of_bare (bare : ∀ thread ∈ w.threads, thread.Bare) : w.present = w.queue := by
  rw [present, sum_map_eq_zero, add_zero]
  intro thread member
  rw [(bare thread member).due, (bare thread member).built]
  rfl

theorem outstanding_of_bare (bare : ∀ thread ∈ w.threads, thread.Bare) :
    w.outstanding = (w.queue.map Message.plan : List Blueprint) := by
  rw [outstanding, sum_map_eq_zero, add_zero]
  intro thread member
  rw [(bare thread member).due, (bare thread member).coming]
  rfl

theorem Ready.bare (ready : w.Ready) (thread : Thread) (member : thread ∈ w.threads) :
    thread.Bare := by
  rcases ready.threads thread member with idles | ⟨name, worker, rfl⟩
  · exact .of_idles idles
  · exact ⟨rfl, rfl, rfl⟩

theorem Ready.toiling (ready : w.Ready) : w.Toiling [] w where
  attended := ready.attended
  steady := ready.steady
  toils thread member := by
    rcases ready.threads thread member with idles | ⟨name, worker, rfl⟩
    · exact .away idles
    · exact .serves
  busy := by
    obtain ⟨thread, member, busy⟩ := List.countP_pos_iff.1 ready.workers
    refine ⟨thread, member, ?_⟩
    simpa [Thread.finished] using busy
  once := by
    rw [present_of_bare ready.bare]
    exact ready.once
  built := by
    rw [present_of_bare ready.bare]
    simpa using ready.built
  initial := by
    rw [present_of_bare ready.bare]
    simp
  families := by simp
  told := by simp
  returned := rfl

end

/-- One thread is in a call, and the messages that have begun are the first in an order of which the
rest is still to come. -/
structure Ordered (u : Nat) (order : List Blueprint) (begun : List Message) (w : World) : Prop where
  alone : ∀ t other, w.threads[t]? = some other → t ≠ u → other.frames = []
  upcoming : ∃ thread later, w.threads[u]? = some thread ∧
    order = begun.map Message.plan ++ later ∧
    Blueprint.Upcoming ((thread.due ++ w.queue).map Message.plan) thread.coming later

section

variable {start w v : World} {begun : List Message} {t u : Nat} {order : List Blueprint}

theorem Ordered.step (ordered : Ordered u order begun w) (toiling : start.Toiling begun w)
    (h : w.step t = some v) : Ordered u order (begun ++ w.beginning t) v := by
  obtain ⟨mover, _, _, there, steps, _⟩ := steps_of_step h
  obtain ⟨thread, thread', s', deed, here, rfl, done, begins⟩ := toiling.done_of_step h
  obtain ⟨alone, last, later, own, rfl, upcoming⟩ := ordered
  obtain rfl : t = u := by
    by_contra apart
    exact steps.busy (alone t mover there apart)
  obtain rfl := Option.some.inj (here.symm.trans own)
  refine ⟨fun other idle there apart => alone other idle ?_ apart, thread', ?_⟩
  · rwa [List.getElem?_set_ne (Ne.symm apart)] at there
  have due := done.turns.due
  have coming := done.turns.coming
  have channel : deed.receives ++ queue ⟨s', w.threads.set t thread'⟩ = w.queue ++ deed.sends :=
    done.alters.channel
  rw [begins]
  -- Only a message that is begun or sent changes what is upcoming.
  cases deed with
  | begun m =>
    have quiet := done.turns.alone (by simp)
    simp only [Deed.begins, Deed.sends, Deed.receives, List.singleton_append, List.append_nil,
      List.nil_append, List.map_nil, List.flatMap_singleton, quiet] at due coming channel
    rw [quiet, ← due, ← channel, List.cons_append, List.map_cons] at upcoming
    obtain ⟨later, rfl, upcoming⟩ := upcoming.head
    refine ⟨later, getElem?_set_here here, by simp, ?_⟩
    rwa [coming]
  | sent m =>
    simp only [Deed.begins, Deed.sends, Deed.receives, List.singleton_append, List.append_nil,
      List.nil_append, List.map_cons, List.map_nil, List.flatMap_nil] at due coming channel
    rw [← coming] at upcoming
    refine ⟨later, getElem?_set_here here, by simp, ?_⟩
    rw [due, channel, ← List.append_assoc, List.map_append]
    exact upcoming.sent
  | _ =>
    simp only [Deed.begins, Deed.sends, Deed.receives, List.append_nil, List.nil_append,
      List.map_nil, List.flatMap_nil] at due coming channel
    refine ⟨later, getElem?_set_here here, by simp, ?_⟩
    rw [coming, due]
    simpa [channel] using upcoming

/-- The thread is the only one in a call. -/
theorem exists_alone (one : w.workers = 1) : ∃ u thread, w.threads[u]? = some thread ∧
    ∀ (t : Nat) (other : Thread), w.threads[t]? = some other → t ≠ u → other.frames = [] := by
  unfold workers at one
  generalize w.threads = threads at one
  induction threads with
  | nil => cases one
  | cons first threads ih =>
    rw [List.countP_cons] at one
    by_cases busy : first.finished
    · obtain ⟨u, thread, here, alone⟩ := ih (by simpa [busy] using one)
      refine ⟨u + 1, thread, here, fun t other there apart => ?_⟩
      cases t with
      | zero =>
        obtain rfl := Option.some.inj there
        simpa [Thread.finished] using busy
      | succ t => exact alone t other there (by omega)
    · refine ⟨0, first, rfl, fun t other there apart => ?_⟩
      cases t with
      | zero => exact absurd rfl apart
      | succ t =>
        have none : threads.countP (fun thread => !thread.finished) = 0 := by simpa [busy] using one
        have done := List.countP_eq_zero.1 none other (List.mem_of_getElem? there)
        simpa [Thread.finished] using done

theorem Ready.ordered (ready : w.Ready) (one : w.workers = 1) : ∃ u,
    Ordered u (Blueprint.forest (w.queue.map Message.plan)) [] w := by
  obtain ⟨u, thread, here, alone⟩ := exists_alone one
  have bare := ready.bare thread (List.mem_of_getElem? here)
  refine ⟨u, alone, thread, _, here, rfl, ?_⟩
  rw [bare.due, bare.coming]
  exact .of_forest _

theorem Processes.ordered (processes : Processes begun w v) (begins : w.Toiling [] w)
    (ordered : Ordered u order [] w) : Ordered u order begun v := by
  induction processes with
  | none => exact ordered
  | step before t h ih => exact (ih begins ordered).step (before.toiling begins) h

theorem Ordered.served (ordered : Ordered u order begun w) (toiling : start.Toiling begun w)
    (stuck : ∀ t, w.step t = none) : begun.map Message.plan = order := by
  obtain ⟨alone, thread, later, here, rfl, upcoming⟩ := ordered
  obtain ⟨empty, served⟩ := toiling.served stuck
  obtain ⟨-, bare⟩ := served thread (List.mem_of_getElem? here)
  rw [empty, bare.due, bare.coming] at upcoming
  rw [upcoming.eq_nil, List.append_nil]

end

/-- All messages that come of a queue were processed: each once, none was failed, and a single
worker has kept to the order of the forest. -/
structure Worked (w : World) (begun : List Message) (v : World) : Prop where
  queue : v.queue = []
  owned : ∀ thread ∈ v.threads, thread.owned = []
  forest : (begun.map Message.plan).Perm (Blueprint.forest (w.queue.map Message.plan))
  order : w.workers = 1 → begun.map Message.plan = Blueprint.forest (w.queue.map Message.plan)
  once : (begun.map Message.ticket).Nodup
  initial : ∀ m ∈ w.queue, m ∈ begun
  told : v.shared.told Event.begun? = w.shared.told Event.begun? ++ begun.map Message.ticket
  returned : v.shared.told Event.returned? = w.shared.told Event.returned?

section

variable {w v : World} {begun : List Message}

theorem Ready.worked (ready : w.Ready) (processes : Processes begun w v)
    (stuck : ∀ t, v.step t = none) : w.Worked begun v := by
  have toiling := processes.toiling ready.toiling
  obtain ⟨empty, served⟩ := toiling.served stuck
  have bare (thread : Thread) (member : thread ∈ v.threads) : thread.Bare :=
    (served thread member).2
  have present : v.present = 0 := by rw [present_of_bare bare, empty]; rfl
  have outstanding : v.outstanding = 0 := by rw [outstanding_of_bare bare, empty]; rfl
  have once := toiling.once
  have initial := toiling.initial
  have families := toiling.families
  rw [present, add_zero] at once initial
  rw [outstanding, outstanding_of_bare ready.bare, Multiset.zero_bind, add_zero,
    ← Blueprint.coe_forest] at families
  refine
    { queue := empty
      owned := fun thread member => (served thread member).1
      forest := Multiset.coe_eq_coe.1 families
      order := fun one => ?_
      once := once
      initial := initial
      told := toiling.told
      returned := toiling.returned }
  obtain ⟨u, ordered⟩ := ready.ordered one
  exact (processes.ordered ready.toiling ordered).served toiling stuck

theorem Ready.bounded (ready : w.Ready) {n : Nat} (takes : Takes n w v) : n ≤ w.cost := by
  have lowers (w' v : World) (t : Nat) (toiling : ∃ begun, w.Toiling begun w')
      (h : w'.step t = some v) : (∃ begun, w.Toiling begun v) ∧ v.cost < w'.cost := by
    obtain ⟨begun, toiling⟩ := toiling
    exact ⟨⟨_, toiling.step h⟩, toiling.cost_lt h⟩
  obtain ⟨-, bound⟩ := takes.bounded ⟨[], ready.toiling⟩ lowers
  omega

/-- There is an end, as whatever is done leaves less to do. -/
theorem Ready.exists_stuck (ready : w.Ready) :
    ∃ begun v, Processes begun w v ∧ ∀ t, v.step t = none := by
  have ends (rest : Nat) : ∀ {begun : List Message} {v : World}, Processes begun w v →
      v.cost ≤ rest → ∃ begun v, Processes begun w v ∧ ∀ t, v.step t = none := by
    induction rest with
    | zero =>
      intro begun v processes bound
      refine ⟨begun, v, processes, fun t => Option.eq_none_iff_forall_ne_some.2 fun u h => ?_⟩
      have less := (processes.toiling ready.toiling).cost_lt h
      omega
    | succ rest ih =>
      intro begun v processes bound
      by_cases stuck : ∀ t, v.step t = none
      · exact ⟨begun, v, processes, stuck⟩
      · obtain ⟨t, moves⟩ := not_forall.1 stuck
        obtain ⟨u, h⟩ := Option.ne_none_iff_exists'.1 moves
        have less := (processes.toiling ready.toiling).cost_lt h
        exact ih (processes.step t h) (by omega)
  exact ends w.cost (.none w) (Nat.le_refl _)

def withQueue (w : World) (channel : Channel) : World :=
  { w with shared := { w.shared with channel := channel } }

theorem Ready.eased (ready : w.Ready) {channel : Channel}
    (eases : List.Forall₂ Message.Eases w.queue channel.toList) :
    (w.withQueue channel).Ready := by
  have tickets := Message.eases_tickets eases
  refine ⟨⟨ready.attended.closing, ready.attended.sealed, ready.attended.cancelled,
    ready.attended.woken⟩, ready.threads, ready.workers,
    Message.steady_of_eases eases ready.steady, ?_, ?_⟩
  · intro m member
    have ticket : m.ticket ∈ w.queue.map Message.ticket := by
      rw [tickets]
      exact List.mem_map_of_mem member
    obtain ⟨old, here, same⟩ := List.mem_map.1 ticket
    rw [← same]
    exact ready.built old here
  · exact tickets ▸ ready.once

/-- The queue is served to its end whatever the schedule, and all that comes of it is processed. -/
structure Finishes (w : World) : Prop where
  bounded : ∃ bound, ∀ n v, Takes n w v → n ≤ bound
  ends : ∃ begun v, Processes begun w v ∧ ∀ t, v.step t = none
  worked : ∀ begun v, Processes begun w v → (∀ t, v.step t = none) → w.Worked begun v

theorem Ready.finishes (ready : w.Ready) : w.Finishes :=
  ⟨⟨w.cost, fun _ _ => ready.bounded⟩, ready.exists_stuck, fun _ _ => ready.worked⟩

/-- Messages that only enqueue others are all processed, each once, whatever the schedule and
however many workers there are, and a single worker processes them breadth first. A panic in one of
them makes no difference that an early return in its place would not make. -/
theorem forest_processed (w : World) (ready : w.Ready) :
    w.Finishes ∧ ∀ channel, List.Forall₂ Message.Eases w.queue channel.toList →
      (w.withQueue channel).Finishes ∧ ∀ begun v begun' v',
        Processes begun w v → (∀ t, v.step t = none) →
        Processes begun' (w.withQueue channel) v' → (∀ t, v'.step t = none) →
        (∃ matched, List.Forall₂ Blueprint.Eases (begun.map Message.plan) matched ∧
          matched.Perm (begun'.map Message.plan)) ∧
        (w.workers = 1 → List.Forall₂ Blueprint.Eases (begun.map Message.plan)
          (begun'.map Message.plan)) := by
  refine ⟨ready.finishes, fun channel eases => ?_⟩
  have eased := ready.eased eases
  refine ⟨eased.finishes, fun begun v begun' v' processes stuck processes' stuck' => ?_⟩
  have worked := ready.worked processes stuck
  have worked' := eased.worked processes' stuck'
  have forests := Blueprint.eases_forest (Message.eases_plans eases)
  constructor
  · obtain ⟨matched, alike, same⟩ := List.perm_comp_forall₂ worked.forest forests
    exact ⟨matched, alike, same.trans worked'.forest.symm⟩
  · intro one
    rw [worked.order one, worked'.order one]
    exact forests

/-- One worker, and a message that enqueues two others and then panics, or returns early. -/
theorem forest_processed_of_panic :
    let leaf (name : String) : Blueprint := .mk .closure name "" 0 (.act (.record name) .done) .done
    let root (ending : Script) : Blueprint :=
      .mk .reply "root" "" 0 (.enqueue (leaf "left") (.enqueue (leaf "right") ending)) .done
    let opening := World.fresh (.ofHost (.ofSizes [] false) .always .none) ⟨0, [], []⟩ ⟨0, 1⟩
    let built := opening.shared.build (root (.panic ""))
    let w : World := ⟨{ built.2 with channel := built.2.channel.push built.1 },
      [.idle mainThread, .calling "worker" [.serve 0]]⟩
    let channel := built.2.channel.push ⟨built.1.ticket, root (.fault ["early"])⟩
    w.Ready ∧ List.Forall₂ Message.Eases w.queue channel.toList ∧
      ∀ u ∈ [w, w.withQueue channel], ∃ begun v, Processes begun u v ∧ (∀ t, v.step t = none) ∧
        begun.map (·.plan.name) = ["root", "left", "right"] ∧
        (begun.map Message.ticket).Nodup := by
  intro leaf root opening built w channel
  have ready : w.Ready := by
    refine ⟨⟨rfl, rfl, rfl, rfl⟩, fun thread member => ?_, by decide, fun m member => ?_,
      fun m member => ?_, by decide⟩
    · rcases List.mem_cons.1 member with rfl | member
      · exact .inl ⟨rfl, rfl⟩
      · exact .inr ⟨_, _, List.mem_singleton.1 member⟩
    · obtain rfl := List.mem_singleton.1 member
      decide
    · obtain rfl := List.mem_singleton.1 member
      decide
  have leaves (name : String) : (leaf name).Eases (leaf name) := .mk (.act _ .done)
  have eases : List.Forall₂ Message.Eases w.queue channel.toList :=
    .cons ⟨rfl, .mk (.enqueue (leaves _) (.enqueue (leaves _) (.fails _ _)))⟩ .nil
  obtain ⟨finishes, eased⟩ := forest_processed w ready
  have served (u : World) (ending : Script) (none : ending.enqueued = []) (one : u.workers = 1)
      (queue : u.queue.map Message.plan = [root ending]) (finishes : u.Finishes) :
      ∃ begun v, Processes begun u v ∧ (∀ t, v.step t = .none) ∧
        begun.map (·.plan.name) = ["root", "left", "right"] ∧
        (begun.map Message.ticket).Nodup := by
    obtain ⟨begun, v, processes, stuck⟩ := finishes.ends
    have worked := finishes.worked begun v processes stuck
    refine ⟨begun, v, processes, stuck, ?_, worked.once⟩
    have names := congrArg (List.map Blueprint.name) (worked.order one)
    rw [queue, List.map_map] at names
    refine names.trans ?_
    simp [root, leaf, Blueprint.forest, Blueprint.children, Blueprint.process, Script.enqueued,
      Blueprint.name, none]
  refine ⟨ready, eases, fun u member => ?_⟩
  rcases List.mem_cons.1 member with rfl | member
  · exact served w (.panic "") rfl (by decide) rfl finishes
  · obtain rfl := List.mem_singleton.1 member
    exact served _ (.fault ["early"]) rfl (by decide) rfl (eased channel eases).1

end

end World

end DispatchServer
