import DispatchServer.Proofs.Nesting

/-! What closing a queue comes to while nobody else uses it. Whatever the fail callbacks do in turn,
each of the messages is failed to the end before the next one is received. -/
namespace DispatchServer

namespace Shared

/-- The tickets of the messages that wait in the queue. -/
def queued (s : Shared) : List Nat := s.channel.toList.map Message.ticket

variable (thread : String)

/-- So many messages are received, and each of them is failed before the next one. -/
def drainAtOnce : Nat → Shared → Shared
  | 0, s => s
  | left + 1, s =>
    match s.channel.pop? with
    | none => s
    | some (m, rest) =>
      drainAtOnce left (m.failAtOnce thread (Shared.record { s with channel := rest }
        (.received m.ticket)))

def shut (s : Shared) : Shared := { s with closing := true, sealed := true }

/-- What closing the queue comes to. -/
def closeAtOnce (s : Shared) : Shared :=
  (s.shut.drainAtOnce thread s.queued.length).log thread (.queueClosed s.queued.length)

variable {s : Shared}

theorem exists_pop {n : Nat} (length : s.queued.length = n + 1) :
    ∃ m rest, s.channel.pop? = some (m, rest) ∧ s.channel.toList = m :: rest.toList ∧
      rest.toList.length = n := by
  rw [queued, List.length_map] at length
  cases popped : s.channel.pop? with
  | none =>
    rw [(Channel.pop?_eq_none_iff _).1 popped] at length
    cases length
  | some pair =>
    have list := Channel.toList_of_pop? popped
    rw [list] at length
    exact ⟨pair.1, pair.2, rfl, list, Nat.succ.inj length⟩

theorem drainAtOnce_succ (thread : String) {n : Nat} {m : Message} {rest : Channel}
    (popped : s.channel.pop? = some (m, rest)) :
    s.drainAtOnce thread (n + 1) = (m.failAtOnce thread (Shared.record { s with channel := rest }
      (.received m.ticket))).drainAtOnce thread n := by
  simp only [drainAtOnce, popped]

theorem step_drain {m : Message} {rest : Channel} (popped : s.channel.pop? = some (m, rest))
    (returned : Nat) (thread : String) (answer : Answer) (exits : Nat → Option Exit) :
    (Frame.drain returned).step thread answer exits s =
      .moved (Shared.record { s with channel := rest } (.received m.ticket))
        [.fail m .queueClosed, .drain (returned + 1)] .done := by
  simp only [Frame.step, popped]

/-- The frames of the drain come to the same. -/
theorem runs_drain {n : Nat} (thread : String) (s : Shared) (returned : Nat) (answer : Answer)
    (length : s.queued.length = n) (closing : s.closing = true)
    (calm : ∀ m ∈ s.channel.toList, m.plan.calm) :
    Frame.Runs thread s [.drain returned] answer
      ((s.drainAtOnce thread n).log thread (.queueClosed (returned + n)))
      (.count (returned + n)) := by
  induction n generalizing s returned answer with
  | zero =>
    have empty : s.channel.pop? = none :=
      (Channel.pop?_eq_none_iff _).2 (List.map_eq_nil_iff.1 (List.length_eq_zero_iff.1 length))
    refine .single fun exits => ?_
    simp only [Frame.step, empty]
    rfl
  | succ n ih =>
    obtain ⟨m, rest, popped, list, length⟩ := exists_pop length
    rw [list] at calm
    let received := Shared.record { s with channel := rest } (.received m.ticket)
    have refuses : (received.record (.returned m.ticket .queueClosed)).Refuses 0
        (m.failAtOnce thread received) := m.plan.refuses thread m.ticket received (Nat.zero_le _)
    have channel : (m.failAtOnce thread received).channel = rest := refuses.channel
    obtain ⟨between, fails⟩ :=
      m.plan.runs thread m.ticket received .done closing (calm m List.mem_cons_self)
    have drains := ih (m.failAtOnce thread received) (returned + 1) between
      (by rw [queued, channel, List.length_map, length]) (refuses.closing.trans closing)
      (by rw [channel]; exact fun m' member => calm m' (List.mem_cons_of_mem m member))
    rw [drainAtOnce_succ thread popped, show returned + (n + 1) = returned + 1 + n by omega]
    exact .step (step_drain popped returned thread answer) (Frame.Runs.cons fails drains)

theorem events_received (s : Shared) (m : Message) (rest : Channel) :
    ((Shared.record { s with channel := rest } (.received m.ticket)).record
      (.returned m.ticket .queueClosed)).rig.history.events =
        s.rig.history.events ++ [.received m.ticket, .returned m.ticket .queueClosed] := by
  show ((s.rig.history.record _).record _).events = _
  rw [History.events_record, History.events_record, List.append_assoc]
  rfl

/-- The messages are received and failed in their order, and whatever they enqueue in turn is failed
as well. -/
theorem tells_drain {base n : Nat} (thread : String) (s : Shared) (length : s.queued.length = n)
    (next : base ≤ s.ledger.next) (before : ∀ k ∈ s.queued, k < base) :
    (s.drainAtOnce thread n).closing = s.closing ∧ (s.drainAtOnce thread n).sealed = s.sealed ∧
      (s.drainAtOnce thread n).queued = [] ∧
      ∃ new, (s.drainAtOnce thread n).rig.history.events = s.rig.history.events ++ new ∧
        Refusals base s.queued new s.ledger.next (s.drainAtOnce thread n).ledger.next := by
  induction n generalizing s with
  | zero =>
    have empty := List.length_eq_zero_iff.1 length
    refine ⟨rfl, rfl, empty, [], (List.append_nil _).symm, ?_⟩
    rw [empty]
    exact .nil base _
  | succ n ih =>
    obtain ⟨m, rest, popped, list, length⟩ := exists_pop length
    have queued_eq : s.queued = m.ticket :: rest.toList.map Message.ticket := by
      rw [queued, list, List.map_cons]
    rw [queued_eq] at before ⊢
    let received := Shared.record { s with channel := rest } (.received m.ticket)
    have refuses : (received.record (.returned m.ticket .queueClosed)).Refuses base
        (m.failAtOnce thread received) := m.plan.refuses thread m.ticket received next
    have left : (m.failAtOnce thread received).queued = rest.toList.map Message.ticket := by
      rw [queued, refuses.channel]
      rfl
    obtain ⟨nested, told, refusals⟩ := refuses.events
    obtain ⟨closing, sealed, empty, new, told', refusals'⟩ := ih (m.failAtOnce thread received)
      (by rw [left, List.length_map, length]) (next.trans refuses.grows)
      (by rw [left]; exact fun k member => before k (List.mem_cons_of_mem _ member))
    rw [drainAtOnce_succ thread popped]
    refine ⟨closing.trans refuses.closing, sealed.trans refuses.sealed, empty,
      [.received m.ticket, .returned m.ticket .queueClosed] ++ nested ++ new, ?_, ?_⟩
    · rw [told', told, s.events_received m rest, List.append_assoc, List.append_assoc,
        List.append_assoc]
    · rw [left] at refusals'
      exact ((Refusals.drains (before _ List.mem_cons_self)).append refusals).append refusals'

theorem runs_closeChannel (thread : String) (s : Shared)
    (calm : ∀ m ∈ s.channel.toList, m.plan.calm) :
    Frame.Runs thread { s with closing := true } [.closeChannel] .done (s.closeAtOnce thread)
      (.count s.queued.length) := by
  have drains := runs_drain thread s.shut 0 .done rfl rfl calm
  rw [Nat.zero_add] at drains
  exact .step (fun _ => rfl) drains

theorem tells_close (thread : String) (s : Shared) (built : ∀ k ∈ s.queued, k < s.ledger.next) :
    (s.closeAtOnce thread).closing = true ∧ (s.closeAtOnce thread).sealed = true ∧
      (s.closeAtOnce thread).queued = [] ∧
      ∃ new, (s.closeAtOnce thread).rig.history.events = s.rig.history.events ++ new ∧
        Refusals s.ledger.next s.queued new s.ledger.next (s.closeAtOnce thread).ledger.next := by
  obtain ⟨closing, sealed, empty, new, told, refusals⟩ :=
    s.shut.tells_drain thread rfl le_rfl built
  refine ⟨closing, sealed, empty, new ++ [.logged thread (.queueClosed s.queued.length)], ?_, ?_⟩
  · rw [← List.append_assoc]
    refine (History.events_record _ _).trans ?_
    exact congrArg (· ++ [_]) told
  · have logged : Refusals s.ledger.next [] [.logged thread (.queueClosed s.queued.length)]
        (s.closeAtOnce thread).ledger.next (s.closeAtOnce thread).ledger.next :=
      .quiet rfl rfl rfl rfl rfl le_rfl
    have both := refusals.append logged
    rwa [List.append_nil] at both

end Shared

def Frame.drains : Frame → Bool
  | closeChannel | drain _ => true
  | _ => false

/-- The queue is being closed by a thread that has come so far, and nothing will panic. -/
structure Draining (s : Shared) (frames : List Frame) : Prop where
  closing : s.closing = true
  calm : ∀ m ∈ s.channel.toList, m.plan.calm
  own : ∀ f ∈ frames, f.refusing ∨ f.drains

section

variable {f : Frame} {thread : String} {answer answer' : Answer} {exits : Nat → Option Exit}
  {s s' : Shared} {frames below : List Frame}

theorem Frame.channel_of_refusing (own : f.refusing) (closing : s.closing = true)
    (h : f.step thread answer exits s = .moved s' frames answer') : s'.channel = s.channel := by
  cases moves_of_step h with
  | closes opened => simp [closing] at opened
  | seals | drained | drains | sends | dequeuesNone | dequeues | receives | pollsNone | polls
  | pollsAgain => cases own
  | _ => rfl

theorem Draining.step (draining : Draining s (f :: below))
    (h : f.step thread answer exits s = .moved s' frames answer') :
    Draining s' (frames ++ below) := by
  obtain ⟨closing, calm, own⟩ := draining
  have turn : Turn True s s' _ _ _ _ := Frame.step_turn h
  have closing' := turn.closing.1 closing
  have rest : ∀ g ∈ below, g.refusing ∨ g.drains := fun g member =>
    own g (List.mem_cons_of_mem f member)
  rcases own f List.mem_cons_self with refusing | drains
  · obtain ⟨_, _, _, moved, all, -⟩ := Frame.step_shrinks refusing closing
    obtain ⟨rfl, rfl, rfl⟩ := Outcome.moved.inj (moved.symm.trans h)
    refine ⟨closing', by rwa [Frame.channel_of_refusing refusing closing h], ?_⟩
    exact List.forall_mem_append.2 ⟨fun g member => .inl (all g member), rest⟩
  · cases Frame.moves_of_step h with
    | seals => exact ⟨closing, calm, List.forall_mem_cons.2 ⟨.inr rfl, rest⟩⟩
    | drained => exact ⟨closing, calm, rest⟩
    | drains popped =>
      rw [Channel.toList_of_pop? popped] at calm
      obtain ⟨first, calm⟩ := List.forall_mem_cons.1 calm
      exact ⟨closing, calm, List.forall_mem_cons.2 ⟨.inl first,
        List.forall_mem_cons.2 ⟨.inr rfl, rest⟩⟩⟩
    | _ => cases drains

end

namespace World

variable {w : World} {t : Nat} {name : String} {below : List Frame} {answer : Answer}

theorem advanceFor_add (w : World) (t j k : Nat) :
    w.advanceFor t (j + k) = (w.advanceFor t j).advanceFor t k := by
  induction j generalizing w with
  | zero => rw [Nat.zero_add]; rfl
  | succ j ih =>
    rw [Nat.succ_add]
    cases stepped : w.step t with
    | none => cases k <;> simp only [advanceFor, stepped]
    | some v => simpa only [advanceFor, stepped] using ih v

/-- With the last of so many steps, all of them its own, the thread comes back to the frames below.
-/
structure Back (w : World) (t : Nat) (name : String) (below : List Frame) (steps : Nat)
    (answer : Answer) : Prop where
  back : (w.advanceFor t steps).threads[t]? = some ⟨name, below, answer, none⟩
  within : ∀ j < steps, ∃ above left, above ≠ [] ∧
    (w.advanceFor t j).threads[t]? = some ⟨name, above ++ below, left, none⟩

end World

theorem World.Back.contains {w : World} {t j k steps : Nat} {name : String}
    {above below : List Frame} {answer answer' : Answer}
    (outer : w.Back t name below steps answer) (less : j < steps)
    (inner : (w.advanceFor t j).Back t name (above ++ below) k answer') : j + k ≤ steps := by
  by_contra more
  obtain ⟨high, left, some, here⟩ := inner.within (steps - j) (by omega)
  rw [← World.advanceFor_add, Nat.add_sub_cancel' less.le, outer.back] at here
  have frames := congrArg (fun thread => thread.frames.length) (Option.some.inj here)
  simp only [List.length_append] at frames
  exact some (List.length_eq_zero_iff.1 (by omega))

/-- Frames that come to their end do so in the machine, if no other thread takes a step. What holds
at first and is kept by their steps holds until then. -/
theorem Frame.Runs.along {name : String} {s s' : Shared} {frames : List Frame}
    {answer answer' : Answer} (runs : Frame.Runs name s frames answer s' answer')
    {kept : Shared → List Frame → Prop}
    (keeps : ∀ {f : Frame} {answer answer' : Answer} {exits : Nat → Option Exit} {s s' : Shared}
      {frames below : List Frame}, kept s (f :: below) →
      f.step name answer exits s = .moved s' frames answer' → kept s' (frames ++ below))
    (begins : kept s frames) {t : Nat} {w : World} {below : List Frame} (state : w.shared = s)
    (here : w.threads[t]? = some ⟨name, frames ++ below, answer, none⟩) :
    ∃ n, (w.advanceFor t n).shared = s' ∧
      (w.advanceFor t n).threads[t]? = some ⟨name, below, answer', none⟩ ∧
      ∀ j < n, ∃ above left, above ≠ [] ∧ kept (w.advanceFor t j).shared above ∧
        (w.advanceFor t j).threads[t]? = some ⟨name, above ++ below, left, none⟩ := by
  induction runs generalizing w with
  | ends => exact ⟨0, state, here, by simp⟩
  | @step s s₁ s' f frames rest answer answer₁ answer' moved _ ih =>
    subst state
    obtain ⟨v, state, here', advance⟩ := World.advanceFor_of_moved here (moved w.exits)
    replace here' : v.threads[t]? = some ⟨name, (frames ++ rest) ++ below, answer₁, none⟩ := by
      rw [here', List.append_assoc]
      rfl
    obtain ⟨n, last, back, within⟩ := ih (keeps begins (moved w.exits)) state here'
    rw [← advance] at last back
    refine ⟨n + 1, last, back, fun j less => ?_⟩
    cases j with
    | zero => exact ⟨f :: rest, answer, List.cons_ne_nil f rest, begins, here⟩
    | succ j =>
      rw [advance]
      exact within j (Nat.lt_of_succ_lt_succ less)

theorem Draining.refuses {w : World} {t : Nat} {name : String} {m : Message}
    {above rest : List Frame} {left : Answer}
    (draining : Draining w.shared (.enqueue m :: above))
    (here : w.threads[t]? = some ⟨name, .enqueue m :: rest, left, none⟩) :
    ∃ k, w.Back t name rest k .refused ∧ (w.advanceFor t k).shared =
      m.failAtOnce name (w.shared.record (.rejected m.ticket)) := by
  have own := (draining.own _ List.mem_cons_self).resolve_right (by simp [Frame.drains])
  obtain ⟨_, fails⟩ := m.plan.runs name m.ticket (w.shared.record (.rejected m.ticket)) .done
    draining.closing own
  have alone : Draining w.shared [.enqueue m] :=
    ⟨draining.closing, draining.calm, List.forall_mem_singleton.2 (.inl own)⟩
  obtain ⟨k, last, back, within⟩ :=
    (Frame.runs_enqueue draining.closing fails).along Draining.step alone rfl here
  refine ⟨k, ⟨back, fun j less => ?_⟩, last⟩
  obtain ⟨above, left, some, -, here⟩ := within j less
  exact ⟨above, left, some, here⟩

theorem World.step_of_close {w : World} {t : Nat} {name : String} {rest : List Frame}
    {left : Answer} (closing : w.shared.closing = true)
    (here : w.threads[t]? = some ⟨name, .close :: rest, left, none⟩) :
    ∃ v, w.step t = some v ∧ v.shared = w.shared ∧
      v.threads[t]? = some ⟨name, rest, .count 0, none⟩ :=
  ⟨_, World.step_of_moved here (if_pos closing), rfl, getElem?_set_here here⟩

theorem Scene.Sound.queued {sc : Scene} (sound : sc.Sound) :
    sc.world.shared.queued.Nodup ∧
      ∀ k ∈ sc.world.shared.queued, k < sc.world.shared.ledger.next := by
  have few (k : Nat) :
      sc.world.shared.queued.count k ≤ sc.world.shared.ledger.issued k := by
    have once := sound.custody.once k
    have same : copies k sc.traffic.channel = sc.world.shared.queued.count k := by
      rw [copies, Multiset.map_coe, Multiset.coe_count]
      rfl
    rw [← same]
    exact le_trans (by omega) once.le
  refine ⟨List.nodup_iff_count_le_one.2 fun k => (few k).trans (Ledger.issued_le _ k),
    fun k member => ?_⟩
  have issued := (List.count_pos_iff.2 member).trans_le (few k)
  unfold Ledger.issued at issued
  split at issued
  · assumption
  · cases issued

theorem Refusals.failures {base next next' : Nat} {tickets all : List Nat} {events : List Event}
    (refusals : Refusals base tickets events next next') (among : tickets ⊆ all)
    (before : ∀ k ∈ all, k < base) :
    (events.filterMap Event.returned?).filter (·.1 ∈ all) = tickets.map (·, .queueClosed) ∧
      (events.filterMap Event.returned?).filter (·.1 ∉ all) =
        (events.filterMap Event.rejected?).map (·, .queueClosed) := by
  have old : ∀ r ∈ events.filterMap Event.returned?, r.1 ∈ all ↔ r.1 < base := by
    refine fun r member => ⟨before r.1, fun less => ?_⟩
    have drained : r ∈ (events.filterMap Event.returned?).filter (·.1 < base) :=
      List.mem_filter.2 ⟨member, decide_eq_true less⟩
    rw [refusals.drained] at drained
    obtain ⟨k, here, rfl⟩ := List.mem_map.1 drained
    exact among here
  rw [← refusals.drained, ← refusals.refused]
  exact ⟨List.filter_congr fun r member => decide_eq_decide.2 (old r member),
    List.filter_congr fun r member => decide_eq_decide.2 (not_congr (old r member))⟩

theorem World.closes {w : World} {t : Nat} {name : String} {below : List Frame} {left : Answer}
    (here : w.threads[t]? = some ⟨name, .close :: below, left, none⟩)
    (opened : w.shared.closing = false) (calm : ∀ m ∈ w.shared.channel.toList, m.plan.calm) :
    ∃ n, (w.advanceFor t n).shared = w.shared.closeAtOnce name ∧
      w.Back t name below n (.count w.shared.queued.length) ∧
      ∀ j < n, 0 < j → ∃ above left, above ≠ [] ∧ Draining (w.advanceFor t j).shared above ∧
        (w.advanceFor t j).threads[t]? = some ⟨name, above ++ below, left, none⟩ := by
  obtain ⟨v, state, here', advance⟩ := World.advanceFor_of_moved here (if_neg (by simp [opened]))
  have draining : Draining { w.shared with closing := true } [.closeChannel] :=
    ⟨rfl, calm, by simp [Frame.drains]⟩
  obtain ⟨n, last, back, within⟩ :=
    (w.shared.runs_closeChannel name calm).along Draining.step draining state here'
  rw [← advance] at last back
  refine ⟨n + 1, last, ⟨back, fun j less => ?_⟩, fun j less after => ?_⟩
  · cases j with
    | zero => exact ⟨[.close], left, by simp, here⟩
    | succ j =>
      obtain ⟨above, left, some, -, there⟩ := within j (Nat.lt_of_succ_lt_succ less)
      exact ⟨above, left, some, advance j ▸ there⟩
  · obtain ⟨j, rfl⟩ := Nat.exists_eq_succ_of_ne_zero (Nat.ne_of_gt after)
    rw [advance]
    exact within j (Nat.lt_of_succ_lt_succ less)

/-- Closing takes all the messages out of the queue and fails them, in their order, while the thread
that closes is the only one to take steps. What their fail callbacks enqueue in turn is rejected,
and failed to the end before the enqueue returns; it is not counted. Whoever closes the queue again,
in a callback or later, finds nothing to do. -/
theorem close_fails_all {rig : Rig} {devices : DeviceSet} {robin : RoundRobin} {sc : Scene}
    {t : Nat} {name : String} {below : List Frame} {left : Answer}
    (run : Scene.Reaches .queue (.opening rig devices robin) sc)
    (here : sc.world.threads[t]? = some ⟨name, .close :: below, left, none⟩)
    (opened : sc.world.shared.closing = false)
    (calm : ∀ m ∈ sc.world.shared.channel.toList, m.plan.calm) :
    ∃ steps last new, sc.world.advanceFor t steps = last ∧
      sc.world.Back t name below steps (.count sc.world.shared.queued.length) ∧
      last.shared = sc.world.shared.closeAtOnce name ∧
      last.shared.closing = true ∧ last.shared.sealed = true ∧ last.shared.queued = [] ∧
      last.shared.rig.history.events = sc.world.shared.rig.history.events ++ new ∧
      new.filterMap Event.sent? = [] ∧ new.filterMap Event.begun? = [] ∧
      new.filterMap Event.received? = sc.world.shared.queued ∧ sc.world.shared.queued.Nodup ∧
      (new.filterMap Event.returned?).filter (·.1 ∈ sc.world.shared.queued) =
        sc.world.shared.queued.map (·, .queueClosed) ∧
      (new.filterMap Event.returned?).filter (·.1 ∉ sc.world.shared.queued) =
        (new.filterMap Event.rejected?).map (·, .queueClosed) ∧
      (new.filterMap Event.rejected?).Nodup ∧
      (∀ j < steps, ∀ m rest left, (sc.world.advanceFor t j).threads[t]? =
          some ⟨name, .enqueue m :: rest, left, none⟩ →
        ∃ k, j + k ≤ steps ∧ (sc.world.advanceFor t j).Back t name rest k .refused ∧
          (sc.world.advanceFor t (j + k)).shared = m.failAtOnce name
            ((sc.world.advanceFor t j).shared.record (.rejected m.ticket))) ∧
      (∀ j < steps, 0 < j → ∀ rest left, (sc.world.advanceFor t j).threads[t]? =
          some ⟨name, .close :: rest, left, none⟩ →
        ∃ v, (sc.world.advanceFor t j).step t = some v ∧
          v.shared = (sc.world.advanceFor t j).shared ∧
          v.threads[t]? = some ⟨name, rest, .count 0, none⟩) ∧
      ∀ offered later u other rest left, Scene.Reaches offered ⟨last, sc.hands⟩ later →
        later.world.threads[u]? = some ⟨other, .close :: rest, left, none⟩ →
        ∃ v, later.world.step u = some v ∧ v.shared = later.world.shared ∧
          v.threads[u]? = some ⟨other, rest, .count 0, none⟩ := by
  obtain ⟨w, hands⟩ := sc
  have sound := run.sound (Scene.sound_opening rig devices robin)
  obtain ⟨nodup, built⟩ := sound.queued
  obtain ⟨n, last, back, within⟩ := World.closes here opened calm
  obtain ⟨closing, sealed, empty, new, told, refusals⟩ := w.shared.tells_close name built
  obtain ⟨drained, refused⟩ := refusals.failures (List.Subset.refl _) built
  refine ⟨n, _, new, rfl, back, last, last ▸ closing, last ▸ sealed, last ▸ empty, last ▸ told,
    refusals.sent, refusals.begun, refusals.received, nodup, drained, refused,
    refusals.ordered.imp Nat.ne_of_lt, ?_, ?_, ?_⟩
  · -- An enqueue in between stands above the drain, and is answered before the drain goes on.
    intro j less m rest left there
    have after : 0 < j := by
      rcases Nat.eq_zero_or_pos j with rfl | after
      · cases here.symm.trans there
      · exact after
    obtain ⟨above, left', some, draining, there'⟩ := within j less after
    obtain ⟨f, above, rfl⟩ := List.exists_cons_of_ne_nil some
    have frames := congrArg Thread.frames (Option.some.inj (there.symm.trans there'))
    obtain ⟨rfl, rfl⟩ := List.cons.inj frames
    obtain ⟨k, inner, failed⟩ := draining.refuses there
    exact ⟨k, back.contains less inner, inner, by rw [World.advanceFor_add, failed]⟩
  · intro j less after rest left there
    obtain ⟨_, _, -, draining, -⟩ := within j less after
    exact World.step_of_close draining.closing there
  · intro offered later u other rest left onward there
    have alone : Scene.Reaches offered ⟨w, hands⟩ ⟨w.advanceFor t n, hands⟩ :=
      Scene.reaches_of_steps hands (World.reaches_advanceFor w t n)
    have closing' := (onward.closing (alone.sound sound)).1 (last ▸ closing)
    exact World.step_of_close closing' there

def nestingPlan : Blueprint :=
  .mk .closure "" "" 0 .done (.enqueue
    (.mk .closure "" "" 0 .done (.act .close (.act .cancel (.enqueue default .done))))
    (.act (.shutdown .terminate) .done))

def World.enqueuing (w : World) (plan : Blueprint) : World :=
  { w with shared := (w.shared.build plan).2 }.call mainNumber [.enqueue (w.shared.build plan).1]

theorem World.reaches_enqueuing {w : World} (plan : Blueprint)
    (idle : ∃ thread ∈ w.threads[mainNumber]?, thread.idles) :
    Scene.Reaches .queue ⟨w, []⟩ ⟨w.enqueuing plan, []⟩ := by
  have built : Scene.Reaches .queue ⟨w, []⟩ _ := .single (.build plan trivial)
  have called := built.tail
    (@Scene.Move.use .queue _ [] [] mainNumber _ .enqueue trivial trivial idle)
  exact called.trans (Scene.reaches_of_steps [] (World.reaches_advanceFor _ _ _))

/-- The message that enqueues others, and a reply behind it. -/
def World.nesting : World :=
  (World.enqueuing (Scene.opening (.ofHost (.ofSizes [] false) .always .none) ⟨0, [], []⟩
    ⟨0, 1⟩).world nestingPlan).enqueuing (.mk .reply "" "" 0 .done .done)

/-- Two messages wait, and four are failed. -/
theorem close_fails_all_of_nesting :
    ∃ steps, World.nesting.shared.queued = [0, 1] ∧
      (World.nesting.assign mainNumber [.close]).Back mainNumber mainThread [] steps (.count 2) ∧
      ((World.nesting.assign mainNumber [.close]).advanceFor mainNumber
          steps).shared.rig.history.events.filterMap Event.returned? =
        [(0, .queueClosed), (2, .queueClosed), (3, .queueClosed), (1, .queueClosed)] := by
  have facts : (∃ thread ∈ World.nesting.threads[mainNumber]?,
      thread.idles ∧ thread.name = mainThread) ∧ World.nesting.shared.closing = false ∧
      (∀ m ∈ World.nesting.shared.channel.toList, m.plan.calm) ∧
      World.nesting.shared.queued = [0, 1] ∧
      (World.nesting.shared.closeAtOnce mainThread).rig.history.events.filterMap
        Event.returned? =
          [(0, .queueClosed), (2, .queueClosed), (3, .queueClosed), (1, .queueClosed)] := by
    decide +kernel
  obtain ⟨⟨thread, there, idle, name⟩, opened, calm, queued, returned⟩ := facts
  let opening := Scene.opening (.ofHost (.ofSizes [] false) .always .none) ⟨0, [], []⟩ ⟨0, 1⟩
  have first : Scene.Reaches .queue opening _ :=
    @World.reaches_enqueuing opening.world nestingPlan ⟨.idle mainThread, rfl, rfl, rfl⟩
  have run := first.trans (World.reaches_enqueuing (.mk .reply "" "" 0 .done .done)
    (by decide +kernel))
  have closes := run.tail (.call mainNumber .close trivial trivial ⟨thread, there, idle⟩)
  have here : (World.nesting.assign mainNumber [.close]).threads[mainNumber]? =
      some ⟨mainThread, [.close], .done, none⟩ := by
    rw [World.assign_eq there, ← name]
    exact getElem?_set_here there
  obtain ⟨steps, last, new, rfl, back, shared, -⟩ := close_fails_all closes here opened calm
  have same := congrArg (fun s => s.rig.history.events.filterMap Event.returned?) shared
  refine ⟨steps, queued, ?_, same.trans returned⟩
  replace back : (World.nesting.assign mainNumber [.close]).Back mainNumber mainThread [] steps
    (.count World.nesting.shared.queued.length) := back
  rwa [queued] at back

end DispatchServer
