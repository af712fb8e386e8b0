import Mathlib.Algebra.Order.BigOperators.Group.List
import DispatchServer.Proofs.Traffic

/-! Where messages are. Every message that was built is in one place only, and whatever has left the
channel left it in the order in which it entered, whoever received it. -/
namespace DispatchServer

def Event.failure? (k : Nat) : Event → Option ServerError
  | returned m error => if m = k then some error else none
  | _ => none

def Event.loss? (k : Nat) : Event → Option Bool
  | dropped m unwinding => if m = k then some unwinding else none
  | _ => none

namespace Traffic

variable (T : Traffic)

/-- Tickets of the messages that entered the channel, first in first. -/
def sent : List Nat := T.events.filterMap Event.sent?

/-- Tickets of the messages that left the channel, first out first. -/
def received : List Nat := T.events.filterMap Event.received?

/-- Tickets of the messages that some thread began to process. -/
def begun : List Nat := T.events.filterMap Event.begun?

/-- The errors with which the message with a ticket was failed. -/
def failures (k : Nat) : List ServerError := T.events.filterMap (Event.failure? k)

/-- The losses of the message with a ticket. -/
def losses (k : Nat) : List Bool := T.events.filterMap (Event.loss? k)

/-- How often the message with a ticket was consumed. A panic of its own work does not count, for by
then it is being processed. -/
def consumed (k : Nat) : Nat :=
  T.begun.count k + (T.failures k).length + if k ∈ T.begun then 0 else (T.losses k).length

theorem of_consumed_eq_zero {k : Nat} (none : T.consumed k = 0) :
    k ∉ T.begun ∧ T.failures k = [] ∧ T.losses k = [] := by
  unfold consumed at none
  have absent : k ∉ T.begun := List.count_eq_zero.1 (by omega)
  rw [if_neg absent] at none
  exact ⟨absent, List.length_eq_zero_iff.1 (by omega), List.length_eq_zero_iff.1 (by omega)⟩

@[simp] theorem ledger_record (event : Event) : (T.record event).ledger = T.ledger := rfl

@[simp] theorem channel_record (event : Event) : (T.record event).channel = T.channel := rfl

@[simp] theorem ledger_publish (m : Message) (status : ReplyStatus) :
    (T.publish m status).ledger = T.ledger.publish m status := rfl

@[simp] theorem channel_publish (m : Message) (status : ReplyStatus) :
    (T.publish m status).channel = T.channel := rfl

@[simp] theorem ledger_drop (m : Message) (unwinding : Bool) :
    (T.drop m unwinding).ledger = T.ledger.drop m unwinding := rfl

@[simp] theorem channel_drop (m : Message) (unwinding : Bool) :
    (T.drop m unwinding).channel = T.channel := rfl

end Traffic

namespace Ledger

variable (ledger : Ledger)

def issued (k : Nat) : Nat := if k < ledger.next then 1 else 0

theorem next_publish (m : Message) (status : ReplyStatus) :
    (ledger.publish m status).next = ledger.next := by
  unfold publish; split <;> rfl

theorem next_drop (m : Message) (panicking : Bool) :
    (ledger.drop m panicking).next = ledger.next := by
  unfold drop
  split
  · exact ledger.next_publish m _
  · rfl

theorem next_issue (plan : Blueprint) : (ledger.issue plan).2.next = ledger.next + 1 := by
  unfold issue
  cases plan.kind <;> rfl

@[simp] theorem issued_publish (m : Message) (status : ReplyStatus) (k : Nat) :
    (ledger.publish m status).issued k = ledger.issued k := by
  rw [issued, issued, next_publish]

@[simp] theorem issued_drop (m : Message) (panicking : Bool) (k : Nat) :
    (ledger.drop m panicking).issued k = ledger.issued k := by
  rw [issued, issued, next_drop]

theorem issued_issue (plan : Blueprint) (k : Nat) :
    (ledger.issue plan).2.issued k = ledger.issued k + if k = ledger.next then 1 else 0 := by
  rw [issued, issued, next_issue]
  grind

end Ledger

def copies (k : Nat) (messages : Multiset Message) : Nat := (messages.map Message.ticket).count k

@[simp] theorem copies_zero (k : Nat) : copies k 0 = 0 := rfl

@[simp] theorem copies_add (k : Nat) (a b : Multiset Message) :
    copies k (a + b) = copies k a + copies k b := by
  simp [copies]

theorem copies_pos {m : Message} {messages : Multiset Message} (here : m ∈ messages) :
    0 < copies m.ticket messages :=
  Multiset.count_pos.2 (Multiset.mem_map_of_mem _ here)

@[simp] theorem copies_singleton (k : Nat) (m : Message) :
    copies k {m} = if k = m.ticket then 1 else 0 := by
  simp [copies, Multiset.count_singleton]

namespace Flow

@[simp] def event? : Flow → Option Event
  | quiet | worked .. => none
  | built m => some (.built m.ticket)
  | sent m => some (.sent m.ticket)
  | rejected m => some (.rejected m.ticket)
  | received m => some (.received m.ticket)
  | begun m thread => some (.begun m.ticket m.plan.device thread)
  | returned m error => some (.returned m.ticket error)
  | dropped m unwinding => some (.dropped m.ticket unwinding)
  | abandoned m => some (.dropped m.ticket true)

variable {flow : Flow} {T : Traffic}

theorem filterMap_apply {α : Type} (f : Event → Option α) :
    (flow.apply T).events.filterMap f = T.events.filterMap f ++ (flow.event?.bind f).toList := by
  have record (T : Traffic) (event : Event) :
      (T.record event).events.filterMap f = T.events.filterMap f ++ (f event).toList := by
    rw [Traffic.record, List.filterMap_append]
    cases h : f event <;> simp [h]
  cases flow with
  | quiet | worked => simp [Traffic.publish]
  | _ => exact record _ _

theorem sent_apply : (flow.apply T).sent = T.sent ++ (flow.event?.bind Event.sent?).toList :=
  filterMap_apply _

theorem received_apply :
    (flow.apply T).received = T.received ++ (flow.event?.bind Event.received?).toList :=
  filterMap_apply _

theorem begun_apply : (flow.apply T).begun = T.begun ++ (flow.event?.bind Event.begun?).toList :=
  filterMap_apply _

theorem failures_apply (k : Nat) :
    (flow.apply T).failures k = T.failures k ++ (flow.event?.bind (Event.failure? k)).toList :=
  filterMap_apply _

theorem losses_apply (k : Nat) :
    (flow.apply T).losses k = T.losses k ++ (flow.event?.bind (Event.loss? k)).toList :=
  filterMap_apply _

/-- What comes and what goes balance, provided that nothing is taken that was consumed before, and
that only begun work ends. -/
theorem apply_balance {k : Nat} {panics : Bool} (fits : flow.Fits panics T)
    (fresh : copies k flow.takes ≠ 0 → T.consumed k = 0)
    (busy : copies k flow.ends ≠ 0 → k ∈ T.begun) :
    copies k (flow.apply T).channel + (flow.apply T).consumed k + copies k flow.gives +
        T.ledger.issued k =
      copies k T.channel + T.consumed k + copies k flow.takes + (flow.apply T).ledger.issued k := by
  have fresh (here : copies k flow.takes ≠ 0) := T.of_consumed_eq_zero (fresh here)
  simp only [Traffic.consumed, begun_apply, failures_apply, losses_apply]
  -- A ticket that is taken was not consumed before, so that consuming it counts once.
  cases flow with
  | quiet => simp
  | built m =>
    have fits : m.ticket = T.ledger.next := fits
    simp only [apply, event?, Traffic.channel_record, Traffic.ledger_record, Ledger.issued_issue,
      Option.bind_some, Event.begun?, Event.failure?, Event.loss?, Option.toList_none,
      List.append_nil, takes, gives, copies_zero, copies_singleton, fits]
    omega
  | sent m =>
    simp [Event.begun?, Event.failure?, Event.loss?, ← Multiset.coe_add]
    omega
  | received m =>
    obtain ⟨rest, order⟩ := List.head?_eq_some_iff.1 (show T.channel.head? = some m from fits)
    simp [Event.begun?, Event.failure?, Event.loss?, order, ← Multiset.cons_coe,
      ← Multiset.singleton_add]
    omega
  | rejected m => simp [Event.begun?, Event.failure?, Event.loss?]
  | begun m thread =>
    rcases eq_or_ne k m.ticket with rfl | other
    · obtain ⟨absent, noFailure, noLoss⟩ := fresh (by simp)
      simp [Event.begun?, Event.failure?, absent, noFailure, noLoss]
      omega
    · simp [Event.begun?, Event.failure?, Event.loss?, other, other.symm]
  | worked m failure => simp
  | returned m error =>
    rcases eq_or_ne k m.ticket with rfl | other
    · obtain ⟨absent, noFailure, noLoss⟩ := fresh (by simp)
      simp [Event.begun?, Event.failure?, Event.loss?, absent, noFailure, noLoss]
      omega
    · simp [Event.begun?, Event.failure?, Event.loss?, other, other.symm]
  | dropped m unwinding =>
    rcases eq_or_ne k m.ticket with rfl | other
    · obtain ⟨absent, noFailure, noLoss⟩ := fresh (by simp)
      simp [Event.begun?, Event.failure?, Event.loss?, absent, noFailure, noLoss]
      omega
    · simp [Event.begun?, Event.failure?, Event.loss?, other, other.symm]
  | abandoned m =>
    rcases eq_or_ne k m.ticket with rfl | other
    · simp [Event.begun?, Event.failure?, busy (by simp)]
    · simp [Event.begun?, Event.failure?, Event.loss?, other.symm]

/-- A flow that takes gives nothing. -/
theorem gives_eq_zero {k : Nat} (takes : copies k flow.takes ≠ 0) : flow.gives = 0 := by
  cases flow <;> simp_all

/-- Work that ends is not work that begins. -/
theorem starts_eq_zero {k : Nat} (ends : copies k flow.ends ≠ 0) : flow.starts = 0 := by
  cases flow <;> simp_all

end Flow

/-- The books are balanced: what is held, what the channel holds and what was consumed is what was
built, and the channel has kept its order. -/
structure Custody (T : Traffic) (held working : Multiset Message) : Prop where
  once : ∀ k, copies k held + copies k T.channel + T.consumed k = T.ledger.issued k
  order : T.received ++ T.channel.map Message.ticket = T.sent
  begun : ∀ k, copies k working ≤ T.begun.count k

theorem Ledger.issued_le (ledger : Ledger) (k : Nat) : ledger.issued k ≤ 1 := by
  unfold issued; split <;> simp

/-- One flow keeps the books. -/
theorem Flow.Links.custody {flow : Flow} {panics : Bool} {s s' : Shared}
    {held held' working working' : Multiset Message}
    (links : flow.Links panics s s' held held' working working')
    (custody : Custody s.traffic held working) : Custody s'.traffic held' working' := by
  have waiting k := congrArg (copies k) links.waiting
  have working k := congrArg (copies k) links.working
  simp only [copies_add] at waiting working
  have fits := links.fits
  obtain ⟨once, order, begun⟩ := custody
  rw [links.traffic]
  generalize s.traffic = T at *
  refine ⟨fun k => ?_, ?_, fun k => ?_⟩
  · have once := once k
    have waiting := waiting k
    have bound := T.ledger.issued_le k
    have balance := flow.apply_balance (k := k) fits
      (fun takes => by
        rw [Flow.gives_eq_zero takes, copies_zero] at waiting
        omega)
      (fun ends => by
        have working := working k
        have begun := begun k
        rw [Flow.starts_eq_zero ends, copies_zero] at working
        exact List.count_pos_iff.1 (by omega))
    omega
  · rw [Flow.received_apply, Flow.sent_apply]
    cases flow with
    | sent m => simp [Event.received?, Event.sent?, ← order]
    | received m =>
      obtain ⟨rest, head⟩ := List.head?_eq_some_iff.1 (show T.channel.head? = some m from fits)
      simp [Event.received?, Event.sent?, ← order, head]
    | _ => simp [Event.received?, Event.sent?, order]
  · rw [Flow.begun_apply, List.count_append]
    have working := working k
    have begun := begun k
    -- Work starts only as its message is begun, though a closure that is begun starts none.
    have starts : copies k flow.starts ≤ (flow.event?.bind Event.begun?).toList.count k := by
      cases flow with
      | begun m thread =>
        simp only [Flow.starts, Flow.event?, Option.bind_some, Event.begun?, Option.toList_some]
        split
        · rw [copies_singleton, List.count_singleton]
          by_cases here : k = m.ticket
          · simp [here]
          · simp [here]
        · simp
      | _ => simp
    omega

namespace Scene

abbrev traffic (sc : Scene) : Traffic := sc.world.shared.traffic

/-- What holds whenever the machine rests between two moves. -/
structure Sound (sc : Scene) : Prop where
  typed : ∀ thread ∈ sc.world.threads, thread.Typed
  custody : Custody sc.traffic sc.held sc.working

variable {offered : Interface} {sc sc' : Scene}

theorem Move.sound (h : Move offered sc sc') (sound : sc.Sound) : sc'.Sound := by
  obtain ⟨flow, _, links⟩ := h.flow sound.typed
  exact ⟨h.typed sound.typed, links.custody sound.custody⟩

theorem Reaches.sound (h : Reaches offered sc sc') (sound : sc.Sound) : sc'.Sound := by
  induction h with
  | refl => exact sound
  | tail _ move ih => exact move.sound ih

/-- Nothing has been built yet. -/
theorem sound_fresh {rig : Rig} (devices : DeviceSet) (robin : RoundRobin)
    (silent : rig.history.events.filter Event.isTraffic = []) :
    Sound ⟨.fresh rig devices robin, []⟩ where
  typed := by simpa [World.fresh] using Thread.Typed.idle mainThread
  custody := by
    have traffic : traffic ⟨.fresh rig devices robin, []⟩ = ⟨.empty, [], []⟩ := by
      simp [traffic, Shared.traffic, World.fresh, silent]
    rw [traffic]
    refine ⟨fun k => ?_, rfl, fun k => ?_⟩
    · simp [World.fresh, held, Thread.waiting, Thread.idle, Answer.owned, Ledger.issued,
        Ledger.empty, Traffic.consumed, Traffic.begun, Traffic.failures, Traffic.losses]
    · simp [World.fresh, working, Thread.working, Thread.idle]

theorem sound_opening (rig : Rig) (devices : DeviceSet) (robin : RoundRobin) :
    (opening rig devices robin).Sound :=
  sound_fresh devices robin rfl

end Scene

/-- Where a message can be. -/
inductive Whereabouts
  | producer
  | channel
  | receiver
  | consumed
  deriving DecidableEq

def Frame.offering : Frame → Multiset Message
  | enqueue m | send m => {m}
  | _ => 0

theorem Frame.offering_le (f : Frame) : f.offering ≤ f.waiting := by
  cases f with
  | enqueue m | send m => exact le_rfl
  | _ => exact Multiset.zero_le _

namespace Scene

def offering (sc : Scene) : Multiset Message :=
  (sc.world.threads.map fun thread => (thread.frames.map Frame.offering).sum).sum

theorem offering_le (sc : Scene) : sc.offering ≤ sc.held := by
  refine le_trans (List.sum_le_sum fun thread _ => ?_) (Multiset.le_add_right _ _)
  exact le_trans (List.sum_le_sum fun f _ => f.offering_le) (Multiset.le_add_right _ _)

/-- How often the message with a ticket is in a place. One that was received can be offered again;
until it is, its receiver has it. -/
def occurs (sc : Scene) (k : Nat) : Whereabouts → Nat
  | .producer => if k ∈ sc.traffic.received then copies k sc.offering else copies k sc.held
  | .channel => copies k sc.traffic.channel
  | .receiver => if k ∈ sc.traffic.received then copies k sc.held - copies k sc.offering else 0
  | .consumed => sc.traffic.consumed k

/-- Every message that was built is in one place, and in this place once. -/
theorem Sound.placed {sc : Scene} (sound : sc.Sound) {k : Nat}
    (built : k < sc.traffic.ledger.next) :
    ∃ place, ∀ other, sc.occurs k other = if other = place then 1 else 0 := by
  have once := sound.custody.once k
  rw [Ledger.issued, if_pos built] at once
  have held : sc.occurs k .producer + sc.occurs k .receiver = copies k sc.held := by
    have fewer : copies k sc.offering ≤ copies k sc.held :=
      Multiset.count_le_of_le _ (Multiset.map_le_map sc.offering_le)
    simp only [occurs]
    split <;> omega
  have channel : sc.occurs k .channel = copies k sc.traffic.channel := rfl
  have consumed : sc.occurs k .consumed = sc.traffic.consumed k := rfl
  by_cases atProducer : sc.occurs k .producer = 1
  · exact ⟨.producer, fun other => by cases other <;> simp <;> omega⟩
  by_cases inChannel : sc.occurs k .channel = 1
  · exact ⟨.channel, fun other => by cases other <;> simp <;> omega⟩
  by_cases atReceiver : sc.occurs k .receiver = 1
  · exact ⟨.receiver, fun other => by cases other <;> simp <;> omega⟩
  · exact ⟨.consumed, fun other => by cases other <;> simp <;> omega⟩

end Scene

end DispatchServer
