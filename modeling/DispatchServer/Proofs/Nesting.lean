import DispatchServer.Proofs.Launch
import DispatchServer.Proofs.Refusals

/-! What failing a message does when closing has begun, as if it were one step. The fail callback
can enqueue messages, whose own fail callbacks run within it, to any depth. As none of this waits
for another thread, a recursion over the messages says what it comes to, and the frames of the
machine come to the same. -/
namespace DispatchServer

def Shared.dropAll (s : Shared) (held : List Message) : Shared := held.foldl (·.drop · false) s

def Shared.cancel (s : Shared) : Shared := { s with cancelled := true, woken := true }

/-- The shutdown is requested, with this reason if nobody was first. -/
def Shared.request (s : Shared) (thread : String) (reason : ShutdownReason) : Shared :=
  match s.state with
  | .running =>
    (Shared.log { s.setState .shuttingDown with reason := s.reason.or (some reason) } thread
      (.shutdownRequested reason)).cancel
  | _ => s.cancel

def Action.atOnce (action : Action) (thread : String) (s : Shared) : Shared :=
  match action with
  | .close => s.write s!"close: {0}"
  | .cancel => s.cancel.write "cancel"
  | .shutdown reason =>
    (s.request thread reason).write s!"shutdown: {decide (s.state = .running)}"
  | action => (action.perform thread none s).1

mutual

/-- What the script comes to that is run by the thread and holds these messages. -/
def Script.atOnce (thread : String) (script : Script) (held : List Message) (s : Shared) : Shared :=
  match script with
  | .done | .fault _ | .panic _ => s.dropAll held
  | .act action next => next.atOnce thread held (action.atOnce thread s)
  | .enqueue plan next =>
    let (m, s) := s.build plan
    let s := plan.failAtOnce thread m.ticket (s.record (.rejected m.ticket))
    next.atOnce thread held (s.write ("enqueue " ++ plan.name ++ ": QueueClosed"))
  | .hold plan next =>
    let (m, s) := s.build plan
    next.atOnce thread (held ++ [m]) s

/-- What failing the message with the ticket comes to. -/
def Blueprint.failAtOnce (thread : String) (plan : Blueprint) (ticket : Nat) (s : Shared) :
    Shared :=
  match plan with
  | .mk kind name desc device process fail =>
    let m : Message := ⟨ticket, .mk kind name desc device process fail⟩
    let s := s.record (.returned ticket .queueClosed)
    match kind with
    | .closure => fail.atOnce thread [] (s.write (failedLine m .queueClosed))
    | .reply => s.publish m (.failed .queueClosed)

end

def Message.failAtOnce (m : Message) (thread : String) (s : Shared) : Shared :=
  m.plan.failAtOnce thread m.ticket s

/-- Frames that come to their end by their own steps, and what they leave. -/
inductive Frame.Runs (thread : String) :
    Shared → List Frame → Answer → Shared → Answer → Prop
  | ends {s : Shared} {answer : Answer} : Runs thread s [] answer s answer
  | step {s s' s'' : Shared} {f : Frame} {frames below : List Frame}
      {answer answer' answer'' : Answer}
      (moved : ∀ exits, f.step thread answer exits s = .moved s' frames answer')
      (rest : Runs thread s' (frames ++ below) answer' s'' answer'') :
      Runs thread s (f :: below) answer s'' answer''

namespace Frame

variable {thread : String} {s s' s'' : Shared} {answer answer' answer'' : Answer}

theorem Runs.append {above below : List Frame} (first : Runs thread s above answer s' answer')
    (second : Runs thread s' below answer' s'' answer'') :
    Runs thread s (above ++ below) answer s'' answer'' := by
  induction first with
  | ends => exact second
  | step moved _ ih =>
    refine .step moved ?_
    show Runs thread _ (_ ++ (_ ++ below)) _ _ _
    rw [← List.append_assoc]
    exact ih second

theorem Runs.cons {f : Frame} {below : List Frame} (first : Runs thread s [f] answer s' answer')
    (second : Runs thread s' below answer' s'' answer'') :
    Runs thread s (f :: below) answer s'' answer'' :=
  first.append second

theorem Runs.single {f : Frame}
    (moved : ∀ exits, f.step thread answer exits s = .moved s' [] answer') :
    Runs thread s [f] answer s' answer' :=
  .step moved .ends

theorem runs_leave (held : List Message) (given : Answer) :
    Runs thread s [.leave held given] answer (s.dropAll held) given := by
  induction held generalizing s answer with
  | nil => exact .single fun _ => rfl
  | cons m held ih => exact .step (fun _ => rfl) ih

theorem runs_cancel {below : List Frame} (rest : Runs thread s.cancel below .done s' answer') :
    Runs thread s (.cancel :: below) answer s' answer' :=
  .step (fun _ => rfl) (.step (fun _ => rfl) rest)

theorem runs_request (reason : ShutdownReason) :
    Runs thread s [.request reason] answer (s.request thread reason)
      (.flag (s.state = .running)) := by
  unfold Shared.request
  split
  · rename_i running
    have first (exits : Nat → Option Exit) : (request reason).step thread answer exits s =
        .moved (s.setState .shuttingDown) [remember reason, cancel, give (.flag true)] .done := by
      simp only [step, running]
    rw [running]
    exact .step first (.step (fun _ => rfl) (runs_cancel (.single fun _ => rfl)))
  · rename_i left
    have first (exits : Nat → Option Exit) : (request reason).step thread answer exits s =
        .moved s [cancel, give (.flag false)] .done := by
      simp only [step]
    rw [decide_eq_false left]
    exact .step first (runs_cancel (.single fun _ => rfl))

theorem runs_close (closing : s.closing = true) : Runs thread s [.close] answer s (.count 0) :=
  .single fun _ => if_pos closing

theorem runs_enqueue {m : Message} (closing : s.closing = true)
    (failed : Runs thread (s.record (.rejected m.ticket)) [.fail m .queueClosed] .done s'
      answer') : Runs thread s [.enqueue m] answer s' .refused :=
  .step (fun _ => if_pos closing) (failed.cons (.single fun _ => rfl))

end Frame

theorem Action.runs (action : Action) (thread : String) (s : Shared) (answer : Answer)
    (closing : s.closing = true) :
    ∃ answer', Frame.Runs thread (action.perform thread none s).1
      (action.perform thread none s).2 answer (action.atOnce thread s) answer' := by
  cases action with
  | close => exact ⟨_, (Frame.runs_close closing).cons (.single fun _ => rfl)⟩
  | cancel => exact ⟨_, Frame.runs_cancel (.single fun _ => rfl)⟩
  | shutdown reason => exact ⟨_, (Frame.runs_request reason).cons (.single fun _ => rfl)⟩
  | record | queue | device | thread => exact ⟨_, .ends⟩

def Event.rejected? : Event → Option Nat
  | rejected message => some message
  | _ => none

/-- What the events tell of messages when nothing is sent and nothing is processed. The tickets of
those that were received are below the base; each of them was failed, in this order. Whatever else
was failed was rejected, and was built only then. -/
structure Refusals (base : Nat) (tickets : List Nat) (events : List Event) (next next' : Nat) :
    Prop where
  sent : events.filterMap Event.sent? = []
  begun : events.filterMap Event.begun? = []
  received : events.filterMap Event.received? = tickets
  drained : (events.filterMap Event.returned?).filter (·.1 < base) = tickets.map (·, .queueClosed)
  refused : (events.filterMap Event.returned?).filter (¬ ·.1 < base) =
    (events.filterMap Event.rejected?).map (·, .queueClosed)
  ordered : (events.filterMap Event.rejected?).Pairwise (· < ·)
  later : ∀ k ∈ events.filterMap Event.rejected?, next ≤ k ∧ k < next'
  grows : next ≤ next'

namespace Refusals

variable {base next next' next'' : Nat} {tickets tickets' : List Nat} {events events' : List Event}

theorem append (first : Refusals base tickets events next next')
    (second : Refusals base tickets' events' next' next'') :
    Refusals base (tickets ++ tickets') (events ++ events') next next'' where
  sent := by rw [List.filterMap_append, first.sent, second.sent]; rfl
  begun := by rw [List.filterMap_append, first.begun, second.begun]; rfl
  received := by rw [List.filterMap_append, first.received, second.received]
  drained := by
    rw [List.filterMap_append, List.filter_append, first.drained, second.drained,
      List.map_append]
  refused := by
    rw [List.filterMap_append, List.filter_append, first.refused, second.refused,
      List.filterMap_append, List.map_append]
  ordered := by
    rw [List.filterMap_append]
    refine List.pairwise_append.2 ⟨first.ordered, second.ordered, fun k here k' here' => ?_⟩
    exact (first.later k here).2.trans_le (second.later k' here').1
  later k member := by
    rw [List.filterMap_append] at member
    rcases List.mem_append.1 member with here | here
    · exact ⟨(first.later k here).1, (first.later k here).2.trans_le second.grows⟩
    · exact ⟨first.grows.trans (second.later k here).1, (second.later k here).2⟩
  grows := first.grows.trans second.grows

theorem nil (base next : Nat) : Refusals base [] [] next next :=
  ⟨rfl, rfl, rfl, rfl, rfl, .nil, by simp, le_rfl⟩

theorem quiet {event : Event} (sent : event.sent? = none) (begun : event.begun? = none)
    (received : event.received? = none) (returned : event.returned? = none)
    (rejected : event.rejected? = none) (before : next ≤ next') :
    Refusals base [] [event] next next' := by
  constructor <;> simp [*]

/-- A message that was built is rejected and failed. -/
theorem rejects (before : base ≤ next) :
    Refusals base [] [.rejected next, .returned next .queueClosed] next (next + 1) where
  sent := rfl
  begun := rfl
  received := rfl
  drained := List.filter_eq_nil_iff.2 (by simpa [Event.returned?] using before)
  refused := List.filter_eq_self.2 (by simpa [Event.returned?] using before)
  ordered := List.pairwise_singleton _ _
  later k member := by
    rw [List.mem_singleton.1 member]
    exact ⟨le_rfl, Nat.lt_succ_self next⟩
  grows := Nat.le_succ next

/-- A message that was there before is received and failed. -/
theorem drains {k : Nat} (before : k < base) :
    Refusals base [k] [.received k, .returned k .queueClosed] next next where
  sent := rfl
  begun := rfl
  received := rfl
  drained := List.filter_eq_self.2 (by simpa [Event.returned?] using before)
  refused := List.filter_eq_nil_iff.2 (by simpa [Event.returned?] using before)
  ordered := .nil
  later k member := by cases member
  grows := le_rfl

end Refusals

namespace Shared

variable {base : Nat} {s s' s'' : Shared}

/-- The queue is left as it is, and whatever was failed was rejected. -/
structure Refuses (base : Nat) (s s' : Shared) : Prop where
  closing : s'.closing = s.closing
  sealed : s'.sealed = s.sealed
  channel : s'.channel = s.channel
  events : ∃ new, s'.rig.history.events = s.rig.history.events ++ new ∧
    Refusals base [] new s.ledger.next s'.ledger.next

theorem Refuses.trans (first : s.Refuses base s') (second : s'.Refuses base s'') :
    s.Refuses base s'' := by
  obtain ⟨new, told, refusals⟩ := first.events
  obtain ⟨new', told', refusals'⟩ := second.events
  refine ⟨second.closing.trans first.closing, second.sealed.trans first.sealed,
    second.channel.trans first.channel, new ++ new', ?_, refusals.append refusals'⟩
  rw [told', told, List.append_assoc]

/-- Nothing is told. -/
theorem Refuses.of_silent (closing : s'.closing = s.closing) (sealed : s'.sealed = s.sealed)
    (channel : s'.channel = s.channel) (rig : s'.rig = s.rig)
    (next : s'.ledger.next = s.ledger.next) : s.Refuses base s' := by
  refine ⟨closing, sealed, channel, [], ?_, ?_⟩
  · rw [rig, List.append_nil]
  · rw [next]
    exact .nil base _

/-- Nothing is told of the fate of a message. -/
theorem Refuses.record {event : Event} (before : s.Refuses base s') (sent : event.sent? = none)
    (begun : event.begun? = none) (received : event.received? = none)
    (returned : event.returned? = none) (rejected : event.rejected? = none) :
    s.Refuses base (s'.record event) :=
  before.trans ⟨rfl, rfl, rfl, [event], History.events_record _ _,
    .quiet sent begun received returned rejected le_rfl⟩

theorem Refuses.write (before : s.Refuses base s') (line : String) :
    s.Refuses base (s'.write line) :=
  before.record rfl rfl rfl rfl rfl

theorem refuses_drop (s : Shared) (m : Message) (panicking : Bool) :
    s.Refuses base (s.drop m panicking) := by
  have dropped : s.Refuses base { s with ledger := s.ledger.drop m panicking } :=
    .of_silent rfl rfl rfl rfl (s.ledger.next_drop _ _)
  exact dropped.record rfl rfl rfl rfl rfl

theorem refuses_dropAll (s : Shared) (held : List Message) : s.Refuses base (s.dropAll held) := by
  induction held generalizing s with
  | nil => exact .of_silent rfl rfl rfl rfl rfl
  | cons m held ih => exact (s.refuses_drop m false).trans (ih _)

theorem refuses_cancel (s : Shared) : s.Refuses base s.cancel := .of_silent rfl rfl rfl rfl rfl

theorem refuses_request (s : Shared) (thread : String) (reason : ShutdownReason) :
    s.Refuses base (s.request thread reason) := by
  unfold request
  split
  · have left : s.Refuses base { s with state := .shuttingDown } :=
      .of_silent rfl rfl rfl rfl rfl
    have changed : s.Refuses base (s.setState .shuttingDown) := left.record rfl rfl rfl rfl rfl
    have remembered : s.Refuses base
        { s.setState .shuttingDown with reason := s.reason.or (some reason) } :=
      changed.trans (.of_silent rfl rfl rfl rfl rfl)
    exact (remembered.record rfl rfl rfl rfl rfl).trans (refuses_cancel _)
  · exact s.refuses_cancel

end Shared

theorem Action.refuses {base : Nat} (action : Action) (thread : String) (s : Shared) :
    s.Refuses base (action.atOnce thread s) := by
  have same : s.Refuses base s := .of_silent rfl rfl rfl rfl rfl
  cases action with
  | shutdown reason => exact (s.refuses_request thread reason).write _
  | cancel => exact s.refuses_cancel.write _
  | _ => exact same.write _

namespace Shared

variable {base : Nat} {s s' : Shared}

theorem Refuses.grows (refuses : s.Refuses base s') : s.ledger.next ≤ s'.ledger.next := by
  obtain ⟨_, -, refusals⟩ := refuses.events
  exact refusals.grows

theorem refuses_build (s : Shared) (plan : Blueprint) : s.Refuses base (s.build plan).2 := by
  refine ⟨rfl, rfl, rfl, [.built s.ledger.next], History.events_record _ _, ?_⟩
  refine .quiet rfl rfl rfl rfl rfl ?_
  exact (s.ledger.next_issue plan).symm ▸ Nat.le_succ _

/-- The message is built for nothing. -/
theorem refuses_enqueue (s : Shared) (plan : Blueprint) (before : base ≤ s.ledger.next) :
    s.Refuses base (((s.build plan).2.record (.rejected s.ledger.next)).record
      (.returned s.ledger.next .queueClosed)) := by
  have built : Refusals base [] [.built s.ledger.next] s.ledger.next s.ledger.next :=
    .quiet rfl rfl rfl rfl rfl le_rfl
  have refusals := built.append (.rejects before)
  rw [← s.ledger.next_issue plan] at refusals
  refine ⟨rfl, rfl, rfl, _, ?_, refusals⟩
  show (((s.rig.history.record _).record _).record _).events = _
  simp only [History.events_record, List.append_assoc]
  rfl

end Shared

mutual

theorem Script.refuses {base : Nat} (thread : String) (script : Script) (held : List Message)
    (s : Shared) (before : base ≤ s.ledger.next) :
    s.Refuses base (script.atOnce thread held s) := by
  match script with
  | .done | .fault _ | .panic _ => exact s.refuses_dropAll held
  | .act action next =>
    have acted : s.Refuses base (action.atOnce thread s) := action.refuses thread s
    exact acted.trans (next.refuses thread held _ (before.trans acted.grows))
  | .enqueue plan next =>
    have built : s.Refuses base (s.build plan).2 := s.refuses_build plan
    have failed : s.Refuses base (plan.failAtOnce thread s.ledger.next
        ((s.build plan).2.record (.rejected s.ledger.next))) :=
      (s.refuses_enqueue plan before).trans
        (plan.refuses thread _ _ (before.trans built.grows))
    have noted := failed.write ("enqueue " ++ plan.name ++ ": QueueClosed")
    exact noted.trans (next.refuses thread held _ (before.trans noted.grows))
  | .hold plan next =>
    have built : s.Refuses base (s.build plan).2 := s.refuses_build plan
    exact built.trans (next.refuses thread _ _ (before.trans built.grows))

theorem Blueprint.refuses {base : Nat} (thread : String) (plan : Blueprint) (ticket : Nat)
    (s : Shared) (before : base ≤ s.ledger.next) :
    (s.record (.returned ticket .queueClosed)).Refuses base (plan.failAtOnce thread ticket s) := by
  match plan with
  | .mk kind name desc device process fail =>
    cases kind with
    | closure =>
      have same : (s.record (.returned ticket .queueClosed)).Refuses base
          (s.record (.returned ticket .queueClosed)) := .of_silent rfl rfl rfl rfl rfl
      exact (same.write _).trans (fail.refuses thread [] _ before)
    | reply => exact .of_silent rfl rfl rfl rfl (Ledger.next_publish _ _ _)

end

mutual

/-- The frames of a script come to what it comes to at once. -/
theorem Script.runs (thread : String) (script : Script) (held : List Message) (s : Shared)
    (answer : Answer) (closing : s.closing = true) (calm : script.calm) :
    ∃ answer', Frame.Runs thread s [.run none script held] answer (script.atOnce thread held s)
      answer' := by
  match script with
  | .done | .fault _ => exact ⟨_, .step (fun _ => rfl) (Frame.runs_leave held _)⟩
  | .panic _ => cases calm
  | .act action next =>
    have acted : s.Refuses 0 (action.atOnce thread s) := action.refuses thread s
    obtain ⟨between, first⟩ := action.runs thread s .done closing
    obtain ⟨answer', rest⟩ := next.runs thread held (action.atOnce thread s) between
      (acted.closing.trans closing) calm
    have both := first.append rest
    rw [← List.append_nil (_ ++ _)] at both
    exact ⟨answer', .step (fun _ => rfl) both⟩
  | .enqueue plan next =>
    obtain ⟨first, last⟩ := Bool.and_eq_true_iff.1 calm
    let rejected := (s.build plan).2.record (.rejected s.ledger.next)
    let failed := plan.failAtOnce thread s.ledger.next rejected
    have refuses : (rejected.record (.returned s.ledger.next .queueClosed)).Refuses 0 failed :=
      plan.refuses thread s.ledger.next rejected (Nat.zero_le _)
    obtain ⟨_, fails⟩ := plan.runs thread s.ledger.next rejected .done closing first
    obtain ⟨answer', rest⟩ := next.runs thread held
      (failed.write ("enqueue " ++ plan.name ++ ": QueueClosed")) .done
      (refuses.closing.trans closing) last
    have enqueues : Frame.Runs thread (s.build plan).2 [.enqueue ⟨s.ledger.next, plan⟩] .done failed
      .refused := Frame.runs_enqueue closing fails
    exact ⟨answer', .step (fun _ => rfl) (enqueues.cons (.step (fun _ => rfl) rest))⟩
  | .hold plan next =>
    obtain ⟨answer', rest⟩ := next.runs thread (held ++ [⟨s.ledger.next, plan⟩]) (s.build plan).2
      .done closing calm
    exact ⟨answer', .step (fun _ => rfl) rest⟩

/-- The frames that fail a message come to what failing it comes to at once. -/
theorem Blueprint.runs (thread : String) (plan : Blueprint) (ticket : Nat) (s : Shared)
    (answer : Answer) (closing : s.closing = true) (calm : plan.calm) :
    ∃ answer', Frame.Runs thread s [.fail ⟨ticket, plan⟩ .queueClosed] answer
      (plan.failAtOnce thread ticket s) answer' := by
  match plan with
  | .mk .closure name desc device process fail =>
    let m : Message := ⟨ticket, .mk .closure name desc device process fail⟩
    obtain ⟨answer', rest⟩ := fail.runs thread [] ((s.record (.returned ticket .queueClosed)).write
      (failedLine m .queueClosed)) .done closing (by simpa [Blueprint.calm] using calm)
    exact ⟨answer', .step (fun _ => rfl) rest⟩
  | .mk .reply name desc device process fail => exact ⟨_, .single fun _ => rfl⟩

end

end DispatchServer
