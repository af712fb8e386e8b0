import Mathlib.Algebra.Order.BigOperators.Group.List
import Mathlib.Algebra.Order.Group.Nat
import Mathlib.Algebra.Order.Group.Multiset
import Mathlib.Tactic.Abel
import DispatchServer.Proofs.Stack

/-! What a step does to messages. A message is waiting from the moment it is built until it is
processed, failed or dropped, and a reply message is being worked on until its outcome is published;
each step moves at most one message, and this is all that the ledger, the channel and the history
tell of it. -/
namespace DispatchServer

def Event.isTraffic : Event → Bool
  | .built _ | .sent _ | .rejected _ | .received _ | .begun .. | .returned .. | .dropped .. => true
  | _ => false

/-- The part of the shared state that is about messages. -/
structure Traffic where
  ledger : Ledger
  channel : List Message
  events : List Event

namespace Traffic

def record (T : Traffic) (event : Event) : Traffic := { T with events := T.events ++ [event] }

def publish (T : Traffic) (m : Message) (status : ReplyStatus) : Traffic :=
  { T with ledger := T.ledger.publish m status }

def drop (T : Traffic) (m : Message) (unwinding : Bool) : Traffic :=
  { T with ledger := T.ledger.drop m unwinding }.record (.dropped m.ticket unwinding)

end Traffic

def Shared.traffic (s : Shared) : Traffic :=
  ⟨s.ledger, s.channel.toList, s.rig.history.events.filter Event.isTraffic⟩

/-- What can happen to a message. -/
inductive Flow
  | quiet
  | built (m : Message)
  | sent (m : Message)
  | rejected (m : Message)
  | received (m : Message)
  | begun (m : Message) (thread : String)
  | worked (m : Message) (failure : Option String)
  | returned (m : Message) (error : ServerError)
  | dropped (m : Message) (unwinding : Bool)
  | abandoned (m : Message)

/-- What the producer is told of work that has ended by itself. -/
def workedStatus : Option String → ReplyStatus
  | none => .done
  | some text => .failed (.processingFailed text)

namespace Flow

@[simp] def apply : Flow → Traffic → Traffic
  | quiet, T => T
  | built m, T => { T with ledger := (T.ledger.issue m.plan).2 }.record (.built m.ticket)
  | sent m, T => { T with channel := T.channel ++ [m] }.record (.sent m.ticket)
  | rejected m, T => T.record (.rejected m.ticket)
  | received m, T => { T with channel := T.channel.tail }.record (.received m.ticket)
  | begun m thread, T => T.record (.begun m.ticket m.plan.device thread)
  | worked m failure, T => T.publish m (workedStatus failure)
  | returned m error, T => (T.publish m (.failed error)).record (.returned m.ticket error)
  | dropped m unwinding, T => T.drop m unwinding
  | abandoned m, T => T.drop m true

/-- When it can happen. Whether a panic takes a message shows in the thread that drops it. -/
def Fits (panics : Bool) (T : Traffic) : Flow → Prop
  | built m => m.ticket = T.ledger.next
  | received m => T.channel.head? = some m
  | worked m failure => m.isReply ∧ m.plan.process.result = some failure
  | dropped _ unwinding => unwinding = panics
  | abandoned m => m.isReply ∧ panics = true
  | _ => True

@[simp] def takes : Flow → Multiset Message
  | sent m | begun m _ | returned m _ | dropped m _ => {m}
  | _ => 0

@[simp] def gives : Flow → Multiset Message
  | built m | received m => {m}
  | _ => 0

/-- The message of which the work begins. -/
@[simp] def starts : Flow → Multiset Message
  | begun m _ => if m.isReply then {m} else 0
  | _ => 0

/-- The message of which the work ends. -/
@[simp] def ends : Flow → Multiset Message
  | worked m _ | abandoned m => {m}
  | _ => 0

/-- The flow leads from one shared state to another, and changes what is waiting and what is worked
on accordingly. -/
structure Links (flow : Flow) (panics : Bool) (s s' : Shared)
    (waiting waiting' working working' : Multiset Message) : Prop where
  fits : flow.Fits panics s.traffic
  traffic : s'.traffic = flow.apply s.traffic
  waiting : waiting' + flow.takes = waiting + flow.gives
  working : working' + flow.ends = working + flow.starts

end Flow

namespace Shared

variable (s : Shared)

theorem traffic_record (event : Event) :
    (s.record event).traffic = if event.isTraffic then s.traffic.record event else s.traffic := by
  unfold traffic record Rig.record
  split <;> simp_all [Traffic.record, List.filter_append]

@[simp] theorem traffic_log (thread : String) (notice : Notice) :
    (s.log thread notice).traffic = s.traffic := by
  rw [log, traffic_record]; rfl

@[simp] theorem traffic_write (line : String) : (s.write line).traffic = s.traffic := by
  rw [write, traffic_record]; rfl

@[simp] theorem traffic_setState (state : ServerState) :
    (s.setState state).traffic = s.traffic := by
  rw [setState, traffic_record]; rfl

@[simp] theorem build_fst (plan : Blueprint) : (s.build plan).1 = ⟨s.ledger.next, plan⟩ := rfl

theorem traffic_build (plan : Blueprint) :
    (s.build plan).2.traffic = (Flow.built (s.build plan).1).apply s.traffic := by
  unfold build
  simp only [traffic_record]
  rfl

@[simp] theorem traffic_publish (m : Message) (status : ReplyStatus) :
    (s.publish m status).traffic = s.traffic.publish m status := rfl

@[simp] theorem traffic_drop (m : Message) (panicking : Bool) :
    (s.drop m panicking).traffic = s.traffic.drop m panicking := by
  rw [drop, traffic_record]; rfl

end Shared

theorem Shared.traffic_send (s : Shared) (m : Message) :
    ({ s with channel := s.channel.push m }.record (.sent m.ticket)).traffic =
      (Flow.sent m).apply s.traffic := by
  rw [traffic_record]
  simp [traffic, Event.isTraffic, Traffic.record]

theorem Rig.traffic_call (rig : Rig) (c : Call) :
    (rig.call c).2.history.events.filter Event.isTraffic =
      rig.history.events.filter Event.isTraffic := by
  unfold call
  split
  · simp [record, Event.isTraffic]
  · split
    · simp [record, Event.isTraffic]
    · split <;> simp [record, log, Event.isTraffic]

@[simp] theorem Shared.traffic_unpin (s : Shared) (buffer : Handle) :
    { s with rig := s.rig.unpinZone buffer }.traffic = s.traffic := by
  have called := s.rig.traffic_call (.releaseBuffer buffer)
  unfold Rig.unpinZone
  split <;> rename_i h <;> rw [h] at called
  · simp only [traffic, called]
  · simp [traffic, Rig.log, Rig.record, Event.isTraffic, called]

namespace Frame

/-- The messages that a frame keeps and that are neither processed nor failed. -/
def waiting : Frame → Multiset Message
  | publish _ => 0
  | f => f.owned

/-- The message of which the work runs above the frame. -/
def working : Frame → Multiset Message
  | publish m => {m}
  | _ => 0

theorem owned_of_give {given : Answer} (formed : (give given).formed) : given.owned = [] := by
  cases given with
  | received m =>
    cases m with
    | none => rfl
    | some m => cases formed
  | _ => rfl

theorem waiting_give {given : Answer} (formed : (give given).formed) :
    (give given).waiting = 0 := by
  cases given with
  | received m =>
    cases m with
    | none => rfl
    | some m => cases formed
  | _ => rfl

end Frame

theorem Flow.Links.quiet {panics : Bool} {s s' : Shared}
    {waiting waiting' working working' : Multiset Message}
    (h : s'.traffic = s.traffic) (same : waiting' = waiting) (same' : working' = working) :
    Links .quiet panics s s' waiting waiting' working working' :=
  ⟨trivial, h, by simp [same], by simp [same']⟩

/-- What is kept elsewhere does not matter. -/
theorem Flow.Links.frame {flow : Flow} {panics : Bool} {s s' : Shared}
    {waiting waiting' working working' : Multiset Message}
    (links : flow.Links panics s s' waiting waiting' working working')
    (rest rest' : Multiset Message) :
    flow.Links panics s s' (waiting + rest) (waiting' + rest) (working + rest')
      (working' + rest') where
  fits := links.fits
  traffic := links.traffic
  waiting := by rw [add_right_comm, links.waiting, add_right_comm]
  working := by rw [add_right_comm, links.working, add_right_comm]

def Script.flow (script : Script) (s : Shared) : Flow :=
  match script with
  | .enqueue plan _ | .hold plan _ => .built (s.build plan).1
  | _ => .quiet

namespace Frame

/-- What a step of the frame does to a message. -/
def flow (f : Frame) (thread : String) (answer : Answer) (s : Shared) : Flow :=
  match f with
  | run _ script _ => script.flow s
  | leave (m :: _) _ => .dropped m false
  | process m => .begun m thread
  | publish m => .worked m (match answer with
    | .worked failure => failure
    | _ => none)
  | fail m error => .returned m error
  | discard m => .dropped m false
  | enqueue m => if s.closing then .rejected m else .quiet
  | send m => if s.sealed then .rejected m else .sent m
  | drain _ | poll _ =>
    match s.channel.pop? with
    | some (m, _) => .received m
    | none => .quiet
  | submit plan => .built ⟨s.ledger.next, plan.onDevice s.robin.select.1⟩
  | _ => .quiet

/-- What a panic that reaches the frame does to a message. -/
def lossFlow : Frame → Flow
  | run _ _ (m :: _) | leave (m :: _) _ => .dropped m true
  | process m | fail m _ | discard m | enqueue m | send m => .dropped m true
  | publish m => .abandoned m
  | _ => .quiet

theorem traffic_fail {m : Message} {error : ServerError} {thread : String}
    {answer answer' : Answer} {exits : Nat → Option Exit} {s s' : Shared} {frames : List Frame}
    (h : (fail m error).step thread answer exits s = .moved s' frames answer') :
    s'.traffic = (Flow.returned m error).apply s.traffic := by
  cases moves_of_step h with
  | fails kind =>
    simp [Shared.traffic_record, Event.isTraffic, Traffic.publish, Ledger.publish,
      Message.isReply, kind]
  | failsReply =>
    rw [Shared.traffic_publish, Shared.traffic_record]
    rfl

theorem links_received {s : Shared} {m : Message} {rest : Channel}
    {waiting waiting' : Multiset Message}
    (popped : s.channel.pop? = some (m, rest)) (more : waiting' = waiting + {m}) :
    (Flow.received m).Links false s ({ s with channel := rest }.record (.received m.ticket))
      waiting waiting' 0 0 := by
  have order := Channel.toList_of_pop? popped
  refine ⟨by simp [Flow.Fits, Shared.traffic, order], ?_, by simp [more], by simp⟩
  rw [Shared.traffic_record]
  simp [Shared.traffic, Event.isTraffic, Traffic.record, order]

theorem links_rejected (s : Shared) (m : Message) :
    (Flow.rejected m).Links false s (s.record (.rejected m.ticket)) {m} {m} 0 0 :=
  ⟨trivial, s.traffic_record _, by simp, by simp⟩

section

variable {thread : String} {answer answer' : Answer} {exits : Nat → Option Exit} {s s' : Shared}
  {frames : List Frame}

abbrev Flows (f : Frame) (thread : String) (answer : Answer) (s s' : Shared) (frames : List Frame)
    (answer' : Answer) : Prop :=
  (f.flow thread answer s).Links false s s' (f.waiting + answer.owned)
    ((frames.map waiting).sum + answer'.owned) f.working (frames.map working).sum

/-- Only a frame that handles what was received goes on with a message. -/
theorem owned_of_takes {f : Frame} (takes : f.takes.Holds answer) :
    answer.owned = [] ∨ ∃ worker m, f = handle worker ∧ answer = .received (some m) := by
  cases f with
  | handle worker =>
    obtain ⟨m, rfl⟩ := takes
    cases m with
    | none => exact .inl rfl
    | some m => exact .inr ⟨worker, m, rfl, rfl⟩
  | publish =>
    obtain ⟨failure, -, rfl⟩ := takes
    exact .inl rfl
  | _ => exact .inl takes

theorem step_flow {f : Frame} (takes : f.takes.Holds answer) (formed : f.formed)
    (h : f.step thread answer exits s = .moved s' frames answer') :
    f.Flows thread answer s s' frames answer' := by
  unfold Flows
  rcases owned_of_takes takes with clear | ⟨worker, m, rfl, rfl⟩
  case inr =>
    cases h
    exact .quiet rfl (by simp [waiting, owned, Answer.owned]) (by simp [working])
  rw [clear]
  cases moves_of_step h with
  | offers | holds =>
    refine ⟨rfl, s.traffic_build _, ?_, by simp [flow, Script.flow, working]⟩
    simp [flow, Script.flow, waiting, owned, Answer.owned, ← Multiset.coe_add, add_comm]
  | leaves =>
    have clear : answer'.owned = [] := by cases answer' <;> first | rfl | cases formed
    exact .quiet rfl (by simp [waiting, owned, clear]) (by simp [working])
  | drops =>
    refine ⟨rfl, by simp [flow], ?_, by simp [flow, working]⟩
    simp [flow, waiting, owned, Answer.owned, ← Multiset.cons_coe, ← Multiset.singleton_add,
      add_comm]
  | begins kind | beginsReply kind =>
    refine ⟨trivial, ?_, by simp [flow, waiting, owned, Answer.owned],
      by simp [flow, working, Message.isReply, kind]⟩
    rw [Shared.traffic_write, Shared.traffic_record]
    rfl
  | publishes =>
    obtain ⟨failure, result, rfl⟩ := takes
    refine ⟨⟨formed, result⟩, ?_, by simp [flow, waiting, Answer.owned],
      by simp [flow, working]⟩
    cases failure <;> rfl
  | fails | failsReply =>
    exact ⟨trivial, traffic_fail h, by simp [flow, waiting, owned, Answer.owned],
      by simp [flow, working]⟩
  | discards =>
    exact ⟨rfl, by simp [flow], by simp [flow, waiting, owned, Answer.owned],
      by simp [flow, working]⟩
  | @rejects m closing =>
    rw [show flow (enqueue m) thread answer s = .rejected m from if_pos closing]
    simpa [waiting, owned, Answer.owned, working] using links_rejected s m
  | @rejectsLate m shut =>
    rw [show flow (send m) thread answer s = .rejected m from if_pos shut]
    simpa [waiting, owned, Answer.owned, working] using links_rejected s m
  | @admits m opened =>
    rw [show flow (enqueue m) thread answer s = .quiet from if_neg (by simp [opened])]
    exact .quiet rfl (by simp [waiting, owned, Answer.owned]) (by simp [working])
  | @sends m opened =>
    rw [show flow (send m) thread answer s = .sent m from if_neg (by simp [opened])]
    exact ⟨trivial, s.traffic_send m, by simp [waiting, owned, Answer.owned], by simp [working]⟩
  | @drains _ m _ popped | @receives _ m _ popped =>
    rw [show flow _ thread answer s = .received m by simp only [flow, popped]]
    exact links_received popped (by simp [waiting, owned, Answer.owned])
  | drained empty | pollsNone empty | polls empty | pollsAgain empty =>
    rw [show flow _ thread answer s = .quiet by simp only [flow, empty]]
    exact .quiet (by first | rfl | simp) (by simp [waiting, owned, Answer.owned])
      (by simp [working])
  | gives =>
    exact .quiet rfl (by simp [waiting_give formed, owned_of_give formed]) (by simp [working])
  | handles given => simp [given, Answer.owned] at clear
  | submits =>
    exact ⟨rfl, Shared.traffic_build _ (Blueprint.onDevice _ _),
      by simp [flow, waiting, owned, Answer.owned, RoundRobin.select], by simp [flow, working]⟩
  | remembers | listens =>
    exact .quiet (Shared.traffic_log _ _ _) (by simp [waiting, owned, Answer.owned])
      (by simp [working])
  | unpinned | unpins | unmaps =>
    exact .quiet (by simp [Shared.traffic_record, Event.isTraffic])
      (by simp [waiting, owned, clear]) (by simp [working])
  | _ =>
    exact .quiet (by first | rfl | simp [Shared.traffic_record, Event.isTraffic])
      (by simp [waiting, owned, Answer.owned]) (by simp [working])

end

theorem unwind_flow {f : Frame} {thread : String} {s s' : Shared} {frames : List Frame}
    {goesOn : Bool} (formed : f.formed) (h : f.unwind thread s = (s', frames, goesOn)) :
    f.lossFlow.Links true s s' f.waiting (frames.map waiting).sum f.working
      (frames.map working).sum := by
  cases f with
  | run device script held | leave held given =>
    cases held with
    | nil => cases h; exact .quiet rfl (by simp [waiting, owned]) (by simp [working])
    | cons m held =>
      cases h
      refine ⟨rfl, by simp [lossFlow], ?_, by simp [lossFlow, working]⟩
      simp [lossFlow, waiting, owned, ← Multiset.cons_coe, ← Multiset.singleton_add, add_comm]
  | publish m =>
    cases h
    exact ⟨⟨formed, rfl⟩, by simp [lossFlow], by simp [lossFlow, waiting],
      by simp [lossFlow, working]⟩
  | process m | fail m | discard m | enqueue m | send m =>
    cases h
    exact ⟨rfl, by simp [lossFlow], by simp [lossFlow, waiting, owned],
      by simp [lossFlow, working]⟩
  | guard worker desc =>
    cases h
    exact .quiet (by simp) (by simp [waiting, owned]) (by simp [working])
  | unpin buffers =>
    cases buffers <;> cases h
    all_goals exact .quiet (by simp) (by simp [waiting, owned]) (by simp [working])
  | unmap size =>
    cases h
    exact .quiet (by simp [Shared.traffic_record, Event.isTraffic]) (by simp [waiting, owned])
      (by simp [working])
  | give given =>
    cases h
    exact .quiet rfl (by simp [waiting_give formed]) (by simp [working])
  | _ =>
    cases h
    exact .quiet rfl (by simp [waiting, owned]) (by simp [working])

end Frame

namespace Thread

/-- The messages that a thread keeps and that are neither processed nor failed. -/
def waiting (thread : Thread) : Multiset Message :=
  (thread.frames.map Frame.waiting).sum + thread.answer.owned

/-- The messages that a thread works on. -/
def working (thread : Thread) : Multiset Message := (thread.frames.map Frame.working).sum

def flow (thread : Thread) (s : Shared) : Flow :=
  match thread.frames, thread.panicking with
  | [], _ => .quiet
  | f :: _, none => f.flow thread.name thread.answer s
  | f :: _, some _ => f.lossFlow

theorem Steps.links {thread thread' : Thread} {exits : Nat → Option Exit} {s s' : Shared}
    (h : thread.Steps exits s s' thread') (typed : thread.Typed) :
    (thread.flow s).Links thread.panicking.isSome s s' thread.waiting thread'.waiting
      thread.working thread'.working := by
  cases h with
  | @moved f rest frames answer s' top calm h =>
    have met := typed.met calm f (by simp [top])
    have formed := typed.formed f (by simp [top])
    have links := (Frame.step_flow met formed h).frame (rest.map Frame.waiting).sum
      (rest.map Frame.working).sum
    rw [show thread.flow s = f.flow thread.name thread.answer s by simp only [flow, top, calm]]
    simpa [waiting, working, top, calm, add_right_comm] using links
  | panicked top calm =>
    rw [show thread.flow s = .quiet by simp only [flow, top, calm]; rfl]
    exact .quiet rfl rfl rfl
  | @unwound f rest frames text s' goesOn top panics h =>
    have formed := typed.formed f (by simp [top])
    have links := (Frame.unwind_flow formed h).frame
      ((rest.map Frame.waiting).sum + thread.answer.owned) (rest.map Frame.working).sum
    rw [show thread.flow s = f.lossFlow by simp only [flow, top, panics]]
    simpa [waiting, working, top, panics, add_assoc] using links

theorem waiting_calling_one (name : String) (f : Frame) :
    (Thread.calling name [f]).waiting = f.waiting := by
  simp [waiting, Thread.calling, Answer.owned]

theorem working_calling_one (name : String) (f : Frame) :
    (Thread.calling name [f]).working = f.working := by
  simp [working, Thread.calling]

theorem waiting_calling_service (name : String) (service : Service) :
    (Thread.calling name service.frames).waiting = 0 := by
  cases service <;> simp [waiting, Thread.calling, Service.frames, Frame.waiting, Frame.owned,
    Answer.owned]

theorem working_calling_service (name : String) (service : Service) :
    (Thread.calling name service.frames).working = 0 := by
  cases service <;> simp [working, Thread.calling, Service.frames, Frame.working]

theorem waiting_of_no_frames {thread : Thread} (h : thread.frames = []) :
    thread.waiting = thread.answer.owned := by
  simp [waiting, h]

theorem working_of_no_frames {thread : Thread} (h : thread.frames = []) : thread.working = 0 := by
  simp [working, h]

end Thread

theorem sum_map_eq_zero {α β : Type} [AddCommMonoid β] {weight : α → β} {xs : List α}
    (none : ∀ x ∈ xs, weight x = 0) : (xs.map weight).sum = 0 := by
  induction xs with
  | nil => rfl
  | cons x xs ih =>
    rw [List.map_cons, List.sum_cons, none x List.mem_cons_self, zero_add]
    exact ih fun y member => none y (List.mem_cons_of_mem x member)

/-- One in the place of another changes a sum over all of them by the difference of the two. -/
theorem sum_map_set {α β : Type} [AddCommMonoid β] (weight : α → β) {xs : List α} {t : Nat} {x : α}
    (new : α) (here : xs[t]? = some x) :
    ((xs.set t new).map weight).sum + weight x = (xs.map weight).sum + weight new := by
  induction xs generalizing t with
  | nil => simp at here
  | cons first xs ih =>
    cases t with
    | zero =>
      obtain rfl : first = x := by simpa using here
      simp only [List.set_cons_zero, List.map_cons, List.sum_cons]
      abel
    | succ t =>
      have ih := ih (by simpa using here)
      simp only [List.set_cons_succ, List.map_cons, List.sum_cons, add_assoc]
      rw [ih]

theorem sum_map_le {before after : Thread → Nat} {extra : Nat} {threads : List Thread}
    (le : ∀ thread ∈ threads, after thread ≤ before thread + extra) :
    (threads.map after).sum ≤ (threads.map before).sum + extra * threads.length := by
  calc (threads.map after).sum ≤ (threads.map fun thread => before thread + extra).sum :=
        List.sum_le_sum le
    _ = (threads.map before).sum + extra * threads.length := by
        rw [List.sum_map_add, List.map_const', List.sum_replicate, Nat.nsmul_eq_mul, Nat.mul_comm]

/-- What all threads together gain is what one of them gains, and what the others may gain. -/
theorem sum_map_set_le {before after : Thread → Nat} {extra : Nat} {threads : List Thread} {t : Nat}
    {thread : Thread} (new : Thread) (here : threads[t]? = some thread)
    (le : ∀ thread ∈ threads, after thread ≤ before thread + extra) :
    ((threads.set t new).map after).sum + before thread ≤
      (threads.map before).sum + after new + extra * threads.length := by
  induction threads generalizing t with
  | nil => cases here
  | cons first threads ih =>
    obtain ⟨own, rest⟩ := List.forall_mem_cons.1 le
    simp only [List.map_cons, List.sum_cons, List.length_cons, Nat.mul_succ]
    cases t with
    | zero =>
      obtain rfl := Option.some.inj here
      have rest := sum_map_le rest
      simp only [List.set_cons_zero, List.map_cons, List.sum_cons]
      omega
    | succ t =>
      have ih := ih here rest
      simp only [List.set_cons_succ, List.map_cons, List.sum_cons]
      omega

/-- What one of them takes and gives is what all of them together do. -/
theorem sum_map_set_balance {α β : Type} [AddCancelCommMonoid β] (weight : α → β) {xs : List α}
    {t : Nat} {x new : α} {takes gives : β} (here : xs[t]? = some x)
    (h : weight new + takes = weight x + gives) :
    ((xs.set t new).map weight).sum + takes = (xs.map weight).sum + gives := by
  apply add_right_cancel (b := weight x)
  calc ((xs.set t new).map weight).sum + takes + weight x
      = ((xs.set t new).map weight).sum + weight x + takes := add_right_comm ..
    _ = (xs.map weight).sum + weight new + takes := by rw [sum_map_set weight new here]
    _ = (xs.map weight).sum + gives + weight x := by
        rw [add_assoc, h, add_comm (weight x), add_assoc]

namespace Scene

/-- The messages that callers and threads keep and that are neither processed nor failed. -/
def held (sc : Scene) : Multiset Message :=
  (sc.world.threads.map Thread.waiting).sum + sc.hands

/-- The messages that threads work on. -/
def working (sc : Scene) : Multiset Message := (sc.world.threads.map Thread.working).sum

/-- A thread begins a call, or ends one, with what its caller takes and gives. -/
theorem links_assign {w : World} (hands hands' : List Message) {t : Nat} {thread : Thread}
    {frames : List Frame} (here : thread ∈ w.threads[t]?) (none : thread.working = 0)
    (none' : (Thread.calling thread.name frames).working = 0)
    (h : (Thread.calling thread.name frames).waiting + hands' = thread.waiting + hands) :
    Flow.quiet.Links false w.shared (w.assign t frames).shared (held ⟨w, hands⟩)
      (held ⟨w.assign t frames, hands'⟩) (working ⟨w, hands⟩)
      (working ⟨w.assign t frames, hands'⟩) := by
  rw [World.assign_eq here]
  refine .quiet rfl (sum_map_set_balance _ here h) ?_
  have := sum_map_set Thread.working (.calling thread.name frames) here
  rwa [none, none', add_zero, add_zero] at this

/-- A thread takes a step. -/
theorem links_step {w : World} (hands : List Message) {t : Nat} {thread thread' : Thread}
    {s' : Shared} (here : w.threads[t]? = some thread)
    (steps : thread.Steps w.exits w.shared s' thread') (typed : thread.Typed) :
    (thread.flow w.shared).Links thread.panicking.isSome w.shared s' (held ⟨w, hands⟩)
      (held ⟨⟨s', w.threads.set t thread'⟩, hands⟩) (working ⟨w, hands⟩)
      (working ⟨⟨s', w.threads.set t thread'⟩, hands⟩) := by
  have links := steps.links typed
  refine ⟨links.fits, links.traffic, ?_, sum_map_set_balance _ here links.working⟩
  have waiting := sum_map_set_balance _ here links.waiting
  rw [held, held, add_right_comm, waiting, add_right_comm]

/-- A caller builds a message. -/
theorem links_build (w : World) (hands : List Message) (plan : Blueprint) :
    (Flow.built (w.shared.build plan).1).Links false w.shared (w.shared.build plan).2
      (held ⟨w, hands⟩)
      (held ⟨{ w with shared := (w.shared.build plan).2 }, (w.shared.build plan).1 :: hands⟩)
      (working ⟨w, hands⟩)
      (working ⟨{ w with shared := (w.shared.build plan).2 },
        (w.shared.build plan).1 :: hands⟩) := by
  refine ⟨rfl, w.shared.traffic_build plan, ?_, rfl⟩
  simp only [held, Flow.takes, Flow.gives, ← Multiset.cons_coe, ← Multiset.singleton_add]
  abel

theorem links_spill (w : World) (before after : List Message) (m : Message) (panicking : Bool) :
    (Flow.dropped m panicking).Links panicking w.shared (w.shared.drop m panicking)
      (held ⟨w, before ++ m :: after⟩)
      (held ⟨{ w with shared := w.shared.drop m panicking }, before ++ after⟩)
      (working ⟨w, before ++ m :: after⟩)
      (working ⟨{ w with shared := w.shared.drop m panicking }, before ++ after⟩) := by
  refine ⟨rfl, w.shared.traffic_drop m panicking, ?_, rfl⟩
  simp only [held, Flow.takes, Flow.gives, ← Multiset.coe_add, ← Multiset.cons_coe,
    ← Multiset.singleton_add]
  abel

/-- Every move is about at most one message. -/
theorem Move.flow {offered : Interface} {sc sc' : Scene} (h : Move offered sc sc')
    (typed : ∀ thread ∈ sc.world.threads, thread.Typed) :
    ∃ (flow : Flow) (panics : Bool), flow.Links panics sc.world.shared sc'.world.shared sc.held
      sc'.held sc.working sc'.working := by
  cases h with
  | @step w v hands t h =>
    obtain ⟨thread, thread', s', here, steps, rfl⟩ := World.steps_of_step h
    exact ⟨_, _, links_step _ here steps (typed thread (List.mem_of_getElem? here))⟩
  | start name =>
    exact ⟨.quiet, false, .quiet rfl
      (by simp [held, World.start, Thread.waiting, Thread.idle, Answer.owned])
      (by simp [working, World.start, Thread.working, Thread.idle])⟩
  | @build w hands plan _ => exact ⟨_, _, links_build w hands plan⟩
  | @spill w before after _ thread m =>
    exact ⟨_, _, links_spill w before after m thread.panicking.isSome⟩
  | call t service _ _ idle =>
    obtain ⟨thread, here, none, clear⟩ := idle
    refine ⟨.quiet, false, links_assign _ _ here (Thread.working_of_no_frames none)
      (Thread.working_calling_service _ _) ?_⟩
    rw [Thread.waiting_calling_service, Thread.waiting_of_no_frames none, clear]
    rfl
  | @use w before after t m use _ _ idle =>
    obtain ⟨thread, here, none, clear⟩ := idle
    refine ⟨.quiet, false, links_assign _ _ here (Thread.working_of_no_frames none) ?_ ?_⟩
    · rw [Thread.working_calling_one]
      cases use <;> rfl
    · -- The message goes from the hands to the frame.
      have waits : (use.frame m).waiting = {m} := by cases use <;> rfl
      rw [Thread.waiting_calling_one, Thread.waiting_of_no_frames none, clear, waits,
        ← Multiset.coe_add, ← Multiset.coe_add, ← Multiset.cons_coe, ← Multiset.singleton_add]
      simp only [Multiset.coe_nil]
      abel
  | @take w hands t m given =>
    obtain ⟨thread, here, none, answer⟩ := given
    refine ⟨.quiet, false, links_assign _ _ here (Thread.working_of_no_frames none) rfl ?_⟩
    rw [Thread.waiting_of_no_frames none, answer, Thread.waiting_of_no_frames rfl]
    simp [Thread.calling, Answer.owned]
  | expire t ticket waits _ =>
    obtain ⟨thread, here, frames⟩ := waits
    refine ⟨.quiet, false,
      links_assign _ _ here (by simp [Thread.working, frames, Frame.working]) rfl ?_⟩
    have typed := typed thread (List.mem_of_getElem? here)
    have clear : thread.answer.owned = [] := by
      cases panics : thread.panicking with
      | none => exact typed.met panics (.awaitReply ticket) (by simp [frames])
      | some text => exact (typed.cut (by simp [panics])).1
    have none : thread.waiting = 0 := by rw [Thread.waiting, clear, frames]; rfl
    rw [none, Thread.waiting_of_no_frames rfl]
    rfl
  | signal signal => exact ⟨.quiet, false, .quiet rfl rfl rfl⟩

end Scene

end DispatchServer
