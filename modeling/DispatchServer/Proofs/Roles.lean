import DispatchServer.Proofs.Closing

/-! What the server's own threads do, and what all others can do with it. Others never receive a
message and never begin one; neither of them closes the queue, and they fail a message with no other
error than that it is closed. -/
namespace DispatchServer

theorem Blueprint.confined_onDevice {plan : Blueprint} (h : plan.confined) (device : Nat) :
    (plan.onDevice device).confined := by
  cases plan
  simpa [onDevice, Blueprint.confined] using h

theorem Blueprint.confined_process {plan : Blueprint} (h : plan.confined) :
    plan.process.confined := by
  cases plan
  simp only [Blueprint.confined, Bool.and_eq_true] at h
  exact h.1

theorem Blueprint.confined_fail {plan : Blueprint} (h : plan.confined) : plan.fail.confined := by
  cases plan
  simp only [Blueprint.confined, Bool.and_eq_true] at h
  exact h.2

namespace Flow

/-- The message of which the processing begins. -/
@[simp] def begins : Flow → Multiset Message
  | begun m _ => {m}
  | _ => 0

@[simp] def receives : Flow → Multiset Message
  | received m => {m}
  | _ => 0

/-- What a thread may do to messages if it is the server's thread of this name, or none of its
threads. -/
def Fair (server : Option String) : Flow → Prop
  | built m => m.plan.confined
  | returned _ error => error = .queueClosed
  | begun _ thread => server = some thread
  | _ => True

theorem Fair.serving {flow : Flow} (fair : flow.Fair none) (name : String) :
    flow.Fair (some name) := by
  cases flow with
  | begun m thread => cases fair
  | _ => exact fair

theorem Fair.begins_eq_zero {flow : Flow} (fair : flow.Fair none) : flow.begins = 0 := by
  cases flow with
  | begun m thread => cases fair
  | _ => rfl

end Flow

namespace Frame

def produces : Frame → Bool
  | run _ script _ => script.confined
  | fail _ .queueClosed => true
  | submit plan | produce plan .. | produced plan .. => plan.confined
  | leave .. | noteEnqueue _ | noteShutdown | discard _ | enqueue _ | send _ | reject | cancel
  | wake | request _ | remember _ | give (.flag _) | listen | awaitReply _ | select
  | submitted _ => true
  | _ => false

def attends : Frame → Bool
  | process _ | publish _ | serve _ | handle _ | guard .. | dequeue | poll _ | heed | await
  | park => true
  | _ => false

def Serves (f : Frame) : Prop := f.attends ∨ f.produces

theorem Serves.shutting {f : Frame} (own : f.Serves) : f.shutting = 0 := by
  cases f <;> first | rfl | simp [Serves, attends, produces] at own

theorem Serves.draining {f : Frame} (own : f.Serves) : f.draining = 0 := by
  cases f <;> first | rfl | simp [Serves, attends, produces] at own

/-- The message that the frame has received and is about to begin. -/
def taken : Frame → Multiset Message
  | process m => {m}
  | _ => 0

/-- The frame neither waits for a message nor gives one, and is not about to begin or publish one.
-/
structure Aloof (f : Frame) : Prop where
  takes : f.takes = .plain
  yields : f.yields.Suits .plain
  taken : f.taken = 0
  working : f.working = 0

theorem aloof_of_produces {f : Frame} (own : f.produces) : f.Aloof := by
  cases f with
  | run device script held => exact ⟨rfl, .worked _, rfl, rfl⟩
  | leave held given =>
    refine ⟨rfl, ?_, rfl, rfl⟩
    cases given with
    | worked failure => exact .worked _
    | _ => exact .refl _
  | _ => first | exact ⟨rfl, .refl _, rfl, rfl⟩ | cases own

variable {f : Frame} {thread : String} {answer answer' : Answer} {exits : Nat → Option Exit}
  {s s' : Shared} {frames : List Frame} {goesOn : Bool}

theorem step_produces (own : f.produces) (confined : ∀ m ∈ f.waiting, m.plan.confined)
    (h : f.step thread answer exits s = .moved s' frames answer') : ∀ g ∈ frames, g.produces := by
  cases moves_of_step h with
  | finishes | faults | acts | callsClose | callsCancel | callsShutdown | offers | holds | produces
  | notesDevice =>
    simp_all [produces, Script.confined, Action.confined]
  | @fails m error _ =>
    cases error <;> try cases own
    simp [produces, Blueprint.confined_fail (confined m (by simp [waiting, owned]))]
  | leaves | drops | notesEnqueue | notesCancel | notesShutdown | passesShutdown | failsReply
  | discards | rejects | admits | rejectsLate | sends | refuses | cancels | wakes | requests
  | requestsLate | remembers | gives | listens | awaitsNoReply | awaitsReply | selects | submits
  | submitted | submittedLate | produced =>
    simp [produces]
  | _ => cases own

theorem unwind_produces (own : f.produces) (h : f.unwind thread s = (s', frames, goesOn)) :
    ∀ g ∈ frames, g.produces := by
  cases f with
  | run device script held => cases held <;> cases h <;> simp_all [produces]
  | leave held given => cases held <;> cases h <;> simp [produces]
  | guard | unpin => cases own
  | _ => cases h; simp

theorem step_serves (own : f.Serves) (confined : ∀ m ∈ f.waiting, m.plan.confined)
    (h : f.step thread answer exits s = .moved s' frames answer') : ∀ g ∈ frames, g.Serves := by
  rcases own with own | own
  · cases moves_of_step h with
    | @begins m | @beginsReply m =>
      have scripts := Blueprint.confined_process (confined m (by simp [waiting, owned]))
      simp [Serves, attends, produces, scripts]
    | publishes | quits | serves | handles | handlesNone | guards | dequeuesNone | dequeues
    | receives | pollsNone | polls | pollsAgain | heedsNone | heeds | awaitsNone | awaits | rises =>
      simp [Serves, attends]
    | _ => cases own
  · exact fun g member => .inr (step_produces own confined h g member)

theorem unwind_serves (own : f.Serves) (h : f.unwind thread s = (s', frames, goesOn)) :
    ∀ g ∈ frames, g.Serves := by
  rcases own with own | own
  · cases f with
    | guard worker desc => cases h; simp [Serves, attends]
    | process | publish | serve | handle | dequeue | poll | heed | await | park => cases h; simp
    | _ => cases own
  · exact fun g member => .inr (unwind_produces own h g member)

theorem flow_fair_of_produces (own : f.produces) : (f.flow thread answer s).Fair none := by
  cases f with
  | run device script held =>
    cases script <;> simp_all [produces, flow, Script.flow, Flow.Fair, Script.confined]
  | leave held given => cases held <;> trivial
  | fail m error =>
    cases error <;> try cases own
    exact (rfl : ServerError.queueClosed = .queueClosed)
  | enqueue | send => simp only [flow]; split <;> trivial
  | submit plan => exact Blueprint.confined_onDevice own _
  | process | publish | drain | poll => cases own
  | _ => trivial

theorem receives_of_produces (own : f.produces) : (f.flow thread answer s).receives = 0 := by
  cases f with
  | run device script held => cases script <;> rfl
  | leave held given => cases held <;> rfl
  | enqueue | send => simp only [flow]; split <;> rfl
  | drain | poll => cases own
  | _ => rfl

theorem flow_fair_of_serves (own : f.Serves) :
    (f.flow thread answer s).Fair (some thread) := by
  rcases own with own | own
  · cases f with
    | process m => rfl
    | poll first => simp only [flow]; split <;> simp [Flow.Fair]
    | publish | serve | handle | guard | dequeue | heed | await | park => trivial
    | _ => cases own
  · exact (flow_fair_of_produces own).serving thread

/-- A panic only loses messages. -/
theorem lossFlow_fair (f : Frame) : f.lossFlow.Fair none := by
  cases f with
  | run device script held => cases held <;> trivial
  | leave held given => cases held <;> trivial
  | _ => trivial

theorem receives_of_lossFlow (f : Frame) : f.lossFlow.receives = 0 := by
  cases f with
  | run device script held => cases held <;> rfl
  | leave held given => cases held <;> rfl
  | _ => rfl

/-- A producer is given no message. -/
theorem owned_of_produces (own : f.produces) (takes : f.takes.Holds answer) (formed : f.formed)
    (confined : ∀ m ∈ f.waiting, m.plan.confined)
    (h : f.step thread answer exits s = .moved s' frames answer') : answer'.owned = [] := by
  cases step_leads takes formed h with
  | ends holds => exact (aloof_of_produces own).yields _ holds
  | goesOn takes' =>
    have own := step_produces own confined h _ List.mem_cons_self
    rw [(aloof_of_produces own).takes] at takes'
    exact takes'

/-- What a server's thread has received it begins. -/
theorem step_taken (own : f.Serves) (takes : f.takes.Holds answer) (formed : f.formed)
    (confined : ∀ m ∈ f.waiting, m.plan.confined)
    (h : f.step thread answer exits s = .moved s' frames answer') :
    (frames.map taken).sum + answer'.owned + (f.flow thread answer s).begins =
      f.taken + answer.owned + (f.flow thread answer s).receives := by
  rcases own with own | own
  · cases moves_of_step h with
    | publishes =>
      obtain ⟨failure, -, rfl⟩ := takes
      simp [taken, flow, Answer.owned]
    | handles given => simp [taken, flow, given, Answer.owned]
    | handlesNone none =>
      obtain ⟨m, rfl⟩ := takes
      cases m with
      | none => simp [taken, flow, Answer.owned]
      | some m => exact absurd rfl (none m)
    | receives popped | pollsNone popped | polls popped | pollsAgain popped =>
      rw [show answer.owned = [] from takes]
      simp [taken, flow, popped, Answer.owned]
    | begins | beginsReply | quits | serves | guards | dequeuesNone | dequeues | heedsNone | heeds
    | awaitsNone | awaits | rises =>
      rw [show answer.owned = [] from takes]
      simp [taken, flow, Answer.owned]
    | _ => cases own
  · -- Whoever produces neither receives nor begins.
    have fair := @flow_fair_of_produces f thread answer s own
    have none : (frames.map taken).sum = 0 := sum_map_eq_zero fun g here =>
      (aloof_of_produces (step_produces own confined h g here)).taken
    have aloof := aloof_of_produces own
    have clear : answer.owned = [] := by rwa [aloof.takes] at takes
    rw [none, aloof.taken, owned_of_produces own takes formed confined h, clear,
      fair.begins_eq_zero, receives_of_produces own]

theorem unwind_taken (own : f.Serves) (brief : f.brief = false)
    (h : f.unwind thread s = (s', frames, goesOn)) :
    f.taken = 0 ∧ (frames.map taken).sum = 0 := by
  cases f with
  | process m => cases brief
  | run device script held => cases held <;> cases h <;> exact ⟨rfl, rfl⟩
  | leave held given => cases held <;> cases h <;> exact ⟨rfl, rfl⟩
  | unpin => simp [Serves, attends, produces] at own
  | _ => cases h; exact ⟨rfl, rfl⟩

/-- Only the end of the server stops it. -/
theorem step_state (h : f.step thread answer exits s = .moved s' frames answer')
    (goesOn : f ≠ .stop) (state : s.state ≠ .stopped) : s'.state ≠ .stopped := by
  cases moves_of_step h with
  | requests => exact ServerState.noConfusion
  | stops | stopsAgain => exact absurd rfl goesOn
  | _ => exact state

theorem unwind_state (h : f.unwind thread s = (s', frames, goesOn)) : s'.state = s.state := by
  cases f with
  | run device script held => cases held <;> cases h <;> rfl
  | leave held given => cases held <;> cases h <;> rfl
  | unpin buffers => cases buffers <;> cases h <;> rfl
  | _ => cases h; rfl

end Frame

/-- What only the end of a server changes. -/
structure Shared.Kept (s s' : Shared) : Prop where
  closing : s'.closing = s.closing
  sealed : s'.sealed = s.sealed
  empty : s.sealed = true → s.channel.toList = [] → s'.channel.toList = []
  state : s.state ≠ .stopped → s'.state ≠ .stopped

/-- The queue is open, and the server has not been stopped. -/
structure Shared.Opened (s : Shared) : Prop where
  closing : s.closing = false
  sealed : s.sealed = false
  state : s.state ≠ .stopped

theorem Shared.Opened.kept {s s' : Shared} (opened : s.Opened) (kept : s.Kept s') : s'.Opened :=
  ⟨kept.closing.trans opened.closing, kept.sealed.trans opened.sealed, kept.state opened.state⟩

namespace Thread

def Produces (thread : Thread) : Prop := ∀ f ∈ thread.frames, f.produces

def Serves (thread : Thread) : Prop := ∀ f ∈ thread.frames, f.Serves

/-- The messages that the thread has received and not yet begun. -/
def taken (thread : Thread) : Multiset Message :=
  (thread.frames.map Frame.taken).sum + thread.answer.owned

def based (thread : Thread) : Thread := { thread with frames := thread.frames ++ [.reject] }

/-- The thread ends with no message. -/
def Rooted (thread : Thread) : Prop := thread.based.Typed

variable {thread thread' : Thread} {exits : Nat → Option Exit} {s s' : Shared}

theorem Produces.serves (own : thread.Produces) : thread.Serves :=
  fun f member => .inr (own f member)

/-- The messages of a frame are those of its thread. -/
theorem waiting_of_mem {f : Frame} {m : Message} (member : f ∈ thread.frames)
    (here : m ∈ f.waiting) : m ∈ thread.waiting := by
  obtain ⟨above, below, frames⟩ := List.append_of_mem member
  simp [waiting, frames, here]

theorem Steps.name (steps : thread.Steps exits s s' thread') : thread'.name = thread.name := by
  cases steps <;> rfl

theorem Steps.based (steps : thread.Steps exits s s' thread') :
    thread.based.Steps exits s s' thread'.based := by
  unfold Thread.based
  cases steps with
  | moved top calm h =>
    rw [List.append_assoc]
    exact .moved (by simp [top]) calm h
  | panicked top calm => exact .panicked (by simp only [top, List.cons_append]; rfl) calm
  | unwound top panics h =>
    rw [List.append_assoc]
    exact .unwound (by simp [top]) panics h

theorem Rooted.step (rooted : thread.Rooted) (steps : thread.Steps exits s s' thread') :
    thread'.Rooted :=
  Typed.step rooted steps.based

/-- Frames that wait for no message have got none. -/
theorem Rooted.clear (rooted : thread.Rooted) (plain : ∀ f ∈ thread.frames, f.takes = .plain) :
    thread.answer.owned = [] := by
  cases panics : thread.panicking with
  | some text => exact (rooted.cut (by simp [based, panics])).1
  | none =>
    have met := rooted.met panics
    cases top : thread.frames with
    | nil => exact met .reject (by simp [based, top])
    | cons f rest =>
      have holds : f.takes.Holds thread.answer := met f (by simp [based, top])
      rwa [plain f (by simp [top])] at holds

theorem Rooted.calling_one {name : String} {f : Frame} (formed : f.formed) (aloof : f.Aloof) :
    (Thread.calling name [f]).Rooted where
  formed := by simpa [based, calling] using ⟨formed, rfl⟩
  chained := .cons_cons ⟨aloof.yields, rfl⟩ (.singleton _)
  met := by simp [based, calling, aloof.takes, AnswerKind.Holds, Answer.owned]
  cut := by simp [based, calling]

theorem Rooted.idle (name : String) : (Thread.idle name).Rooted where
  formed := by simp [based, Thread.idle, Frame.formed]
  chained := .singleton _
  met := by simp [based, Thread.idle, Frame.takes, AnswerKind.Holds, Answer.owned]
  cut := by simp [based, Thread.idle]

theorem taken_of_aloof (rooted : thread.Rooted) (aloof : ∀ f ∈ thread.frames, f.Aloof) :
    thread.taken = 0 := by
  have frames : (thread.frames.map Frame.taken).sum = 0 :=
    sum_map_eq_zero fun f here => (aloof f here).taken
  rw [taken, frames, rooted.clear fun f member => (aloof f member).takes]
  rfl

theorem working_of_aloof (aloof : ∀ f ∈ thread.frames, f.Aloof) : thread.working = 0 :=
  sum_map_eq_zero fun f here => (aloof f here).working

/-- What a step and a panic make of every frame of a kind, the thread's frames stay. -/
theorem Steps.all {kind : Frame → Prop} (steps : thread.Steps exits s s' thread')
    (goesOn : ∀ {f answer s' frames answer'}, f ∈ thread.frames → kind f →
      f.step thread.name answer exits s = .moved s' frames answer' → ∀ g ∈ frames, kind g)
    (unwinds : ∀ {f s' frames goesOn}, kind f → f.unwind thread.name s = (s', frames, goesOn) →
      ∀ g ∈ frames, kind g)
    (all : ∀ f ∈ thread.frames, kind f) : ∀ f ∈ thread'.frames, kind f := by
  cases steps with
  | @moved f rest frames answer s' top calm h =>
    intro g member
    have here : f ∈ thread.frames := by simp [top]
    rcases List.mem_append.1 member with member | member
    · exact goesOn here (all f here) h g member
    · exact all g (by simp [top, member])
  | panicked => exact all
  | @unwound f rest frames text s' goesOn top panics h =>
    intro g member
    rcases List.mem_append.1 member with member | member
    · exact unwinds (all f (by simp [top])) h g member
    · exact all g (by simp [top, member])

variable (steps : thread.Steps exits s s' thread')
  (confined : ∀ m ∈ thread.waiting, m.plan.confined)
include steps

include confined in
theorem Steps.produces (own : thread.Produces) : thread'.Produces :=
  steps.all (fun here own h => Frame.step_produces own
      (fun m member => confined m (waiting_of_mem here member)) h)
    (fun own h => Frame.unwind_produces own h) own

include confined in
theorem Steps.serves (own : thread.Serves) : thread'.Serves :=
  steps.all (fun here own h => Frame.step_serves own
      (fun m member => confined m (waiting_of_mem here member)) h)
    (fun own h => Frame.unwind_serves own h) own

omit steps in
theorem flow_fair_of_produces (own : thread.Produces) (s : Shared) :
    (thread.flow s).Fair none := by
  unfold flow
  split
  · trivial
  · rename_i f rest top calm
    exact Frame.flow_fair_of_produces (own f (by simp [top]))
  · exact Frame.lossFlow_fair _

omit steps in
theorem flow_fair_of_serves (own : thread.Serves) (s : Shared) :
    (thread.flow s).Fair (some thread.name) := by
  unfold flow
  split
  · trivial
  · rename_i f rest top calm
    exact Frame.flow_fair_of_serves (own f (by simp [top]))
  · exact (Frame.lossFlow_fair _).serving _

include confined in
theorem Steps.taken (typed : thread.Typed) (own : thread.Serves) :
    thread'.taken + (thread.flow s).begins = thread.taken + (thread.flow s).receives := by
  cases steps with
  | @moved f rest frames answer s' top calm h =>
    have here : f ∈ thread.frames := by simp [top]
    have taken := Frame.step_taken (own f here) (typed.met calm f (by simp [top]))
      (typed.formed f here) (fun m member => confined m (waiting_of_mem here member)) h
    rw [show thread.flow s = f.flow thread.name thread.answer s by simp only [flow, top, calm]]
    simp only [Thread.taken, top, List.map_append, List.map_cons, List.sum_append, List.sum_cons]
    rw [add_right_comm _ (rest.map Frame.taken).sum, add_right_comm _ (rest.map Frame.taken).sum,
      taken]
    abel
  | panicked top calm =>
    rw [show thread.flow s = .quiet by simp only [flow, top, calm]; rfl]
    rfl
  | @unwound f rest frames text s' goesOn top panics h =>
    have brief := (typed.cut (by simp [panics])).2 f (by simp [top])
    obtain ⟨none, none'⟩ := Frame.unwind_taken (own f (by simp [top])) brief h
    have fair := f.lossFlow_fair
    rw [show thread.flow s = f.lossFlow by simp only [flow, top, panics], fair.begins_eq_zero,
      f.receives_of_lossFlow]
    simp [Thread.taken, top, none, none']

theorem Steps.kept (typed : thread.Typed) (own : thread.Serves) (own' : thread'.Serves) :
    s.Kept s' := by
  have gate {thread : Thread} (own : thread.Serves) :
      thread.shutting = 0 ∧ thread.draining = 0 :=
    ⟨sum_map_eq_zero fun f here => (own f here).shutting,
      sum_map_eq_zero fun f here => (own f here).draining⟩
  have state : s.state ≠ .stopped → s'.state ≠ .stopped := by
    cases steps with
    | @moved f rest frames answer s' top calm h =>
      have own := own f (by simp [top])
      exact Frame.step_state h (by rintro rfl; rcases own with own | own <;> cases own)
    | panicked => exact id
    | unwound top panics h =>
      rw [Frame.unwind_state h]
      exact id
  obtain ⟨shutting, draining⟩ := gate own
  obtain ⟨shutting', draining'⟩ := gate own'
  cases steps.turn typed with
  | stays closing sealed empty => exact ⟨closing, sealed, empty, state⟩
  | swaps => omega
  | shuts => omega
  | empties => omega
  | cut => omega

end Thread

end DispatchServer
