import DispatchServer.Proofs.Forest
import DispatchServer.Proofs.Stages

/-! Threads of a server at work on a queue that stays open, with messages that only enqueue others.
Each step of such a thread is told apart by what it does with a message, and lowers what is left to
do, whatever the other threads do. -/
namespace DispatchServer

namespace Shared

/-- The queue is open, and the token is not cancelled. -/
structure Attended (s : Shared) : Prop where
  closing : s.closing = false
  sealed : s.sealed = false
  cancelled : s.cancelled = false
  woken : s.woken = false

/-- What the events tell, in their order. -/
def told {α : Type} (tell : Event → Option α) (s : Shared) : List α :=
  s.rig.history.events.filterMap tell

@[simp] theorem told_record {α : Type} (tell : Event → Option α) (s : Shared) (event : Event) :
    (s.record event).told tell = s.told tell ++ (tell event).toList := by
  simp only [told, record, Rig.record, History.events_record, List.filterMap_append]
  cases h : tell event <;> simp [h]

end Shared

theorem Channel.isEmpty_iff (channel : Channel) : channel.isEmpty = true ↔ channel.toList = [] := by
  rw [isEmpty, decide_eq_true_iff, ← length_toList, List.length_eq_zero_iff]

/-- What a step does with a message. Of all that can happen to messages, only this does as long as
the queue is open and nothing is held or failed. -/
inductive Deed
  | calm
  | received (m : Message)
  | begun (m : Message)
  | built (m : Message)
  | sent (m : Message)

namespace Deed

@[simp] def receives : Deed → List Message
  | received m => [m]
  | _ => []

@[simp] def begins : Deed → List Message
  | begun m => [m]
  | _ => []

@[simp] def builds : Deed → List Message
  | built m => [m]
  | _ => []

@[simp] def sends : Deed → List Message
  | sent m => [m]
  | _ => []

/-- What all threads see of the deed. -/
structure Alters (deed : Deed) (s s' : Shared) : Prop where
  attended : s'.Attended
  channel : deed.receives ++ s'.channel.toList = s.channel.toList ++ deed.sends
  next : s'.ledger.next = s.ledger.next + deed.builds.length
  fresh : ∀ m ∈ deed.builds, m.ticket = s.ledger.next
  begun : s'.told Event.begun? = s.told Event.begun? ++ deed.begins.map Message.ticket
  returned : s'.told Event.returned? = s.told Event.returned?

variable {s s' : Shared}

theorem Alters.same (attended : s.Attended) : calm.Alters s s :=
  ⟨attended, (List.append_nil _).symm, rfl, by simp, (List.append_nil _).symm, rfl⟩

/-- Events that are about something else, and what producers are told, are no matter. -/
theorem Alters.record {deed : Deed} (alters : deed.Alters s s') {event : Event} {ledger : Ledger}
    (next : ledger.next = s'.ledger.next) (begun : event.begun? = none)
    (returned : event.returned? = none) :
    deed.Alters s ({ s' with ledger := ledger }.record event) where
  attended := ⟨alters.attended.closing, alters.attended.sealed, alters.attended.cancelled,
    alters.attended.woken⟩
  channel := alters.channel
  next := next.trans alters.next
  fresh := alters.fresh
  begun := by
    rw [Shared.told_record, begun, ← alters.begun]
    exact List.append_nil _
  returned := by
    rw [Shared.told_record, returned, ← alters.returned]
    exact List.append_nil _

theorem Alters.write {deed : Deed} (alters : deed.Alters s s') (line : String) :
    deed.Alters s (s'.write line) :=
  alters.record rfl rfl rfl

/-- A message enters the channel or leaves it. -/
theorem Alters.moved {deed : Deed} (attended : s.Attended) {channel : Channel} {event : Event}
    (parts : deed.receives ++ channel.toList = s.channel.toList ++ deed.sends)
    (kept : deed.builds = [] ∧ deed.begins = [])
    (other : event.begun? = none ∧ event.returned? = none) :
    deed.Alters s ({ s with channel := channel }.record event) where
  attended := ⟨attended.closing, attended.sealed, attended.cancelled, attended.woken⟩
  channel := parts
  next := by rw [kept.1]; rfl
  fresh m new := by
    rw [kept.1] at new
    cases new
  begun := by
    rw [Shared.told_record, other.1, kept.2]
    rfl
  returned := by
    rw [Shared.told_record, other.2]
    exact List.append_nil _

theorem Alters.publish (attended : s.Attended) (m : Message) (status : ReplyStatus) :
    calm.Alters s (s.publish m status) :=
  ⟨⟨attended.closing, attended.sealed, attended.cancelled, attended.woken⟩,
    (List.append_nil _).symm, Ledger.next_publish .., by simp, (List.append_nil _).symm,
    rfl⟩

end Deed

namespace Frame

/-- The message that the frame is about to begin. -/
@[simp] def due : Frame → List Message
  | process m => [m]
  | _ => []

/-- The message that the frame is about to send. -/
@[simp] def built : Frame → List Message
  | enqueue m | send m => [m]
  | _ => []

@[simp] def coming : Frame → List Blueprint
  | run _ script _ => script.enqueued
  | enqueue m | send m => [m.plan]
  | _ => []

end Frame

namespace Answer

@[simp] theorem owned_done : done.owned = [] := rfl

@[simp] theorem owned_accepted : accepted.owned = [] := rfl

@[simp] theorem owned_worked (failure : Option String) : (worked failure).owned = [] := rfl

@[simp] theorem owned_received (m : Message) : (received (some m)).owned = [m] := rfl

end Answer

namespace Thread

variable (thread : Thread)

/-- The message that the thread has received and not begun. -/
def due : List Message := thread.answer.owned ++ thread.frames.flatMap Frame.due

def built : List Message := thread.frames.flatMap Frame.built

def coming : List Blueprint := thread.frames.flatMap Frame.coming

/-- No message is on its way through the thread, and none will come of what it does. -/
structure Bare : Prop where
  due : thread.due = []
  built : thread.built = []
  coming : thread.coming = []

/-- The message that the thread begins with its next step. -/
def beginning : List Message :=
  match thread.frames, thread.panicking with
  | .process m :: _, none => [m]
  | _, _ => []

theorem Bare.of_idles {thread : Thread} (idles : thread.idles) : thread.Bare := by
  obtain ⟨none, free⟩ := idles
  constructor <;> simp [Thread.due, Thread.built, Thread.coming, none, free]

end Thread

/-- What the thread itself sees of its deed. -/
structure Deed.Turns (deed : Deed) (thread thread' : Thread) : Prop where
  begins : thread.beginning = deed.begins
  due : deed.begins ++ thread'.due = thread.due ++ deed.receives
  built : deed.sends ++ thread'.built = thread.built ++ deed.builds
  coming : deed.sends.map Message.plan ++ thread'.coming =
    thread.coming ++ deed.begins.flatMap (·.plan.children)
  alone : deed.begins ≠ [] → thread.coming = []
  busy : thread'.frames ≠ []

/-! The steps that are left. A message has to be paid for when it is sent, and again by everybody
whom it can wake for nothing. -/

mutual

def Script.cost (threads : Nat) : Script → Nat
  | .done | .fault _ | .panic _ => 2
  | .act _ next => next.cost threads + 1
  | .enqueue message next => message.cost threads + 3 * threads + 4 + next.cost threads
  | .hold _ next => next.cost threads

def Blueprint.cost (threads : Nat) : Blueprint → Nat
  | .mk _ _ _ _ process _ => process.cost threads + 12

end

theorem Blueprint.cost_eq (threads : Nat) (plan : Blueprint) :
    plan.cost threads = plan.process.cost threads + 12 := by
  cases plan
  rw [cost, process]

/-- What a frame costs. Whoever waits while there are messages is about to look for them. -/
def Frame.cost (threads : Nat) (empty : Bool) : Frame → Nat
  | run _ script _ => script.cost threads
  | process m => m.plan.process.cost threads + 3
  | enqueue m => m.plan.cost threads + 3 * threads + 2
  | send m => m.plan.cost threads + 3 * threads + 1
  | leave .. | noteEnqueue _ | publish _ | handle _ => 1
  | guard .. => 9
  | serve _ => 7
  | dequeue => 5
  | poll first => if first then 4 else 3
  | heed => if empty then 3 else 6
  | await => if empty then 2 else 5
  | park => if empty then 1 else 4
  | _ => 0

def Message.costs (threads : Nat) (messages : List Message) : Nat :=
  (messages.map (·.plan.cost threads)).sum

@[simp] theorem Message.costs_nil (threads : Nat) : Message.costs threads [] = 0 := rfl

@[simp] theorem Message.costs_cons (threads : Nat) (m : Message) (messages : List Message) :
    Message.costs threads (m :: messages) =
      m.plan.cost threads + Message.costs threads messages := rfl

@[simp] theorem Message.costs_append (threads : Nat) (messages messages' : List Message) :
    Message.costs threads (messages ++ messages') =
      Message.costs threads messages + Message.costs threads messages' := by
  simp [costs]

def Thread.cost (threads : Nat) (empty : Bool) (thread : Thread) : Nat :=
  (thread.frames.map (Frame.cost threads empty)).sum + Message.costs threads thread.answer.owned +
    if thread.panicking = none then 1 else 0

/-- What lies below a script of a message. -/
inductive Frame.Below : List Frame → Prop
  | guard {worker : Nat} {desc : String} : Below [.guard worker desc]
  | publish {m : Message} {worker : Nat} {desc : String} : Below [.publish m, .guard worker desc]

namespace Frame.Below

variable {below : List Frame} (base : Below below)
include base

theorem due : below.flatMap Frame.due = [] := by cases base <;> rfl

theorem built : below.flatMap Frame.built = [] := by cases base <;> rfl

theorem coming : below.flatMap Frame.coming = [] := by cases base <;> rfl

theorem ne_nil : below ≠ [] := by cases base <;> simp

theorem cost_le (threads : Nat) (empty : Bool) : (below.map (cost threads empty)).sum ≤ 10 := by
  cases base <;> simp [cost]

theorem cost_eq (threads : Nat) (empty empty' : Bool) :
    (below.map (cost threads empty)).sum = (below.map (cost threads empty')).sum := by
  cases base <;> rfl

end Frame.Below

namespace Thread

/-- Where a thread can be while it works on such messages: outside of any call, or at some place in
its loop. -/
inductive Toils : Thread → Prop
  | away {thread : Thread} (idles : thread.idles) : Toils thread
  | serves {name : String} {worker : Nat} : Toils ⟨name, [.serve worker], .done, none⟩
  | awaits {name : String} {f : Frame} {worker : Nat} (awaits : f.awaits) :
      Toils ⟨name, [f, .handle worker], .done, none⟩
  | given {name : String} {worker : Nat} {m : Message} (steady : m.plan.steady) :
      Toils ⟨name, [.handle worker], .received (some m), none⟩
  | begins {name : String} {worker : Nat} {desc : String} {m : Message} (steady : m.plan.steady) :
      Toils ⟨name, [.process m, .guard worker desc], .done, none⟩
  | runs {name : String} {device : Option Nat} {script : Script} {below : List Frame}
      (steady : script.steady) (base : Frame.Below below) :
      Toils ⟨name, .run device script [] :: below, .done, none⟩
  | offers {name label : String} {m : Message} {device : Option Nat} {script : Script}
      {below : List Frame} (new : m.plan.steady) (steady : script.steady)
      (base : Frame.Below below) : Toils ⟨name,
        .enqueue m :: .noteEnqueue label :: .run device script [] :: below, .done, none⟩
  | sends {name label : String} {m : Message} {device : Option Nat} {script : Script}
      {below : List Frame} (new : m.plan.steady) (steady : script.steady)
      (base : Frame.Below below) : Toils ⟨name,
        .send m :: .noteEnqueue label :: .run device script [] :: below, .done, none⟩
  | notes {name label : String} {device : Option Nat} {script : Script} {below : List Frame}
      (steady : script.steady) (base : Frame.Below below) : Toils ⟨name,
        .noteEnqueue label :: .run device script [] :: below, .accepted, none⟩
  | leaves {name : String} {failure : Option String} {below : List Frame}
      (base : Frame.Below below) :
      Toils ⟨name, .leave [] (.worked failure) :: below, .done, none⟩
  | ends {name : String} {answer : Answer} {below : List Frame} (base : Frame.Below below)
      (bare : answer.owned = []) : Toils ⟨name, below, answer, none⟩
  | panics {name text : String} {device : Option Nat} {below : List Frame}
      (base : Frame.Below below) :
      Toils ⟨name, .run device (.panic text) [] :: below, .done, some text⟩
  | unwinds {name text : String} {below : List Frame} (base : Frame.Below below) :
      Toils ⟨name, below, .done, some text⟩

end Thread

/-- What a step of a thread comes to. -/
structure Deed.Done (deed : Deed) (s s' : Shared) (thread thread' : Thread) : Prop where
  toils : thread'.Toils
  alters : deed.Alters s s'
  turns : deed.Turns thread thread'
  steady : ∀ m ∈ deed.sends, m.plan.steady
  cost : ∀ threads, thread'.cost threads s'.channel.isEmpty +
      Message.costs threads s'.channel.toList + 3 * threads * deed.sends.length <
    thread.cost threads s.channel.isEmpty + Message.costs threads s.channel.toList

namespace Deed

variable {s s' : Shared} {thread thread' : Thread}

theorem Turns.calm (begins : thread.beginning = []) (due : thread'.due = thread.due)
    (built : thread'.built = thread.built) (coming : thread'.coming = thread.coming)
    (busy : thread'.frames ≠ []) : Deed.calm.Turns thread thread' where
  begins := begins
  due := due.trans (List.append_nil _).symm
  built := built.trans (List.append_nil _).symm
  coming := coming.trans (List.append_nil _).symm
  alone none := absurd rfl none
  busy := busy

theorem Done.still {deed : Deed} (toils : thread'.Toils) (alters : deed.Alters s s')
    (turns : deed.Turns thread thread') (none : deed.sends = []) (channel : s'.channel = s.channel)
    (cost : ∀ threads,
      thread'.cost threads s.channel.isEmpty < thread.cost threads s.channel.isEmpty) :
    deed.Done s s' thread thread' where
  toils := toils
  alters := alters
  turns := turns
  steady m new := by
    rw [none] at new
    cases new
  cost threads := by
    have less := cost threads
    rw [channel, none, List.length_nil]
    omega

theorem Done.calm (toils : thread'.Toils) (alters : Deed.calm.Alters s s')
    (channel : s'.channel = s.channel) (turns : Deed.calm.Turns thread thread')
    (cost : ∀ threads,
      thread'.cost threads s.channel.isEmpty < thread.cost threads s.channel.isEmpty) :
    Deed.calm.Done s s' thread thread' :=
  .still toils alters turns rfl channel cost

end Deed

namespace Thread

variable {name : String} {worker : Nat} {thread' : Thread} {s s' : Shared}
  {exits : Nat → Option Exit}

theorem bare_of_awaits (name : String) (worker : Nat) (answer : Answer) {f : Frame}
    (awaits : f.awaits) :
    (⟨name, [f, .handle worker], answer, none⟩ : Thread).beginning = [] ∧
    (⟨name, [f, .handle worker], answer, none⟩ : Thread).due = answer.owned ∧
    (⟨name, [f, .handle worker], answer, none⟩ : Thread).built = [] ∧
    (⟨name, [f, .handle worker], answer, none⟩ : Thread).coming = [] := by
  cases f <;> first | exact ⟨rfl, List.append_nil _, rfl, rfl⟩ | cases awaits

/-- Whoever waits for a message gets the oldest, or goes to sleep if there is none. -/
theorem done_of_awaits {f : Frame} (awaits : f.awaits)
    (steps : Steps ⟨name, [f, .handle worker], .done, none⟩ exits s s' thread')
    (attended : s.Attended) (steady : ∀ m ∈ s.channel.toList, m.plan.steady) :
    ∃ deed : Deed, deed.Done s s' ⟨name, [f, .handle worker], .done, none⟩ thread' := by
  obtain ⟨frames, answer', h, rfl⟩ := steps.of_calm (by rintro _ _ _ rfl; cases awaits)
  obtain ⟨begins, due, built, coming⟩ := bare_of_awaits name worker .done awaits
  have calm (g : Frame) (awaits' : g.awaits) (less : ∀ threads,
      g.cost threads s.channel.isEmpty < f.cost threads s.channel.isEmpty) :
      Deed.calm.Done s s ⟨name, [f, .handle worker], .done, none⟩
        ⟨name, [g, .handle worker], .done, none⟩ := by
    obtain ⟨-, due', built', coming'⟩ := bare_of_awaits name worker .done awaits'
    refine .calm (.awaits awaits') (.same attended) rfl (.calm begins (due'.trans due.symm)
      (built'.trans built.symm) (coming'.trans coming.symm) (by simp)) fun threads => ?_
    have less := less threads
    simp only [cost, List.map_cons, List.sum_cons]
    omega
  cases Frame.moves_of_step h with
  | dequeues => exact ⟨.calm, calm _ rfl fun _ => by simp [Frame.cost]⟩
  | @receives first m rest popped =>
    have queue := Channel.toList_of_pop? popped
    refine ⟨.received m, .given (steady m (by simp [queue])),
      .moved attended ?_ ⟨rfl, rfl⟩ ⟨rfl, rfl⟩,
      ⟨begins, ?_, ?_, ?_, fun none => absurd rfl none, by simp⟩, by simp,
      fun threads => ?_⟩
    · rw [queue]
      exact (List.append_nil _).symm
    · rw [due]
      rfl
    · rw [built]
      rfl
    · rw [coming]
      rfl
    · simp only [Shared.record, queue, Message.costs_cons]
      cases first <;> simp [cost, Frame.cost, Deed.sends] <;> omega
  | polls none | pollsAgain none =>
    have empty := s.channel.isEmpty_iff.2 ((Channel.pop?_eq_none_iff _).1 none)
    exact ⟨.calm, calm _ rfl fun _ => by simp [Frame.cost, empty]⟩
  | heeds | awaits =>
    refine ⟨.calm, calm _ rfl fun _ => ?_⟩
    simp only [Frame.cost]
    split <;> omega
  | rises news =>
    have news : s.channel.isEmpty = false := by
      simpa [attended.sealed, attended.woken] using news
    exact ⟨.calm, calm _ rfl fun _ => by simp [Frame.cost, news]⟩
  -- Nobody leaves as long as the token is not cancelled and the channel is open.
  | dequeuesNone cancelled | heedsNone cancelled => simp [attended.cancelled] at cancelled
  | pollsNone _ shut => simp [attended.sealed] at shut
  | awaitsNone woken => simp [attended.woken] at woken
  | _ => cases awaits

/-- A script goes on, builds a message, or comes to its end. -/
theorem done_of_runs {device : Option Nat} {script : Script} {below : List Frame}
    (quiet : script.steady) (base : Frame.Below below)
    (steps : Steps ⟨name, .run device script [] :: below, .done, none⟩ exits s s' thread')
    (attended : s.Attended) :
    ∃ deed : Deed, deed.Done s s' ⟨name, .run device script [] :: below, .done, none⟩ thread' := by
  cases script with
  | panic text =>
    cases steps with
    | moved top _ h =>
      obtain ⟨rfl, rfl⟩ := List.cons.inj top
      cases h
    | panicked top =>
      obtain ⟨same, rfl⟩ := List.cons.inj top
      cases same
      exact ⟨.calm, .calm (.panics base) (.same attended) rfl (.calm rfl rfl rfl rfl (by simp))
        fun threads => by simp [cost]⟩
    | unwound _ panics => cases panics
  | done | fault chain =>
    obtain ⟨frames, answer', h, rfl⟩ := steps.of_calm (by simp)
    cases h
    exact ⟨.calm, .calm (.leaves base) (.same attended) rfl (.calm rfl rfl rfl rfl (by simp))
      fun threads => by simp [cost, Frame.cost, Script.cost]⟩
  | act action next =>
    obtain ⟨frames, answer', h, rfl⟩ := steps.of_calm (by simp)
    rw [Script.steady, Bool.and_eq_true] at quiet
    have writes : ∃ line, action.perform name device s = (s.write line, []) := by
      cases action with
      | close | cancel | shutdown => cases quiet.1
      | _ => exact ⟨_, rfl⟩
    obtain ⟨line, writes⟩ := writes
    simp only [Frame.step, Script.step, writes] at h
    cases h
    exact ⟨.calm, .calm (.runs quiet.2 base) ((Deed.Alters.same attended).write line) rfl
      (.calm rfl rfl rfl rfl (by simp)) fun threads => by simp [cost, Frame.cost, Script.cost]⟩
  | enqueue plan next =>
    obtain ⟨frames, answer', h, rfl⟩ := steps.of_calm (by simp)
    rw [Script.steady, Bool.and_eq_true] at quiet
    cases h
    have built : (Deed.built ⟨s.ledger.next, plan⟩).Alters s (s.build plan).2 :=
      ⟨⟨attended.closing, attended.sealed, attended.cancelled, attended.woken⟩,
        (List.append_nil _).symm, s.ledger.next_issue plan, by simp,
        Shared.told_record .., (Shared.told_record ..).trans (List.append_nil _)⟩
    refine ⟨.built ⟨s.ledger.next, plan⟩, .still (.offers quiet.1 quiet.2 base) built
      ⟨rfl, by simp [due], by simp [Thread.built, base.built],
        by simp [Thread.coming, Script.enqueued], fun none => absurd rfl none, by simp⟩
      rfl rfl fun threads => ?_⟩
    simp [cost, Frame.cost, Script.cost]
    omega
  | hold => cases quiet

/-- A message begins with its script. -/
theorem done_of_begins {m : Message} {desc : String} (new : m.plan.steady)
    (steps : Steps ⟨name, [.process m, .guard worker desc], .done, none⟩ exits s s' thread')
    (attended : s.Attended) : ∃ deed : Deed,
      deed.Done s s' ⟨name, [.process m, .guard worker desc], .done, none⟩ thread' := by
  obtain ⟨frames, answer', h, rfl⟩ := steps.of_calm (by simp)
  have begun : (Deed.begun m).Alters s (s.record (.begun m.ticket m.plan.device name)) :=
    ⟨⟨attended.closing, attended.sealed, attended.cancelled, attended.woken⟩,
      (List.append_nil _).symm, rfl, by simp, Shared.told_record ..,
      (Shared.told_record ..).trans (List.append_nil _)⟩
  have base : ∃ below : List Frame, Frame.Below below ∧ answer' = .done ∧
      s' = (s.record (.begun m.ticket m.plan.device name)).write (processedLine m) ∧
      frames ++ [.guard worker desc] =
        .run (some m.plan.device) m.plan.process [] :: below := by
    cases kind : m.plan.kind <;> simp only [Frame.step, kind] at h <;> cases h
    · exact ⟨_, .guard, rfl, rfl, rfl⟩
    · exact ⟨_, .publish, rfl, rfl, rfl⟩
  obtain ⟨below, base, rfl, rfl, frames⟩ := base
  rw [frames]
  refine ⟨.begun m, .still (.runs (Blueprint.steady_process new) base) (begun.write _)
    ⟨rfl, by simp [due, base.due], by simp [Thread.built, base.built],
      by simp [Thread.coming, base.coming, Blueprint.children], fun _ => rfl, by simp⟩
    rfl rfl fun threads => ?_⟩
  have bound := base.cost_le threads s.channel.isEmpty
  simp [cost, Frame.cost]
  omega

theorem done_of_offers {label : String} {m : Message} {device : Option Nat} {script : Script}
    {below : List Frame} (new : m.plan.steady) (quiet : script.steady) (base : Frame.Below below)
    (steps : Steps
      ⟨name, .enqueue m :: .noteEnqueue label :: .run device script [] :: below, .done, none⟩
      exits s s' thread') (attended : s.Attended) : ∃ deed : Deed, deed.Done s s'
      ⟨name, .enqueue m :: .noteEnqueue label :: .run device script [] :: below, .done, none⟩
      thread' := by
  obtain ⟨frames, answer', h, rfl⟩ := steps.of_calm (by simp)
  simp only [Frame.step, attended.closing, Bool.false_eq_true, if_false] at h
  cases h
  exact ⟨.calm, .calm (.sends new quiet base) (.same attended) rfl
    (.calm rfl rfl rfl rfl (by simp)) fun threads => by simp [cost, Frame.cost]⟩

/-- A message enters the channel. -/
theorem done_of_sends {label : String} {m : Message} {device : Option Nat} {script : Script}
    {below : List Frame} (new : m.plan.steady) (quiet : script.steady) (base : Frame.Below below)
    (steps : Steps
      ⟨name, .send m :: .noteEnqueue label :: .run device script [] :: below, .done, none⟩
      exits s s' thread') (attended : s.Attended) : ∃ deed : Deed, deed.Done s s'
      ⟨name, .send m :: .noteEnqueue label :: .run device script [] :: below, .done, none⟩
      thread' := by
  obtain ⟨frames, answer', h, rfl⟩ := steps.of_calm (by simp)
  simp only [Frame.step] at h
  rw [if_neg (by simp [attended.sealed])] at h
  cases h
  refine ⟨.sent m, .notes quiet base, .moved attended (by simp) ⟨rfl, rfl⟩ ⟨rfl, rfl⟩,
    ⟨rfl, by simp [due], by simp [Thread.built, base.built],
      by simp [Thread.coming], fun none => absurd rfl none, by simp⟩,
    by simpa using new, fun threads => ?_⟩
  have same := base.cost_eq threads (s.channel.push m).isEmpty s.channel.isEmpty
  simp [cost, Frame.cost, Shared.record, same]
  omega

/-- The message is over: its reply is published, if there is one, and the guard is left. -/
theorem done_of_ends {answer : Answer} {below : List Frame} (base : Frame.Below below)
    (bare : answer.owned = []) (steps : Steps ⟨name, below, answer, none⟩ exits s s' thread')
    (attended : s.Attended) :
    ∃ deed : Deed, deed.Done s s' ⟨name, below, answer, none⟩ thread' := by
  cases base with
  | guard =>
    obtain ⟨frames, answer', h, rfl⟩ := steps.of_calm (by simp)
    cases h
    exact ⟨.calm, .calm .serves (.same attended) rfl
      (.calm rfl (by simp [due, bare]) rfl rfl (by simp))
      fun threads => by simp [cost, Frame.cost, bare]⟩
  | publish =>
    obtain ⟨frames, answer', h, rfl⟩ := steps.of_calm (by simp)
    cases h
    exact ⟨.calm, .calm (.ends .guard rfl) (.publish attended _ _) rfl
      (.calm rfl (by simp [due, bare]) rfl rfl (by simp))
      fun threads => by simp [cost, Frame.cost, bare]⟩

theorem done_of_unwinds {text : String} {below : List Frame} (base : Frame.Below below)
    (steps : Steps ⟨name, below, .done, some text⟩ exits s s' thread') (attended : s.Attended) :
    ∃ deed : Deed, deed.Done s s' ⟨name, below, .done, some text⟩ thread' := by
  cases base with
  | guard =>
    obtain ⟨frames, goesOn, h, rfl⟩ := steps.of_panicking
    cases h
    exact ⟨.calm, .calm .serves ((Deed.Alters.same attended).record rfl rfl rfl) rfl
      (.calm rfl rfl rfl rfl (by simp)) fun threads => by simp [cost, Frame.cost]⟩
  | publish =>
    obtain ⟨frames, goesOn, h, rfl⟩ := steps.of_panicking
    cases h
    exact ⟨.calm, .calm (.unwinds .guard)
      ((Deed.Alters.same attended).record (s.ledger.next_drop _ _) rfl rfl) rfl
      (.calm rfl rfl rfl rfl (by simp)) fun threads => by simp [cost, Frame.cost]⟩

/-- As long as the queue is open, every step of a thread at work is a deed with a message, or none
at all, and leaves less to do. -/
theorem Toils.step {thread : Thread} (toils : thread.Toils)
    (steps : thread.Steps exits s s' thread')
    (attended : s.Attended) (steady : ∀ m ∈ s.channel.toList, m.plan.steady) :
    ∃ deed : Deed, deed.Done s s' thread thread' := by
  cases toils with
  | away idles => exact absurd idles.1 steps.busy
  | serves =>
    obtain ⟨frames, answer', h, rfl⟩ := steps.of_calm (by simp)
    simp only [Frame.step, attended.cancelled, Bool.false_eq_true, if_false] at h
    cases h
    exact ⟨.calm, .calm (.awaits rfl) (.same attended) rfl (.calm rfl rfl rfl rfl (by simp))
      fun threads => by simp [cost, Frame.cost]⟩
  | awaits awaits => exact done_of_awaits awaits steps attended steady
  | given new =>
    obtain ⟨frames, answer', h, rfl⟩ := steps.of_calm (by simp)
    cases h
    refine ⟨.calm, .calm (.begins new) (.same attended) rfl (.calm rfl rfl rfl rfl (by simp))
      fun threads => ?_⟩
    simp [cost, Frame.cost, Blueprint.cost_eq]
  | begins new => exact done_of_begins new steps attended
  | runs quiet base => exact done_of_runs quiet base steps attended
  | offers new quiet base => exact done_of_offers new quiet base steps attended
  | sends new quiet base => exact done_of_sends new quiet base steps attended
  | notes quiet base =>
    obtain ⟨frames, answer', h, rfl⟩ := steps.of_calm (by simp)
    cases h
    exact ⟨.calm, .calm (.runs quiet base) ((Deed.Alters.same attended).write _) rfl
      (.calm rfl rfl rfl rfl (by simp)) fun threads => by simp [cost, Frame.cost]⟩
  | leaves base =>
    obtain ⟨frames, answer', h, rfl⟩ := steps.of_calm (by simp)
    cases h
    exact ⟨.calm, .calm (.ends base rfl) (.same attended) rfl
      (.calm rfl rfl rfl rfl base.ne_nil) fun threads => by simp [cost, Frame.cost]⟩
  | ends base bare => exact done_of_ends base bare steps attended
  | panics base =>
    obtain ⟨frames, goesOn, h, rfl⟩ := steps.of_panicking
    cases h
    exact ⟨.calm, .calm (.unwinds base) (.same attended) rfl (.calm rfl rfl rfl rfl base.ne_nil)
      fun threads => by simp [cost, Frame.cost, Script.cost]⟩
  | unwinds base => exact done_of_unwinds base steps attended

theorem cost_le_of_empty (threads : Nat) (thread : Thread) :
    thread.cost threads true ≤ thread.cost threads false := by
  have frames : (thread.frames.map (Frame.cost threads true)).sum ≤
      (thread.frames.map (Frame.cost threads false)).sum :=
    List.sum_le_sum fun f _ => by cases f <;> simp [Frame.cost]
  unfold cost
  omega

theorem Toils.cost_le {thread : Thread} (toils : thread.Toils) (threads : Nat) :
    thread.cost threads false ≤ thread.cost threads true + 3 := by
  cases toils with
  | away idles => simp [cost, idles.1]
  | @awaits name f worker => cases f <;> simp [cost, Frame.cost]
  | runs _ base | offers _ _ base | sends _ _ base | notes _ base | leaves base | ends base
  | panics base | unwinds base =>
    simp [cost, Frame.cost, base.cost_eq threads false true]
  | _ => simp [cost, Frame.cost]

end Thread

/-- Only a message that is sent gives the others something to do. -/
theorem Deed.Done.others {deed : Deed} {s s' : Shared} {thread thread' other : Thread}
    (done : deed.Done s s' thread thread') (toils : other.Toils) (threads : Nat) :
    other.cost threads s'.channel.isEmpty ≤
      other.cost threads s.channel.isEmpty + 3 * deed.sends.length := by
  have less := other.cost_le_of_empty threads
  have more := toils.cost_le threads
  have parts := done.alters.channel
  cases deed with
  | sent m =>
    rw [sends, List.length_singleton]
    cases s.channel.isEmpty <;> cases s'.channel.isEmpty <;> omega
  | _ =>
    have kept : s.channel.isEmpty = true → s'.channel.isEmpty = true := by
      rw [Channel.isEmpty_iff, Channel.isEmpty_iff]
      intro none
      simp_all
    cases before : s.channel.isEmpty <;> cases after : s'.channel.isEmpty <;> simp_all

end DispatchServer
