import DispatchServer.Daemon
import DispatchServer.Proofs.Lifecycle
import DispatchServer.Proofs.Limits

/-! A server that is given no messages, and the threads around it: one takes the signals that come
in, the server's own wait for messages, and the main thread waits for the end. In whatever order
they take their steps, they come to rest, and once there was a signal they are all gone then. -/
namespace DispatchServer

theorem Channel.isEmpty_of_pop? {channel : Channel} (h : channel.pop? = none) :
    channel.isEmpty = true := by
  have none := (channel.pop?_eq_none_iff).1 h
  simp [isEmpty, ← channel.length_toList, none]

namespace Shared

structure Untouched (s : Shared) : Prop where
  state : s.state = .running
  reason : s.reason = none
  cancelled : s.cancelled = false
  woken : s.woken = false

/-- The shutdown was requested for this reason, and whoever waits for messages was told. -/
structure Halted (s : Shared) (reason : ShutdownReason) : Prop where
  state : s.state ≠ .running
  reason : s.reason = some reason
  cancelled : s.cancelled = true
  woken : s.woken = true

/-- What no step takes back as long as there are no messages. -/
structure Passes (s s' : Shared) : Prop where
  empty : s.channel.pop? = none → s'.channel.pop? = none
  sealed : s.sealed = true → s'.sealed = true
  cancelled : s.cancelled = true → s'.cancelled = true
  woken : s.woken = true → s'.woken = true
  signals : s'.signals.length ≤ s.signals.length

theorem Passes.refl (s : Shared) : s.Passes s := ⟨id, id, id, id, Nat.le_refl _⟩

theorem Passes.trans {a b c : Shared} (first : a.Passes b) (second : b.Passes c) : a.Passes c where
  empty := second.empty ∘ first.empty
  sealed := second.sealed ∘ first.sealed
  cancelled := second.cancelled ∘ first.cancelled
  woken := second.woken ∘ first.woken
  signals := second.signals.trans first.signals

structure Hears (s s' : Shared) : Prop extends s.Passes s' where
  gate : s'.sealed = s.sealed
  host : s'.rig.host = s.rig.host
  faults : s'.rig.faults = s.rig.faults

theorem Hears.refl (s : Shared) : s.Hears s := ⟨.refl s, rfl, rfl, rfl⟩

/-- The end of the server has no effect on the coordinator or the token but that the server is
stopped. -/
structure Winds (s s' : Shared) : Prop where
  channel : s'.channel = s.channel
  reason : s'.reason = s.reason
  cancelled : s'.cancelled = s.cancelled
  woken : s'.woken = s.woken
  signals : s'.signals = s.signals
  state : s'.state = .running ↔ s.state = .running
  sealed : s.sealed = true → s'.sealed = true
  shut : s'.sealed = true → s.sealed = true ∨ s.cancelled = true
  faults : s'.rig.faults = s.rig.faults

theorem Winds.refl (s : Shared) : s.Winds s := ⟨rfl, rfl, rfl, rfl, rfl, .rfl, id, .inl, rfl⟩

theorem Winds.record (s : Shared) (event : Event) : s.Winds (s.record event) :=
  ⟨rfl, rfl, rfl, rfl, rfl, .rfl, id, .inl, rfl⟩

theorem Winds.passes {s s' : Shared} (winds : s.Winds s') : s.Passes s' where
  empty := by rw [winds.channel]; exact id
  sealed := winds.sealed
  cancelled := by rw [winds.cancelled]; exact id
  woken := by rw [winds.woken]; exact id
  signals := by rw [winds.signals]

end Shared

namespace Frame

variable (s : Shared)

def toll : Frame → Nat
  | listen => 8 * s.signals.length
  | request _ => 5
  | cancel | handle _ => 2
  | remember _ | wake | give _ | drain _ | tally _ | report .. | unmap _ => 1
  | serve _ => if s.cancelled then 1 else 12
  | dequeue => 9
  | poll first => if first then 8 else 4
  | heed => 7
  | await => if s.woken then 3 else 6
  | park | stop => 5
  | join pending _ => pending.length + 1
  | close => 3
  | closeChannel => 2
  | unpin buffers => buffers.length + 1
  | _ => 0

def tolls (frames : List Frame) : Nat := (frames.map (toll s)).sum

@[simp] theorem tolls_nil : tolls s [] = 0 := rfl

@[simp] theorem tolls_cons (f : Frame) (frames : List Frame) :
    tolls s (f :: frames) = f.toll s + tolls s frames := List.sum_cons

@[simp] theorem tolls_append (above below : List Frame) :
    tolls s (above ++ below) = tolls s above + tolls s below := by
  simp [tolls]

variable {s} {s' : Shared}

theorem toll_mono (passes : s.Passes s') (f : Frame) : f.toll s' ≤ f.toll s := by
  cases f with
  | listen => exact Nat.mul_le_mul_left 8 passes.signals
  | serve worker =>
    have kept := passes.cancelled
    simp only [toll]
    split <;> split <;> simp_all
  | await =>
    have kept := passes.woken
    simp only [toll]
    split <;> split <;> simp_all
  | _ => exact Nat.le_refl _

theorem tolls_mono (passes : s.Passes s') (frames : List Frame) :
    tolls s' frames ≤ tolls s frames :=
  List.sum_le_sum fun f _ => toll_mono passes f

theorem toll_le_work (f : Frame) (deaf : f ≠ .listen) : f.toll s ≤ f.work := by
  cases f with
  | listen => exact absurd rfl deaf
  | join | unpin => simp [toll, work, operationWork]
  | serve | poll | await =>
    simp only [toll, work, operationWork]
    split <;> omega
  | _ => simp [toll, work, operationWork]

end Frame

inductive Frame.Repeats : List Frame → Prop
  | listens : Repeats [.listen]
  | requests (reason : ShutdownReason) : Repeats [.request reason, .listen]
  | cancels (given : Answer) : Repeats [.cancel, .give given, .listen]
  | wakes (given : Answer) : Repeats [.wake, .give given, .listen]
  | gives (given : Answer) : Repeats [.give given, .listen]

/-- The listener takes the next signal, and touches nothing else. -/
structure Frame.Takes (signal : Signal) (s s' : Shared) (frames : List Frame) : Prop where
  frames : frames = [.request signal.reason, .listen]
  signals : s.signals = signal :: s'.signals
  hears : s.Hears s'
  state : s'.state = s.state
  reason : s'.reason = s.reason
  cancelled : s'.cancelled = s.cancelled
  woken : s'.woken = s.woken

theorem Frame.takes_of_listen {name : String} {answer answer' : Answer}
    {exits : Nat → Option Exit} {s s' : Shared} {frames : List Frame}
    (h : Frame.listen.step name answer exits s = .moved s' frames answer') :
    ∃ signal, Takes signal s s' frames := by
  cases moves_of_step h with
  | @listens signal _ signals =>
    refine ⟨signal, rfl, signals, ⟨⟨id, id, id, id, ?_⟩, rfl, rfl, rfl⟩, rfl, rfl, rfl, rfl⟩
    rw [signals]
    exact Nat.le_succ _

theorem Frame.Takes.tolls_lt {signal : Signal} {s s' : Shared} {frames : List Frame}
    (takes : Takes signal s s' frames) : tolls s' (frames ++ []) < tolls s [.listen] := by
  have signals := takes.signals
  rw [takes.frames]
  simp [toll, signals]
  omega

/-- How far the listener has come with the signals it has taken. -/
inductive Listens (s : Shared) : List Signal → List Frame → Prop
  | waits (untouched : s.Untouched) : Listens s [] [.listen]
  | requests {first : Signal} (untouched : s.Untouched) :
      Listens s [first] [.request first.reason, .listen]
  | remembers {first : Signal} {given : Answer} (state : s.state ≠ .running)
      (reason : s.reason = none) (cancelled : s.cancelled = false) (woken : s.woken = false) :
      Listens s [first] [.remember first.reason, .cancel, .give given, .listen]
  | cancels {first : Signal} {given : Answer} (state : s.state ≠ .running)
      (reason : s.reason = some first.reason) (cancelled : s.cancelled = false)
      (woken : s.woken = false) : Listens s [first] [.cancel, .give given, .listen]
  | wakes {first : Signal} {given : Answer} (state : s.state ≠ .running)
      (reason : s.reason = some first.reason) (cancelled : s.cancelled = true) :
      Listens s [first] [.wake, .give given, .listen]
  | repeats {first : Signal} {later : List Signal} {frames : List Frame}
      (halted : s.Halted first.reason) (repeats : Frame.Repeats frames) :
      Listens s (first :: later) frames

namespace Listens

variable {s s' : Shared} {heard : List Signal} {frames : List Frame}

theorem cancelled_of_woken (listens : Listens s heard frames) (woken : s.woken = true) :
    s.cancelled = true := by
  cases listens with
  | waits untouched | requests untouched => simp [untouched.woken] at woken
  | remembers _ _ _ asleep | cancels _ _ _ asleep => simp [asleep] at woken
  | wakes _ _ cancelled => exact cancelled
  | repeats halted => exact halted.cancelled

theorem reason_of_cancelled (listens : Listens s heard frames) (cancelled : s.cancelled = true) :
    s.state ≠ .running ∧ ∃ first ∈ heard.head?, s.reason = some first.reason := by
  cases listens with
  | waits untouched | requests untouched => simp [untouched.cancelled] at cancelled
  | remembers _ _ calm | cancels _ _ calm => simp [calm] at cancelled
  | wakes state reason => exact ⟨state, _, rfl, reason⟩
  | repeats halted => exact ⟨halted.state, _, rfl, halted.reason⟩

theorem aside (listens : Listens s heard frames) (state : s'.state = .running ↔ s.state = .running)
    (reason : s'.reason = s.reason) (cancelled : s'.cancelled = s.cancelled)
    (woken : s'.woken = s.woken) : Listens s' heard frames := by
  have untouched (old : s.Untouched) : s'.Untouched :=
    ⟨state.2 old.state, reason.trans old.reason, cancelled.trans old.cancelled,
      woken.trans old.woken⟩
  cases listens with
  | waits old => exact .waits (untouched old)
  | requests old => exact .requests (untouched old)
  | remembers left none calm asleep =>
    exact .remembers (mt state.1 left) (reason.trans none) (cancelled.trans calm)
      (woken.trans asleep)
  | cancels left some calm asleep =>
    exact .cancels (mt state.1 left) (reason.trans some) (cancelled.trans calm) (woken.trans asleep)
  | wakes left some set => exact .wakes (mt state.1 left) (reason.trans some) (cancelled.trans set)
  | repeats old again =>
    exact .repeats ⟨mt state.1 old.state, reason.trans old.reason, cancelled.trans old.cancelled,
      woken.trans old.woken⟩ again

/-- A signal that is not the first one makes no difference. -/
theorem repeats_step {name : String} {answer : Answer} {exits : Nat → Option Exit}
    {thread' : Thread} {reason : ShutdownReason} (repeats : Frame.Repeats frames)
    (halted : s.Halted reason)
    (steps : (Thread.mk name frames answer none).Steps exits s s' thread') :
    ∃ taken, taken ++ s'.signals = s.signals ∧ s'.Halted reason ∧
      Frame.Repeats thread'.frames ∧ thread'.panicking = none ∧ s.Hears s' ∧
      Frame.tolls s' thread'.frames < Frame.tolls s frames := by
  obtain ⟨left, reason, cancelled, woken⟩ := halted
  cases repeats with
  | listens =>
    obtain ⟨frames, answer', h, rfl⟩ := steps.of_calm (by simp)
    obtain ⟨signal, takes⟩ := Frame.takes_of_listen h
    have less := takes.tolls_lt
    obtain ⟨rfl, signals, hears, state, reason', cancelled', woken'⟩ := takes
    exact ⟨[signal], signals.symm, ⟨by rwa [state], reason'.trans reason,
      cancelled'.trans cancelled, woken'.trans woken⟩, .requests _, rfl, hears, less⟩
  | requests other =>
    obtain ⟨frames, answer', h, rfl⟩ := steps.of_calm (by simp)
    cases state : s.state with
    | running => exact absurd state left
    | shuttingDown | stopped =>
      simp only [Frame.step, state] at h
      cases h
      exact ⟨[], rfl, ⟨left, reason, cancelled, woken⟩, .cancels _, rfl, .refl _,
        by simp [Frame.toll]; omega⟩
  | cancels given =>
    obtain ⟨frames, answer', h, rfl⟩ := steps.of_calm (by simp)
    cases h
    exact ⟨[], rfl, ⟨left, reason, rfl, woken⟩, .wakes _, rfl,
      ⟨⟨id, id, fun _ => rfl, id, Nat.le_refl _⟩, rfl, rfl, rfl⟩, by simp [Frame.toll]⟩
  | wakes given =>
    obtain ⟨frames, answer', h, rfl⟩ := steps.of_calm (by simp)
    cases h
    exact ⟨[], rfl, ⟨left, reason, cancelled, rfl⟩, .gives _, rfl,
      ⟨⟨id, id, id, fun _ => rfl, Nat.le_refl _⟩, rfl, rfl, rfl⟩, by simp [Frame.toll]⟩
  | gives given =>
    obtain ⟨frames, answer', h, rfl⟩ := steps.of_calm (by simp)
    cases h
    exact ⟨[], rfl, ⟨left, reason, cancelled, woken⟩, .listens, rfl, .refl _,
      by simp [Frame.toll]⟩

/-- The listener takes one signal after the other, and only the first makes a difference. -/
theorem step {name : String} {answer : Answer} {exits : Nat → Option Exit} {thread' : Thread}
    (listens : Listens s heard frames)
    (steps : (Thread.mk name frames answer none).Steps exits s s' thread') :
    ∃ taken, taken ++ s'.signals = s.signals ∧ Listens s' (heard ++ taken) thread'.frames ∧
      thread'.panicking = none ∧ s.Hears s' ∧
      Frame.tolls s' thread'.frames < Frame.tolls s frames := by
  cases listens with
  | waits untouched =>
    obtain ⟨frames, answer', h, rfl⟩ := steps.of_calm (by simp)
    obtain ⟨signal, takes⟩ := Frame.takes_of_listen h
    have less := takes.tolls_lt
    obtain ⟨rfl, signals, hears, state, reason, cancelled, woken⟩ := takes
    exact ⟨[signal], signals.symm, .requests ⟨state.trans untouched.state,
      reason.trans untouched.reason, cancelled.trans untouched.cancelled,
      woken.trans untouched.woken⟩, rfl, hears, less⟩
  | requests untouched =>
    obtain ⟨frames, answer', h, rfl⟩ := steps.of_calm (by simp)
    simp only [Frame.step, untouched.state] at h
    cases h
    refine ⟨[], rfl, .remembers (by simp [Shared.setState, Shared.record]) untouched.reason
      untouched.cancelled untouched.woken, rfl,
      ⟨⟨id, id, id, id, Nat.le_refl _⟩, rfl, rfl, rfl⟩, ?_⟩
    simp [Frame.toll, Shared.setState, Shared.record]
    omega
  | @remembers first given state reason cancelled woken =>
    obtain ⟨frames, answer', h, rfl⟩ := steps.of_calm (by simp)
    cases h
    refine ⟨[], rfl, .cancels state ?_ cancelled woken, rfl, ⟨⟨id, id, id, id, Nat.le_refl _⟩, rfl,
      rfl, rfl⟩, ?_⟩
    · show s.reason.or (some first.reason) = some first.reason
      rw [reason]
      rfl
    · simp [Frame.toll, Shared.log, Shared.record]
  | cancels state reason =>
    obtain ⟨frames, answer', h, rfl⟩ := steps.of_calm (by simp)
    cases h
    exact ⟨[], rfl, .wakes state reason rfl, rfl,
      ⟨⟨id, id, fun _ => rfl, id, Nat.le_refl _⟩, rfl, rfl, rfl⟩, by simp [Frame.toll]⟩
  | wakes state reason cancelled =>
    obtain ⟨frames, answer', h, rfl⟩ := steps.of_calm (by simp)
    cases h
    exact ⟨[], rfl, .repeats ⟨state, reason, cancelled, rfl⟩ (.gives _), rfl,
      ⟨⟨id, id, id, fun _ => rfl, Nat.le_refl _⟩, rfl, rfl, rfl⟩, by simp [Frame.toll]⟩
  | @repeats first later frames halted repeats =>
    obtain ⟨taken, signals, halted, repeats, calm, hears, less⟩ := repeats_step repeats halted steps
    exact ⟨taken, signals, .repeats halted repeats, calm, hears, less⟩

end Listens

namespace Thread

/-- The thread is in its loop and has never been given a message, or has left the loop. -/
inductive Rests (s : Shared) : Thread → Prop
  | serves {name : String} {worker : Nat} {answer : Answer} :
      Rests s ⟨name, [.serve worker], answer, none⟩
  | awaits {name : String} {f : Frame} {worker : Nat} {answer : Answer} (awaits : f.awaits)
      (again : f = .poll false → s.sealed = true ∨ s.woken = true) :
      Rests s ⟨name, [f, .handle worker], answer, none⟩
  | handles {name : String} {worker : Nat} (cancelled : s.cancelled = true) :
      Rests s ⟨name, [.handle worker], .received none, none⟩
  | gone {thread : Thread} (none : thread.frames = []) (cancelled : s.cancelled = true) :
      Rests s thread

variable {s s' : Shared} {thread thread' : Thread} {exits : Nat → Option Exit}

theorem Rests.mono (rests : thread.Rests s) (passes : s.Passes s') : thread.Rests s' := by
  cases rests with
  | serves => exact .serves
  | awaits awaits again =>
    exact .awaits awaits fun same => (again same).imp passes.sealed passes.woken
  | handles cancelled => exact .handles (passes.cancelled cancelled)
  | gone none cancelled => exact .gone none (passes.cancelled cancelled)

/-- Whoever waits for a message that does not come goes to sleep, or is told that none will. -/
theorem rests_of_awaits {name : String} {f : Frame} {worker : Nat} {answer : Answer}
    (awaits : f.awaits) (again : f = .poll false → s.sealed = true ∨ s.woken = true)
    (steps : Steps ⟨name, [f, .handle worker], answer, none⟩ exits s s' thread')
    (empty : s.channel.pop? = none)
    (told : s.sealed = true ∨ s.woken = true → s.cancelled = true) :
    s' = s ∧ thread'.Rests s ∧
      Frame.tolls s thread'.frames < Frame.tolls s [f, .handle worker] := by
  obtain ⟨frames, answer', h, rfl⟩ := steps.of_calm (by rintro _ _ _ rfl; cases awaits)
  cases Frame.moves_of_step h with
  | dequeuesNone cancelled | heedsNone cancelled =>
    exact ⟨rfl, .handles cancelled, by simp [Frame.toll]⟩
  | dequeues | polls => exact ⟨rfl, .awaits rfl (by simp), by simp [Frame.toll]⟩
  | receives popped => simp [empty] at popped
  | @pollsNone first _ closed =>
    exact ⟨rfl, .handles (told (.inl closed)), by cases first <;> simp [Frame.toll]⟩
  | pollsAgain _ opened =>
    have woken := (again rfl).resolve_left (by simp [opened])
    exact ⟨rfl, .awaits rfl (by simp), by simp [Frame.toll, woken]⟩
  | heeds =>
    refine ⟨rfl, .awaits rfl (by simp), ?_⟩
    simp only [Frame.toll, List.cons_append, List.nil_append, Frame.tolls_cons]
    split <;> omega
  | awaitsNone woken => exact ⟨rfl, .handles (told (.inr woken)), by simp [Frame.toll, woken]⟩
  | awaits asleep => exact ⟨rfl, .awaits rfl (by simp), by simp [Frame.toll, asleep]⟩
  | rises news =>
    refine ⟨rfl, .awaits rfl fun _ => ?_, by simp [Frame.toll]⟩
    simpa [Channel.isEmpty_of_pop? empty, or_iff_not_imp_left] using news
  | _ => cases awaits

theorem Rests.step (rests : thread.Rests s) (steps : thread.Steps exits s s' thread')
    (empty : s.channel.pop? = none)
    (told : s.sealed = true ∨ s.woken = true → s.cancelled = true) :
    s' = s ∧ thread'.Rests s ∧ Frame.tolls s thread'.frames < Frame.tolls s thread.frames := by
  cases rests with
  | serves =>
    obtain ⟨frames, answer', h, rfl⟩ := steps.of_calm (by simp)
    cases Frame.moves_of_step h with
    | quits cancelled => exact ⟨rfl, .gone rfl cancelled, by simp [Frame.toll, cancelled]⟩
    | serves going => exact ⟨rfl, .awaits rfl (by simp), by simp [Frame.toll, going]⟩
  | awaits awaits again => exact rests_of_awaits awaits again steps empty told
  | handles cancelled =>
    obtain ⟨frames, answer', h, rfl⟩ := steps.of_calm (by simp)
    cases h
    exact ⟨rfl, .serves, by simp [Frame.toll, cancelled]⟩
  | gone none => exact absurd none steps.busy

end Thread

namespace Rig

variable {rig : Rig}

theorem lasts_faults (faults : Faults) : Lasts (·.faults = faults) :=
  ⟨fun rig c h => (rig.faults_call c).trans h, fun _ _ h => h⟩

/-- A buffer is gone when its zone is given up, and it alone. -/
theorem buffer?_unpinZone (faults : rig.faults = .none) (buffer h : Handle) :
    (rig.unpinZone buffer).host.buffer? h =
      if buffer = h then none else rig.host.buffer? h := by
  cases held : rig.host.buffer? buffer with
  | none =>
    have refused : rig.host.serve rig.locks (.releaseBuffer buffer) =
        .error (.invalidBuffer buffer) := by
      simp only [Host.serve, Host.releaseBuffer, held]
      rfl
    have host : (rig.unpinZone buffer).host = rig.host := by
      simp [unpinZone, call, faults, Faults.none, refused, log, record]
    rw [host]
    split
    · rename_i same
      rw [← same, held]
    · rfl
  | some entry =>
    obtain ⟨stuck, served⟩ : ∃ stuck, rig.host.serve rig.locks (.releaseBuffer buffer) =
        .ok ⟨buffer, stuck, { rig.host with buffers := rig.host.buffers.erase buffer }⟩ := by
      simp only [Host.serve, Host.releaseBuffer, held]
      exact ⟨_, rfl⟩
    obtain ⟨rig', called, host, -⟩ := call_of_serve faults served
    rw [unpinZone, called]
    dsimp only
    rw [host, Host.buffer?, Host.getElem?_erase, Host.buffer?]

end Rig

structure Shared.Lowers (s s' : Shared) (frames frames' : List Frame) : Prop where
  winds : s.Winds s'
  lower : Frame.tolls s' frames' < Frame.tolls s frames

theorem Shared.Lowers.above {s s' : Shared} {frames frames' : List Frame}
    (lowers : s.Lowers s' frames frames') (rest : List Frame) :
    s.Lowers s' (frames ++ rest) (frames' ++ rest) where
  winds := lowers.winds
  lower := by
    rw [Frame.tolls_append, Frame.tolls_append]
    exact Nat.add_lt_add_of_lt_of_le lowers.lower (Frame.tolls_mono lowers.winds.passes rest)

theorem Shared.Lowers.moved {s s' : Shared} {f : Frame} {frames rest : List Frame}
    (winds : s.Winds s') (less : Frame.tolls s' frames < f.toll s) :
    s.Lowers s' (f :: rest) (frames ++ rest) :=
  have own : s.Lowers s' [f] frames := ⟨winds, less⟩
  own.above rest

namespace Server

/-- What stands between the last join and the report, and the answer that it has been given. -/
inductive Closes : List Frame → Answer → Prop
  | stops {answer : Answer} : Closes [.stop] answer
  | closes {joined : Nat} {answer : Answer} : Closes [.close, .tally joined] answer
  | seals {joined : Nat} {answer : Answer} : Closes [.closeChannel, .tally joined] answer
  | drains {joined : Nat} {answer : Answer} : Closes [.drain 0, .tally joined] answer
  | tallies {joined : Nat} : Closes [.tally joined] (.count 0)
  | closed {joined : Nat} : Closes [] (.outcome joined 0)

/-- How far the main thread has come with the end of the server. -/
inductive Finale (server : Server) (heard : List Signal) (w : World) : List Frame → Answer → Prop
  | joins {done pending : List Nat} {joined : Nat} {answer : Answer}
      (order : server.pool.threads.reverse = done ++ pending)
      (gone : ∀ t ∈ done, w.exits t ≠ none)
      (pinned : ∀ h, w.shared.rig.host.buffer? h ≠ none → h ∈ server.table.buffers) :
      Finale server heard w (.join pending joined :: .stop ::
        .report server.pool.requested server.pool.started :: server.releasing) answer
  | closes {above : List Frame} {answer : Answer} (closes : Closes above answer)
      (cancelled : w.shared.cancelled = true)
      (pinned : ∀ h, w.shared.rig.host.buffer? h ≠ none → h ∈ server.table.buffers) :
      Finale server heard w (above ++
        .report server.pool.requested server.pool.started :: server.releasing) answer
  | unpins {first : Signal} {left : List Handle} (named : heard.head? = some first)
      (pinned : ∀ h, w.shared.rig.host.buffer? h ≠ none → h ∈ left) :
      Finale server heard w [.unpin left, .unmap server.segment.size]
        (.report server.pool.requested server.pool.started 0 (some first.reason))
  | unmaps {first : Signal} {frames : List Frame} (named : heard.head? = some first)
      (bare : ∀ h, w.shared.rig.host.buffer? h = none)
      (left : frames <:+ [.unmap server.segment.size]) :
      Finale server heard w frames
        (.report server.pool.requested server.pool.started 0 (some first.reason))

variable {server : Server} {heard : List Signal} {w v : World} {frames : List Frame}
  {answer : Answer}

theorem Finale.aside (finale : Finale server heard w frames answer)
    (gone : ∀ t ∈ server.pool.threads, w.exits t ≠ none → v.exits t ≠ none)
    (cancelled : w.shared.cancelled = true → v.shared.cancelled = true)
    (host : v.shared.rig.host = w.shared.rig.host) (later : List Signal) :
    Finale server (heard ++ later) v frames answer := by
  have stays {first : Signal} (named : heard.head? = some first) :
      (heard ++ later).head? = some first := by
    cases heard with
    | nil => cases named
    | cons => exact named
  cases finale with
  | joins order before pinned =>
    refine .joins order (fun t member => gone t ?_ (before t member)) (by rwa [host])
    rw [← List.mem_reverse, order]
    exact List.mem_append_left _ member
  | closes closes before pinned => exact .closes closes (cancelled before) (by rwa [host])
  | unpins named pinned => exact .unpins (stays named) (by rwa [host])
  | unmaps named bare left => exact .unmaps (stays named) (by rwa [host]) left

/-- A step of the main thread that takes it further towards its end. -/
structure Advances (server : Server) (heard : List Signal) (w : World) (frames : List Frame)
    (s' : Shared) (thread' : Thread) : Prop where
  calm : thread'.panicking = none
  finale : Finale server heard ⟨s', w.threads⟩ thread'.frames thread'.answer
  lowers : w.shared.Lowers s' frames thread'.frames

section

variable {name : String} {thread' : Thread} {s s' : Shared} {exits : Nat → Option Exit}

/-- Another thread is joined that has ended, or there was none left. -/
theorem advances_of_joins {done pending : List Nat} {joined : Nat}
    (order : server.pool.threads.reverse = done ++ pending)
    (gone : ∀ t ∈ done, w.exits t ≠ none)
    (pinned : ∀ h, w.shared.rig.host.buffer? h ≠ none → h ∈ server.table.buffers)
    (steps : (Thread.mk name (.join pending joined :: .stop ::
      .report server.pool.requested server.pool.started :: server.releasing) answer none).Steps
        w.exits w.shared s' thread')
    (told : (∀ t ∈ server.pool.threads, w.exits t ≠ none) → w.shared.cancelled = true) :
    Advances server heard w (.join pending joined :: .stop ::
      .report server.pool.requested server.pool.started :: server.releasing) s' thread' := by
  obtain ⟨frames, answer', h, rfl⟩ := steps.of_calm (by simp)
  cases pending with
  | nil =>
    cases h
    have all : ∀ t ∈ server.pool.threads, w.exits t ≠ none := fun t member =>
      gone t (by rwa [← List.append_nil done, ← order, List.mem_reverse])
    exact ⟨rfl, .closes .stops (told all) pinned, .moved (.record _ _) (by simp [Frame.toll])⟩
  | cons other pending =>
    have further {joined' : Nat} {s' : Shared} (ended : w.exits other ≠ none)
        (host : s'.rig.host = w.shared.rig.host) :
        Finale server heard ⟨s', w.threads⟩ (.join pending joined' :: .stop ::
          .report server.pool.requested server.pool.started :: server.releasing) .done := by
      refine .joins (by rw [order, List.append_cons]) (fun t member => ?_) (by rwa [host])
      rcases List.mem_append.1 member with before | last
      · exact gone t before
      · rwa [List.mem_singleton.1 last]
    cases Frame.moves_of_step h with
    | joins ended | joinsPanicked ended =>
      exact ⟨rfl, further (by simp [ended]) rfl,
        .moved ⟨rfl, rfl, rfl, rfl, rfl, .rfl, id, .inl, rfl⟩ (by simp [Frame.toll])⟩

/-- Between the last join and the report there is nothing to drain. -/
theorem Closes.step {above rest : List Frame} (closes : Closes above answer) (busy : above ≠ [])
    (steps : (Thread.mk name (above ++ rest) answer none).Steps exits s s' thread')
    (left : s.state ≠ .running) (cancelled : s.cancelled = true) (empty : s.channel.pop? = none) :
    ∃ above' answer', thread' = ⟨name, above' ++ rest, answer', none⟩ ∧ Closes above' answer' ∧
      s.Lowers s' above above' ∧ s'.rig.host = s.rig.host := by
  cases closes with
  | stops =>
    obtain ⟨frames, answer', h, rfl⟩ := steps.of_calm (by simp)
    cases Frame.moves_of_step h with
    | stopsAgain =>
      exact ⟨[], _, rfl, .closed,
        ⟨⟨rfl, rfl, rfl, rfl, rfl, .rfl, id, .inl, rfl⟩, by simp [Frame.toll]⟩, rfl⟩
    | stops =>
      have unlike : (ServerState.stopped = .running) ↔ s.state = .running :=
        iff_of_false (by simp) left
      have winds : s.Winds ((s.log name .stopping).setState .stopped) :=
        ⟨rfl, rfl, rfl, rfl, rfl, unlike, id, .inl, rfl⟩
      exact ⟨[_, _], _, rfl, .closes, ⟨winds, by simp [Frame.toll]⟩, rfl⟩
  | closes =>
    obtain ⟨frames, answer', h, rfl⟩ := steps.of_calm (by simp)
    cases Frame.moves_of_step h with
    | closesAgain => exact ⟨[_], _, rfl, .tallies, ⟨.refl _, by simp [Frame.toll]⟩, rfl⟩
    | closes =>
      exact ⟨[_, _], _, rfl, .seals,
        ⟨⟨rfl, rfl, rfl, rfl, rfl, .rfl, id, .inl, rfl⟩, by simp [Frame.toll]⟩, rfl⟩
  | seals =>
    obtain ⟨frames, answer', h, rfl⟩ := steps.of_calm (by simp)
    cases h
    have winds : s.Winds { s with sealed := true } :=
      ⟨rfl, rfl, rfl, rfl, rfl, .rfl, fun _ => rfl, fun _ => .inr cancelled, rfl⟩
    exact ⟨[_, _], _, rfl, .drains, ⟨winds, by simp [Frame.toll]⟩, rfl⟩
  | drains =>
    obtain ⟨frames, answer', h, rfl⟩ := steps.of_calm (by simp)
    simp only [Frame.step, empty] at h
    cases h
    exact ⟨[_], _, rfl, .tallies, ⟨.record _ _, by simp [Frame.toll]⟩, rfl⟩
  | tallies =>
    obtain ⟨frames, answer', h, rfl⟩ := steps.of_calm (by simp)
    cases h
    exact ⟨[], _, rfl, .closed, ⟨.refl _, by simp [Frame.toll]⟩, rfl⟩
  | closed => exact absurd rfl busy

/-- The server is closed, and then the report names the first signal. -/
theorem advances_of_closes {above : List Frame} (closes : Closes above answer)
    (cancelled : w.shared.cancelled = true)
    (pinned : ∀ h, w.shared.rig.host.buffer? h ≠ none → h ∈ server.table.buffers)
    (steps : (Thread.mk name (above ++
      .report server.pool.requested server.pool.started :: server.releasing) answer none).Steps
        w.exits w.shared s' thread')
    (empty : w.shared.channel.pop? = none)
    (reason : w.shared.state ≠ .running ∧
      ∃ first ∈ heard.head?, w.shared.reason = some first.reason) :
    Advances server heard w (above ++
      .report server.pool.requested server.pool.started :: server.releasing) s' thread' := by
  obtain ⟨left, first, named, reason⟩ := reason
  rcases eq_or_ne above [] with rfl | busy
  · cases closes
    obtain ⟨frames, answer', h, rfl⟩ := steps.of_calm (by simp)
    cases h
    rw [reason]
    exact ⟨rfl, .unpins named pinned, .moved (.record _ _) (by simp [Frame.toll])⟩
  · obtain ⟨above', answer', rfl, closes, lowers, host⟩ :=
      closes.step busy steps left cancelled empty
    exact ⟨rfl, .closes closes (lowers.winds.cancelled.trans cancelled) (by rwa [host]),
      lowers.above _⟩

/-- One more buffer is given up, or there was none left. -/
theorem advances_of_unpins {first : Signal} {left : List Handle} (named : heard.head? = some first)
    (pinned : ∀ h, w.shared.rig.host.buffer? h ≠ none → h ∈ left)
    (steps : (Thread.mk name [.unpin left, .unmap server.segment.size]
      (.report server.pool.requested server.pool.started 0 (some first.reason)) none).Steps
        w.exits w.shared s' thread')
    (faults : w.shared.rig.faults = .none) :
    Advances server heard w [.unpin left, .unmap server.segment.size] s' thread' := by
  obtain ⟨frames, answer', h, rfl⟩ := steps.of_calm (by simp)
  cases left with
  | nil =>
    cases h
    have bare (h : Handle) : w.shared.rig.host.buffer? h = none := by
      by_contra some
      exact absurd (pinned h some) (List.not_mem_nil)
    exact ⟨rfl, .unmaps named bare (List.suffix_refl _), .moved (.refl _) (by simp [Frame.toll])⟩
  | cons buffer left =>
    cases h
    have winds : w.shared.Winds { w.shared with rig := w.shared.rig.unpinZone buffer } :=
      ⟨rfl, rfl, rfl, rfl, rfl, .rfl, id, .inl, (Rig.lasts_faults _).unpinZone buffer rfl⟩
    refine ⟨rfl, .unpins named fun h some => ?_, .moved winds (by simp [Frame.toll])⟩
    rw [Rig.buffer?_unpinZone faults] at some
    split at some
    · exact absurd rfl some
    · rename_i other
      exact (List.mem_cons.1 (pinned h some)).resolve_left (Ne.symm other)

theorem Finale.step (finale : Finale server heard w frames answer)
    (steps : (Thread.mk name frames answer none).Steps w.exits w.shared s' thread')
    (faults : w.shared.rig.faults = .none) (empty : w.shared.channel.pop? = none)
    (told : (∀ t ∈ server.pool.threads, w.exits t ≠ none) → w.shared.cancelled = true)
    (reason : w.shared.cancelled = true → w.shared.state ≠ .running ∧
      ∃ first ∈ heard.head?, w.shared.reason = some first.reason) :
    Advances server heard w frames s' thread' := by
  cases finale with
  | joins order gone pinned => exact advances_of_joins order gone pinned steps told
  | closes closes cancelled pinned =>
    exact advances_of_closes closes cancelled pinned steps empty (reason cancelled)
  | unpins named pinned => exact advances_of_unpins named pinned steps faults
  | unmaps named bare left =>
    rcases List.suffix_cons_iff.1 left with rfl | left
    · obtain ⟨frames, answer', h, rfl⟩ := steps.of_calm (by simp)
      cases h
      exact ⟨rfl, .unmaps named bare List.nil_suffix, .moved (.record _ _) (by simp [Frame.toll])⟩
    · exact absurd (List.suffix_nil.1 left) steps.busy

end

/-- The threads around a server: the main thread, the server's own, and one more that listens. -/
structure Manned (server : Server) : Prop where
  some : server.pool.threads ≠ []
  outside : mainNumber ∉ server.pool.threads
  aside : server.world.threads.length ∉ server.pool.threads
  apart : server.world.threads.length ≠ mainNumber

/-- What is known of a server and its threads after the listener has taken these signals, and
whether the end was called for. -/
structure Watched (server : Server) (heard : List Signal) (called : Bool) (w : World) : Prop where
  faults : w.shared.rig.faults = .none
  empty : w.shared.channel.pop? = none
  sealed : w.shared.sealed = true → w.shared.cancelled = true
  main : ∃ frames answer, w.threads[mainNumber]? = some ⟨mainThread, frames, answer, none⟩ ∧
    if called then server.Finale heard w frames answer
    else frames = [] ∧ ∀ h, w.shared.rig.host.buffer? h ≠ none → h ∈ server.table.buffers
  listener : ∃ frames answer, w.threads[server.world.threads.length]? =
      some ⟨signalThread, frames, answer, none⟩ ∧ Listens w.shared heard frames
  workers : ∀ t ∈ server.pool.threads, ∃ thread, w.threads[t]? = some thread ∧
    thread.Rests w.shared
  all : ∀ t thread, w.threads[t]? = some thread →
    t = mainNumber ∨ t = server.world.threads.length ∨ t ∈ server.pool.threads

end Server

def World.rest (w : World) : Nat :=
  (w.threads.map fun thread => Frame.tolls w.shared thread.frames).sum

def World.restOf (w : World) (t : Nat) : Nat :=
  ((w.threads[t]?).map fun thread => Frame.tolls w.shared thread.frames).getD 0

theorem World.exits_of_step {w v : World} {t u : Nat} (h : w.step t = some v)
    (ended : w.exits u ≠ none) : v.exits u ≠ none := by
  unfold exits at ended
  split at ended
  · exact absurd rfl ended
  · rename_i thread here
    split at ended
    · rename_i finished
      have still := idle_of_step h here (List.isEmpty_iff.1 finished)
      simp [exits, still, finished]
    · exact absurd rfl ended

structure World.Rolls (w : World) (t : Nat) (v : World) : Prop where
  passes : w.shared.Passes v.shared
  lower : ∃ thread thread', w.threads[t]? = some thread ∧ v.threads = w.threads.set t thread' ∧
    Frame.tolls v.shared thread'.frames < Frame.tolls w.shared thread.frames

namespace World.Rolls

variable {w v : World} {t : Nat}

theorem rest_lt (rolls : w.Rolls t v) : v.rest < w.rest := by
  obtain ⟨passes, thread, thread', here, threads, lower⟩ := rolls
  have others (thread : Thread) (_ : thread ∈ w.threads) :
      Frame.tolls v.shared thread.frames ≤ Frame.tolls w.shared thread.frames + 0 :=
    Frame.tolls_mono passes thread.frames
  have gain := sum_map_set_le thread' here others
  rw [rest, rest, threads]
  omega

theorem restOf_lt (rolls : w.Rolls t v) : v.restOf t < w.restOf t := by
  obtain ⟨passes, thread, thread', here, threads, lower⟩ := rolls
  rw [restOf, restOf, threads, getElem?_set_here here, here]
  exact lower

end World.Rolls

namespace Server

variable {server : Server} {heard : List Signal} {called : Bool} {w v : World}

theorem Watched.told (watched : server.Watched heard called w) (manned : server.Manned)
    (gone : ∀ t ∈ server.pool.threads, w.exits t ≠ none) : w.shared.cancelled = true := by
  obtain ⟨t, member⟩ := List.exists_mem_of_ne_nil _ manned.some
  obtain ⟨thread, here, rests⟩ := watched.workers t member
  have gone := gone t member
  cases rests with
  | gone _ cancelled => exact cancelled
  | _ => simp [World.exits, here, Thread.finished] at gone

theorem Watched.reason (watched : server.Watched heard called w)
    (cancelled : w.shared.cancelled = true) : w.shared.state ≠ .running ∧
      ∃ first ∈ heard.head?, w.shared.reason = some first.reason := by
  obtain ⟨frames, answer, -, listens⟩ := watched.listener
  exact listens.reason_of_cancelled cancelled

theorem Watched.main_aside (watched : server.Watched heard called w)
    (same : v.threads[mainNumber]? = w.threads[mainNumber]?)
    (gone : ∀ t ∈ server.pool.threads, w.exits t ≠ none → v.exits t ≠ none)
    (cancelled : w.shared.cancelled = true → v.shared.cancelled = true)
    (host : v.shared.rig.host = w.shared.rig.host) (later : List Signal) :
    ∃ frames answer, v.threads[mainNumber]? = some ⟨mainThread, frames, answer, none⟩ ∧
      if called then server.Finale (heard ++ later) v frames answer
      else frames = [] ∧ ∀ h, v.shared.rig.host.buffer? h ≠ none → h ∈ server.table.buffers := by
  obtain ⟨frames, answer, here, finale⟩ := watched.main
  refine ⟨frames, answer, same.trans here, ?_⟩
  cases called with
  | false => exact ⟨finale.1, by simpa only [host] using finale.2⟩
  | true => exact finale.aside gone cancelled host later

theorem Watched.listener_aside (watched : server.Watched heard called w)
    (same : v.threads[server.world.threads.length]? = w.threads[server.world.threads.length]?)
    (winds : w.shared.Winds v.shared) :
    ∃ frames answer, v.threads[server.world.threads.length]? =
      some ⟨signalThread, frames, answer, none⟩ ∧ Listens v.shared heard frames := by
  obtain ⟨frames, answer, here, listens⟩ := watched.listener
  exact ⟨frames, answer, same.trans here,
    listens.aside winds.state winds.reason winds.cancelled winds.woken⟩

theorem Watched.worker_aside (watched : server.Watched heard called w) {t : Nat}
    (member : t ∈ server.pool.threads) (same : v.threads[t]? = w.threads[t]?)
    (passes : w.shared.Passes v.shared) :
    ∃ thread, v.threads[t]? = some thread ∧ thread.Rests v.shared := by
  obtain ⟨thread, here, rests⟩ := watched.workers t member
  exact ⟨thread, same.trans here, rests.mono passes⟩

theorem Watched.all_of_set (watched : server.Watched heard called w) {t : Nat} {new : Thread}
    (u : Nat) (thread : Thread) (here : (w.threads.set t new)[u]? = some thread) :
    u = mainNumber ∨ u = server.world.threads.length ∨ u ∈ server.pool.threads := by
  obtain ⟨bound, -⟩ := List.getElem?_eq_some_iff.1 here
  rw [List.length_set] at bound
  exact watched.all u _ (List.getElem?_eq_getElem bound)

section

variable {thread thread' : Thread} {s' : Shared} {t : Nat}

/-- The main thread ends the server, if it does anything. -/
theorem Watched.step_main (watched : server.Watched heard called w) (manned : server.Manned)
    (here : w.threads[mainNumber]? = some thread)
    (steps : thread.Steps w.exits w.shared s' thread')
    (kept : ∀ t ∈ server.pool.threads, w.exits t ≠ none →
      World.exits ⟨s', w.threads.set mainNumber thread'⟩ t ≠ none) :
    server.Watched heard called ⟨s', w.threads.set mainNumber thread'⟩ ∧
      w.Rolls mainNumber ⟨s', w.threads.set mainNumber thread'⟩ ∧
      s'.signals = w.shared.signals := by
  have name := steps.name
  obtain ⟨frames, answer, main, finale⟩ := watched.main
  obtain rfl := Option.some.inj (main.symm.trans here)
  cases called with
  | false => exact absurd finale.1 steps.busy
  | true =>
    obtain ⟨calm, finale, winds, lower⟩ := finale.step steps watched.faults watched.empty
      (watched.told manned) watched.reason
    obtain ⟨name', frames', answer', panicking'⟩ := thread'
    cases name
    cases calm
    have others {u : Nat} (apart : u ≠ mainNumber) {new : Thread} :
        (w.threads.set mainNumber new)[u]? = w.threads[u]? :=
      List.getElem?_set_ne (Ne.symm apart)
    refine ⟨⟨winds.faults.trans watched.faults, winds.passes.empty watched.empty, fun closed => ?_,
      ⟨frames', answer', getElem?_set_here here, ?_⟩,
      watched.listener_aside (others manned.apart) winds,
      fun u worker => watched.worker_aside worker
        (others (by rintro rfl; exact manned.outside worker)) winds.passes,
      watched.all_of_set⟩, ⟨winds.passes, _, _, here, rfl, lower⟩, winds.signals⟩
    · rw [winds.cancelled]
      exact (winds.shut closed).elim watched.sealed id
    · have finale := finale.aside kept id rfl []
      rwa [List.append_nil] at finale

/-- The listener takes a signal, or hands it on. -/
theorem Watched.step_listener (watched : server.Watched heard called w) (manned : server.Manned)
    (here : w.threads[server.world.threads.length]? = some thread)
    (steps : thread.Steps w.exits w.shared s' thread')
    (kept : ∀ t ∈ server.pool.threads, w.exits t ≠ none →
      World.exits ⟨s', w.threads.set server.world.threads.length thread'⟩ t ≠ none) :
    w.Rolls server.world.threads.length
        ⟨s', w.threads.set server.world.threads.length thread'⟩ ∧
      ∃ taken, taken ++ s'.signals = w.shared.signals ∧ server.Watched (heard ++ taken) called
        ⟨s', w.threads.set server.world.threads.length thread'⟩ := by
  have name := steps.name
  obtain ⟨listening, last, there, listens⟩ := watched.listener
  obtain rfl := Option.some.inj (there.symm.trans here)
  obtain ⟨taken, signals, listens, calm, hears, lower⟩ := listens.step steps
  obtain ⟨name', frames', answer', panicking'⟩ := thread'
  cases name
  cases calm
  have others {u : Nat} (apart : u ≠ server.world.threads.length) {new : Thread} :
      (w.threads.set server.world.threads.length new)[u]? = w.threads[u]? :=
    List.getElem?_set_ne (Ne.symm apart)
  have main := watched.main_aside (others manned.apart.symm) kept hears.cancelled hears.host taken
  exact ⟨⟨hears.toPasses, _, _, here, rfl, lower⟩, taken, signals,
    hears.faults.trans watched.faults, hears.empty watched.empty,
    fun closed => hears.cancelled (watched.sealed (hears.gate ▸ closed)), main,
    ⟨frames', answer', getElem?_set_here here, listens⟩,
    fun u worker => watched.worker_aside worker
      (others (by rintro rfl; exact manned.aside worker)) hears.toPasses,
    watched.all_of_set⟩

/-- A thread of the server goes to sleep, or leaves. -/
theorem Watched.step_worker (watched : server.Watched heard called w) (manned : server.Manned)
    (member : t ∈ server.pool.threads) (here : w.threads[t]? = some thread)
    (steps : thread.Steps w.exits w.shared s' thread')
    (kept : ∀ u ∈ server.pool.threads, w.exits u ≠ none →
      World.exits ⟨s', w.threads.set t thread'⟩ u ≠ none) :
    server.Watched heard called ⟨s', w.threads.set t thread'⟩ ∧
      w.Rolls t ⟨s', w.threads.set t thread'⟩ ∧ s'.signals = w.shared.signals := by
  obtain ⟨own, there, rests⟩ := watched.workers t member
  obtain rfl := Option.some.inj (there.symm.trans here)
  obtain ⟨_, _, -, listens⟩ := watched.listener
  obtain ⟨rfl, rests, lower⟩ := rests.step steps watched.empty fun news =>
    news.elim watched.sealed listens.cancelled_of_woken
  have others {u : Nat} (apart : u ≠ t) : (w.threads.set t thread')[u]? = w.threads[u]? :=
    List.getElem?_set_ne (Ne.symm apart)
  have main := watched.main_aside (others (by rintro rfl; exact manned.outside member)) kept id
    rfl []
  rw [List.append_nil] at main
  refine ⟨⟨watched.faults, watched.empty, watched.sealed, main,
    watched.listener_aside (others (by rintro rfl; exact manned.aside member)) (.refl _),
    fun u worker => ?_, watched.all_of_set⟩, ⟨.refl _, _, _, here, rfl, lower⟩, rfl⟩
  rcases eq_or_ne u t with rfl | apart
  · exact ⟨thread', getElem?_set_here here, rests⟩
  · exact watched.worker_aside worker (others apart) (.refl _)

theorem Watched.step (watched : server.Watched heard called w) (manned : server.Manned)
    (h : w.step t = some v) : w.Rolls t v ∧ ∃ taken,
      taken ++ v.shared.signals = w.shared.signals ∧ server.Watched (heard ++ taken) called v := by
  have kept (u : Nat) (_ : u ∈ server.pool.threads) (ended : w.exits u ≠ none) :
      v.exits u ≠ none :=
    World.exits_of_step h ended
  obtain ⟨thread, thread', s', here, steps, rfl⟩ := World.steps_of_step h
  rcases watched.all t thread here with rfl | rfl | member
  · obtain ⟨watched, rolls, same⟩ := watched.step_main manned here steps kept
    exact ⟨rolls, [], same, by rwa [List.append_nil]⟩
  · exact watched.step_listener manned here steps kept
  · obtain ⟨watched, rolls, same⟩ := watched.step_worker manned member here steps kept
    exact ⟨rolls, [], same, by rwa [List.append_nil]⟩

end

theorem Watched.signal (watched : server.Watched heard called w) (signal : Signal) :
    server.Watched heard called (w.signalled signal) := by
  obtain ⟨listening, last, there, listens⟩ := watched.listener
  have main := watched.main_aside (v := w.signalled signal) rfl (fun _ _ ended => ended) id rfl []
  rw [List.append_nil] at main
  refine ⟨watched.faults, watched.empty, watched.sealed, main,
    ⟨listening, last, there, listens.aside .rfl rfl rfl rfl⟩, fun t member => ?_, watched.all⟩
  obtain ⟨thread, here, rests⟩ := watched.workers t member
  cases rests with
  | serves => exact ⟨_, here, .serves⟩
  | awaits awaits again => exact ⟨_, here, .awaits awaits again⟩
  | handles cancelled => exact ⟨_, here, .handles cancelled⟩
  | gone none cancelled => exact ⟨_, here, .gone none cancelled⟩

theorem Watched.call (watched : server.Watched heard false w) (manned : server.Manned) :
    server.Watched heard true (w.assign mainNumber server.ending) := by
  obtain ⟨frames, answer, main, idle⟩ := watched.main
  rw [World.assign_eq main]
  have others {u : Nat} (apart : u ≠ mainNumber) {new : Thread} :
      (w.threads.set mainNumber new)[u]? = w.threads[u]? :=
    List.getElem?_set_ne (Ne.symm apart)
  have order : server.pool.threads.reverse = [] ++ server.pool.threads.reverse := rfl
  exact ⟨watched.faults, watched.empty, watched.sealed,
    ⟨_, _, getElem?_set_here main, .joins order (by simp) idle.2⟩,
    watched.listener_aside (others manned.apart) (.refl _),
    fun t member => watched.worker_aside member
      (others (by rintro rfl; exact manned.outside member)) (.refl _),
    watched.all_of_set⟩

theorem Watched.halted (watched : server.Watched heard called w)
    (given : heard ≠ [] ∨ w.shared.signals ≠ [])
    (stuck : w.step server.world.threads.length = none) :
    ∃ first ∈ heard.head?, w.shared.Halted first.reason := by
  obtain ⟨frames, answer, here, listens⟩ := watched.listener
  cases listens with
  | waits =>
    cases World.blocks_of_stuck here stuck with
    | listens none => simp [none] at given
  | repeats halted => exact ⟨_, rfl, halted⟩
  | _ => cases World.blocks_of_stuck here stuck

theorem Watched.left (watched : server.Watched heard called w) (woken : w.shared.woken = true)
    {t : Nat} (member : t ∈ server.pool.threads) (stuck : w.step t = none) : w.exits t ≠ none := by
  obtain ⟨thread, here, rests⟩ := watched.workers t member
  cases rests with
  | awaits =>
    cases World.blocks_of_stuck here stuck with
    | parks _ _ asleep => simp [woken] at asleep
    | _ => rename_i awaits _; cases awaits
  | gone none => simp [World.exits, here, Thread.finished, none]
  | _ => cases World.blocks_of_stuck here stuck

/-- The main thread has reported why the server has ended, the other threads are gone, and so are
the buffers. -/
structure Ended (server : Server) (first : Signal) (w : World) : Prop where
  gone : ∀ t ∈ server.pool.threads, w.exits t ≠ none
  report : w.threads[mainNumber]? = some ⟨mainThread, [],
    .report server.pool.requested server.pool.started 0 (some first.reason), none⟩
  bare : ∀ h, w.shared.rig.host.buffer? h = none

/-- The main thread has nothing left to do when the others are gone and it has reported why. -/
theorem Watched.ended (watched : server.Watched heard true w)
    (gone : ∀ t ∈ server.pool.threads, w.exits t ≠ none) (stuck : w.step mainNumber = none) :
    ∃ first ∈ heard.head?, server.Ended first w := by
  obtain ⟨frames, answer, main, finale⟩ := watched.main
  cases finale with
  | @joins done pending joined _ order =>
    cases World.blocks_of_stuck main stuck with
    | @joins other pending joined runs =>
      have member : other ∈ server.pool.threads := by
        rw [← List.mem_reverse, order]
        simp
      exact absurd runs (gone other member)
  | closes closes => cases closes <;> cases World.blocks_of_stuck main stuck
  | unpins => cases World.blocks_of_stuck main stuck
  | @unmaps first frames named bare left =>
    rcases List.suffix_cons_iff.1 left with rfl | left
    · cases World.blocks_of_stuck main stuck
    · cases List.suffix_nil.1 left
      exact ⟨first, named, gone, main, bare⟩

theorem Watched.rests (watched : server.Watched heard true w)
    (given : heard ≠ [] ∨ w.shared.signals ≠ [])
    (stuck : ∀ t, w.step t = none) : ∃ first ∈ heard.head?, server.Ended first w := by
  obtain ⟨_, _, halted⟩ := watched.halted given (stuck _)
  have gone (t : Nat) (member : t ∈ server.pool.threads) : w.exits t ≠ none :=
    watched.left halted.woken member (stuck t)
  exact watched.ended gone (stuck _)

end Server

end DispatchServer
