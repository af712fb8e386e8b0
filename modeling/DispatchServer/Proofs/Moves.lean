import DispatchServer.Machine.Step

/-! What the frame on top can do: it begins a panic, or is blocked, or goes on. Whatever holds of
every step of a frame is proved by cases on its way on, of which each has its name here. -/
namespace DispatchServer

/-- Only a script that has come to its panic begins one. -/
theorem Frame.step_panicked {f : Frame} {thread text : String} {answer : Answer}
    {exits : Nat → Option Exit} {s : Shared}
    (h : f.step thread answer exits s = .panicked text) :
    ∃ device held, f = .run device (.panic text) held := by
  cases f with
  | run device script held =>
    cases script with
    | panic other => cases h; exact ⟨device, held, rfl⟩
    | _ => cases h
  | leave held given => cases held <;> cases h
  | join pending joined =>
    cases pending with
    | nil => cases h
    | cons other pending =>
      simp only [Frame.step] at h
      split at h <;> cases h
  | unpin buffers => cases buffers <;> cases h
  | produce plan left devices => cases left <;> cases h
  | _ =>
    simp only [Frame.step] at h
    (repeat' split at h) <;> cases h

inductive Frame.Blocks (exits : Nat → Option Exit) (s : Shared) : Frame → Prop
  | parks (empty : s.channel.isEmpty = true) (opened : s.sealed = false)
      (asleep : s.woken = false) : Blocks exits s .park
  | listens (none : s.signals = []) : Blocks exits s .listen
  | joins {other : Nat} {pending : List Nat} {joined : Nat} (runs : exits other = none) :
      Blocks exits s (.join (other :: pending) joined)
  | awaits {ticket : Nat} (queued : s.ledger.status? ticket = some .queued) :
      Blocks exits s (.awaitReply ticket)

theorem Frame.blocks_of_step {f : Frame} {thread : String} {answer : Answer}
    {exits : Nat → Option Exit} {s : Shared} (h : f.step thread answer exits s = .blocked) :
    f.Blocks exits s := by
  cases f with
  | run device script held => cases script <;> cases h
  | leave held given => cases held <;> cases h
  | produce plan left devices => cases left <;> cases h
  | unpin buffers => cases buffers <;> cases h
  | join pending joined =>
    cases pending with
    | nil => cases h
    | cons other pending =>
      simp only [step] at h
      split at h
      case h_1 runs => exact .joins runs
      all_goals cases h
  | park =>
    simp only [step] at h
    split at h
    · rename_i asleep
      simp only [Bool.and_eq_true, Bool.not_eq_true'] at asleep
      exact .parks asleep.1.1 asleep.1.2 asleep.2
    · cases h
  | listen =>
    simp only [step] at h
    split at h
    · exact .listens ‹_›
    · cases h
  | awaitReply ticket =>
    simp only [step] at h
    split at h <;> first | exact .awaits ‹_› | cases h
  | _ =>
    simp only [step] at h
    (repeat' split at h) <;> cases h

section

variable (thread : String) (answer : Answer) (exits : Nat → Option Exit) (s : Shared)

/-- How a frame goes on: the state that it leaves, the frames in its place and the answer. Whatever
holds of every such step is proved by cases on this. -/
inductive Frame.Moves : Frame → Shared → List Frame → Answer → Prop
  | finishes {device held} : Moves (.run device .done held) s [.leave held (.worked none)] .done
  | faults {device chain held} : Moves (.run device (.fault chain) held) s
      [.leave held (.worked (some (chainText chain)))] .done
  | acts {device action next held line} (writes : action.perform thread device s =
      (s.write line, [])) :
      Moves (.run device (.act action next) held) (s.write line) [.run device next held] .done
  | callsClose {device next held} : Moves (.run device (.act .close next) held) s
      [.close, .noteClose, .run device next held] .done
  | callsCancel {device next held} : Moves (.run device (.act .cancel next) held) s
      [.cancel, .noteCancel, .run device next held] .done
  | callsShutdown {device reason next held} :
      Moves (.run device (.act (.shutdown reason) next) held) s
        [.request reason, .noteShutdown, .run device next held] .done
  | offers {device plan next held} :
      Moves (.run device (.enqueue plan next) held) (s.build plan).2
        [.enqueue (s.build plan).1, .noteEnqueue plan.name, .run device next held] .done
  | holds {device plan next held} : Moves (.run device (.hold plan next) held) (s.build plan).2
      [.run device next (held ++ [(s.build plan).1])] .done
  | leaves {given} : Moves (.leave [] given) s [] given
  | drops {m held given} : Moves (.leave (m :: held) given) (s.drop m false) [.leave held given]
      .done
  | notesEnqueue {name} : Moves (.noteEnqueue name)
      (s.write ("enqueue " ++ name ++ match answer with
        | .accepted => ": ok"
        | _ => ": QueueClosed")) [] .done
  | notesClose {n} (counted : answer = .count n) :
      Moves .noteClose (s.write s!"close: {n}") [] .done
  | passesClose (uncounted : ∀ n, answer ≠ .count n) : Moves .noteClose s [] .done
  | notesCancel : Moves .noteCancel (s.write "cancel") [] .done
  | notesShutdown {first} (told : answer = .flag first) :
      Moves .noteShutdown (s.write s!"shutdown: {first}") [] .done
  | passesShutdown (untold : ∀ first, answer ≠ .flag first) : Moves .noteShutdown s [] .done
  | begins {m} (closure : m.plan.kind = .closure) : Moves (.process m)
      ((s.record (.begun m.ticket m.plan.device thread)).write (processedLine m))
      [.run (some m.plan.device) m.plan.process []] .done
  | beginsReply {m} (reply : m.plan.kind = .reply) : Moves (.process m)
      ((s.record (.begun m.ticket m.plan.device thread)).write (processedLine m))
      [.run (some m.plan.device) m.plan.process [], .publish m] .done
  | publishes {m} : Moves (.publish m)
      (s.publish m (match answer with
        | .worked (some text) => .failed (.processingFailed text)
        | _ => .done)) [] .done
  | fails {m error} (closure : m.plan.kind = .closure) : Moves (.fail m error)
      ((s.record (.returned m.ticket error)).write (failedLine m error))
      [.run none m.plan.fail []] .done
  | failsReply {m error} (reply : m.plan.kind = .reply) : Moves (.fail m error)
      ((s.record (.returned m.ticket error)).publish m (.failed error)) [] .done
  | discards {m} : Moves (.discard m) (s.drop m false) [] .done
  | rejects {m} (closing : s.closing = true) : Moves (.enqueue m) (s.record (.rejected m.ticket))
      [.fail m .queueClosed, .reject] .done
  | admits {m} (opened : s.closing = false) : Moves (.enqueue m) s [.send m] .done
  | rejectsLate {m} (shut : s.sealed = true) : Moves (.send m) (s.record (.rejected m.ticket))
      [.fail m .queueClosed, .reject] .done
  | sends {m} (opened : s.sealed = false) : Moves (.send m)
      ({ s with channel := s.channel.push m }.record (.sent m.ticket)) [] .accepted
  | refuses : Moves .reject s [] .refused
  | closesAgain (closing : s.closing = true) : Moves .close s [] (.count 0)
  | closes (opened : s.closing = false) : Moves .close { s with closing := true } [.closeChannel]
      .done
  | seals : Moves .closeChannel { s with sealed := true } [.drain 0] .done
  | drained {returned} (empty : s.channel.pop? = none) : Moves (.drain returned)
      (s.log thread (.queueClosed returned)) [] (.count returned)
  | drains {returned m rest} (popped : s.channel.pop? = some (m, rest)) : Moves (.drain returned)
      ({ s with channel := rest }.record (.received m.ticket))
      [.fail m .queueClosed, .drain (returned + 1)] .done
  | cancels : Moves .cancel { s with cancelled := true } [.wake] .done
  | wakes : Moves .wake { s with woken := true } [] .done
  | dequeuesNone (cancelled : s.cancelled = true) : Moves .dequeue s [] (.received none)
  | dequeues (going : s.cancelled = false) : Moves .dequeue s [.poll true] .done
  | receives {first m rest} (popped : s.channel.pop? = some (m, rest)) : Moves (.poll first)
      ({ s with channel := rest }.record (.received m.ticket)) [] (.received (some m))
  | pollsNone {first} (empty : s.channel.pop? = none) (shut : s.sealed = true) :
      Moves (.poll first) s [] (.received none)
  | polls (empty : s.channel.pop? = none) (opened : s.sealed = false) :
      Moves (.poll true) s [.heed] .done
  | pollsAgain (empty : s.channel.pop? = none) (opened : s.sealed = false) :
      Moves (.poll false) s [.await] .done
  | heedsNone (cancelled : s.cancelled = true) : Moves .heed s [] (.received none)
  | heeds (going : s.cancelled = false) : Moves .heed s [.await] .done
  | awaitsNone (woken : s.woken = true) : Moves .await s [] (.received none)
  | awaits (asleep : s.woken = false) : Moves .await s [.park] .done
  | rises (news : (s.channel.isEmpty && !s.sealed && !s.woken) = false) :
      Moves .park s [.poll false] .done
  | requests {reason} (running : s.state = .running) : Moves (.request reason)
      (s.setState .shuttingDown) [.remember reason, .cancel, .give (.flag true)] .done
  | requestsLate {reason} (left : s.state ≠ .running) : Moves (.request reason) s
      [.cancel, .give (.flag false)] .done
  | remembers {reason} : Moves (.remember reason)
      ({ s with reason := s.reason.or (some reason) }.log thread (.shutdownRequested reason)) []
      .done
  | gives {given} : Moves (.give given) s [] given
  | joined {joined} : Moves (.join [] joined) (s.log thread (.threadsJoined joined)) []
      (.count joined)
  | joins {other pending joined name} (ended : exits other = some ⟨name, false⟩) :
      Moves (.join (other :: pending) joined) (s.record (.joined other false))
        [.join pending (joined + 1)] .done
  | joinsPanicked {other pending joined name} (ended : exits other = some ⟨name, true⟩) :
      Moves (.join (other :: pending) joined)
        ((s.record (.joined other true)).log thread (.threadPanicked name))
        [.join pending joined] .done
  | stopsAgain (stopped : s.state = .stopped) : Moves .stop
      ((s.log thread .stopping).log thread .alreadyStopped) []
      (.outcome (match answer with | .count n => n | _ => 0) 0)
  | stops (going : s.state ≠ .stopped) : Moves .stop
      ((s.log thread .stopping).setState .stopped)
      [.close, .tally (match answer with | .count n => n | _ => 0)] .done
  | tallies {joined n} (counted : answer = .count n) : Moves (.tally joined) s []
      (.outcome joined n)
  | talliesNone {joined} (uncounted : ∀ n, answer ≠ .count n) : Moves (.tally joined) s []
      (.outcome joined 0)
  | quits {worker} (cancelled : s.cancelled = true) : Moves (.serve worker) s [] .done
  | serves {worker} (going : s.cancelled = false) : Moves (.serve worker) s
      [.dequeue, .handle worker] .done
  | handles {worker m} (given : answer = .received (some m)) : Moves (.handle worker) s
      [.process m, .guard worker m.plan.desc] .done
  | handlesNone {worker} (none : ∀ m, answer ≠ .received (some m)) : Moves (.handle worker) s
      [.serve worker] .done
  | guards {worker desc} : Moves (.guard worker desc) s [.serve worker] .done
  | listens {signal rest} (delivered : s.signals = signal :: rest) : Moves .listen
      ({ s with signals := rest }.log thread (.gotSignal signal))
      [.request signal.reason, .listen] .done
  | awaitsNoReply {ticket} (unknown : s.ledger.status? ticket = none) :
      Moves (.awaitReply ticket) s [] .done
  | awaitsReply {ticket status} (settled : status ≠ .queued)
      (known : s.ledger.status? ticket = some status) :
      Moves (.awaitReply ticket) s [] (.status status)
  | selects : Moves .select { s with robin := s.robin.select.2 } [] (.device s.robin.select.1)
  | submits {plan} : Moves (.submit plan)
      ({ s with robin := s.robin.select.2 }.build (plan.onDevice s.robin.select.1)).2
      [.enqueue ({ s with robin := s.robin.select.2 }.build (plan.onDevice s.robin.select.1)).1,
        .submitted s.robin.select.1] .done
  | submitted {device} (accepted : answer = .accepted) : Moves (.submitted device) s []
      (.device device)
  | submittedLate {device} (refused : answer ≠ .accepted) : Moves (.submitted device) s [] .refused
  | produced {plan devices} : Moves (.produce plan 0 devices) s [] (.devices devices.reverse)
  | produces {plan left devices} : Moves (.produce plan (left + 1) devices) s
      [.submit plan, .produced plan left devices] .done
  | notesDevice {plan left devices} : Moves (.produced plan left devices) s
      [.produce plan left ((match answer with | .device device => some device | _ => none) ::
        devices)] .done
  | reports {requested started} : Moves (.report requested started)
      (s.log thread (.stopped started requested
        (match answer with | .outcome _ drained => drained | _ => 0))) []
      (.report requested started (match answer with | .outcome _ drained => drained | _ => 0)
        s.reason)
  | unpinned : Moves (.unpin []) s [] answer
  | unpins {buffer buffers} : Moves (.unpin (buffer :: buffers))
      { s with rig := s.rig.unpinZone buffer } [.unpin buffers] answer
  | unmaps {size} : Moves (.unmap size) (s.record (.unmapped size)) [] answer

end

theorem Frame.moves_of_step {f : Frame} {thread : String} {answer answer' : Answer}
    {exits : Nat → Option Exit} {s s' : Shared} {frames : List Frame}
    (h : f.step thread answer exits s = .moved s' frames answer') :
    f.Moves thread answer exits s s' frames answer' := by
  cases f with
  | run device script held =>
    cases script with
    | act action next =>
      cases action with
      | close => cases h; exact .callsClose
      | cancel => cases h; exact .callsCancel
      | shutdown reason => cases h; exact .callsShutdown
      | _ => cases h; exact .acts rfl
    | panic text => cases h
    | _ => cases h; constructor
  | leave held given => cases held <;> cases h <;> constructor
  | noteClose | noteShutdown | handle | submitted =>
    simp only [step] at h
    cases h
    split
    · constructor
      rfl
    · constructor
      assumption
  | tally joined =>
    simp only [step] at h
    cases h
    split
    · exact .tallies rfl
    · exact .talliesNone ‹_›
  | process m | fail m error =>
    simp only [step] at h
    split at h <;> cases h <;> constructor <;> assumption
  | join pending joined =>
    cases pending with
    | nil => cases h; exact .joined
    | cons other pending =>
      simp only [step] at h
      split at h <;> cases h
      · exact .joins ‹_›
      · exact .joinsPanicked ‹_›
  | enqueue | send | close | dequeue | heed | await | serve =>
    simp only [step] at h
    split at h <;> cases h <;> constructor <;> simp_all
  | drain returned =>
    simp only [step] at h
    split at h <;> cases h <;> constructor <;> assumption
  | poll first =>
    simp only [step] at h
    split at h
    · cases h
      exact .receives ‹_›
    · split at h <;> cases h
      · exact .pollsNone ‹_› ‹_›
      · cases first
        · exact .pollsAgain ‹_› (by simp_all)
        · exact .polls ‹_› (by simp_all)
  | park =>
    simp only [step] at h
    split at h <;> cases h
    exact .rises (by simp_all)
  | request | stop | listen | awaitReply =>
    simp only [step] at h
    split at h <;> cases h <;> constructor <;> assumption
  | produce plan left devices => cases left <;> cases h <;> constructor
  | unpin buffers => cases buffers <;> cases h <;> constructor
  | _ => cases h; constructor

end DispatchServer
