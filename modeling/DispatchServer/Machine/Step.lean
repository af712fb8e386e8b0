import DispatchServer.Machine.Shared

/-! One atomic step of one thread. A step is blocked, or changes the shared state and puts frames in
the place of the one on top, or starts a panic, which then unwinds the stack frame by frame. -/
namespace DispatchServer

/-- What became of the frame on top. -/
inductive Outcome
  | blocked
  | moved (shared : Shared) (frames : List Frame) (answer : Answer)
  | panicked (text : String)

/-- How a thread ended, as those see it who join it. -/
structure Exit where
  name : String
  panicked : Bool

def processedLine (m : Message) : String :=
  (match m.plan.kind with | .closure => "processed " | .reply => "worked ") ++
    m.plan.name ++ s!" on {m.plan.device}"

def failedLine (m : Message) (error : ServerError) : String :=
  "failed " ++ m.plan.name ++ ": " ++ error.message .absolute

def queueLine (devices : DeviceSet) (device : Option Nat) : String :=
  match device.bind devices.queue? with
  | some queue => s!"queue: Some({queue})"
  | none => "queue: None"

def deviceLine (devices : DeviceSet) (device : Option Nat) : String :=
  match device.bind devices.device? with
  | some device => "device: " ++ device.name
  | none => "device: none"

/-- A step of a script that builds no message: the new state and what has to be done before the
rest of the script. -/
def Action.perform (action : Action) (thread : String) (device : Option Nat) (s : Shared) :
    Shared × List Frame :=
  match action with
  | .record text => (s.write text, [])
  | .close => (s, [.close, .noteClose])
  | .cancel => (s, [.cancel, .noteCancel])
  | .shutdown reason => (s, [.request reason, .noteShutdown])
  | .queue => (s.write (queueLine s.devices device), [])
  | .device => (s.write (deviceLine s.devices device), [])
  | .thread => (s.write ("thread: " ++ thread), [])

def Script.step (script : Script) (thread : String) (device : Option Nat) (held : List Message)
    (s : Shared) : Outcome :=
  match script with
  | .done => .moved s [.leave held (.worked none)] .done
  | .fault chain => .moved s [.leave held (.worked (some (chainText chain)))] .done
  | .panic text => .panicked text
  | .act action next =>
    let (s, frames) := action.perform thread device s
    .moved s (frames ++ [.run device next held]) .done
  | .enqueue plan next =>
    let (m, s) := s.build plan
    .moved s [.enqueue m, .noteEnqueue plan.name, .run device next held] .done
  | .hold plan next =>
    let (m, s) := s.build plan
    .moved s [.run device next (held ++ [m])] .done

namespace Frame

/-- The frame on top runs. It knows the thread's name, the last answer and which threads have
ended. -/
def step (frame : Frame) (thread : String) (answer : Answer) (exits : Nat → Option Exit)
    (s : Shared) : Outcome :=
  match frame with
  | run device script held => script.step thread device held s
  | leave [] given => .moved s [] given
  | leave (m :: held) given => .moved (s.drop m false) [leave held given] .done
  | noteEnqueue name =>
    .moved (s.write ("enqueue " ++ name ++ match answer with
      | .accepted => ": ok"
      | _ => ": QueueClosed")) [] .done
  | noteClose =>
    .moved (match answer with
      | .count n => s.write s!"close: {n}"
      | _ => s) [] .done
  | noteCancel => .moved (s.write "cancel") [] .done
  | noteShutdown =>
    .moved (match answer with
      | .flag first => s.write s!"shutdown: {first}"
      | _ => s) [] .done
  | process m =>
    let s := (s.record (.begun m.ticket m.plan.device thread)).write (processedLine m)
    let work := run (some m.plan.device) m.plan.process []
    .moved s (match m.plan.kind with | .closure => [work] | .reply => [work, publish m]) .done
  | publish m =>
    .moved (s.publish m (match answer with
      | .worked (some text) => .failed (.processingFailed text)
      | _ => .done)) [] .done
  | fail m error =>
    let s := s.record (.returned m.ticket error)
    match m.plan.kind with
    | .closure => .moved (s.write (failedLine m error)) [run none m.plan.fail []] .done
    | .reply => .moved (s.publish m (.failed error)) [] .done
  | discard m => .moved (s.drop m false) [] .done
  | enqueue m =>
    if s.closing then .moved (s.record (.rejected m.ticket)) [fail m .queueClosed, reject] .done
    else .moved s [send m] .done
  | send m =>
    if s.sealed then .moved (s.record (.rejected m.ticket)) [fail m .queueClosed, reject] .done
    else .moved ({ s with channel := s.channel.push m }.record (.sent m.ticket)) [] .accepted
  | reject => .moved s [] .refused
  | close =>
    if s.closing then .moved s [] (.count 0)
    else .moved { s with closing := true } [closeChannel] .done
  | closeChannel => .moved { s with sealed := true } [drain 0] .done
  | drain returned =>
    match s.channel.pop? with
    | none => .moved (s.log thread (.queueClosed returned)) [] (.count returned)
    | some (m, rest) =>
      .moved ({ s with channel := rest }.record (.received m.ticket))
        [fail m .queueClosed, drain (returned + 1)] .done
  | cancel => .moved { s with cancelled := true } [wake] .done
  | wake => .moved { s with woken := true } [] .done
  | dequeue => if s.cancelled then .moved s [] (.received none) else .moved s [poll true] .done
  | poll first =>
    match s.channel.pop? with
    | some (m, rest) => .moved ({ s with channel := rest }.record (.received m.ticket)) []
        (.received (some m))
    | none =>
      if s.sealed then .moved s [] (.received none)
      else .moved s [if first then heed else await] .done
  | heed => if s.cancelled then .moved s [] (.received none) else .moved s [await] .done
  | await => if s.woken then .moved s [] (.received none) else .moved s [park] .done
  | park =>
    if s.channel.isEmpty && !s.sealed && !s.woken then .blocked else .moved s [poll false] .done
  | request reason =>
    match s.state with
    | .running =>
      .moved (s.setState .shuttingDown) [remember reason, cancel, give (.flag true)] .done
    | _ => .moved s [cancel, give (.flag false)] .done
  | remember reason =>
    .moved ({ s with reason := s.reason.or (some reason) }.log thread (.shutdownRequested reason))
      [] .done
  | give given => .moved s [] given
  | join [] joined => .moved (s.log thread (.threadsJoined joined)) [] (.count joined)
  | join (other :: pending) joined =>
    match exits other with
    | none => .blocked
    | some ⟨_, false⟩ => .moved (s.record (.joined other false)) [join pending (joined + 1)] .done
    | some ⟨name, true⟩ =>
      .moved ((s.record (.joined other true)).log thread (.threadPanicked name))
        [join pending joined] .done
  | stop =>
    let joined := match answer with
      | .count n => n
      | _ => 0
    let s := s.log thread .stopping
    match s.state with
    | .stopped => .moved (s.log thread .alreadyStopped) [] (.outcome joined 0)
    | _ => .moved (s.setState .stopped) [close, tally joined] .done
  | tally joined =>
    .moved s [] (match answer with
      | .count n => .outcome joined n
      | _ => .outcome joined 0)
  | serve worker =>
    if s.cancelled then .moved s [] .done else .moved s [dequeue, handle worker] .done
  | handle worker =>
    .moved s (match answer with
      | .received (some m) => [process m, guard worker m.plan.desc]
      | _ => [serve worker]) .done
  | guard worker _ => .moved s [serve worker] .done
  | listen =>
    match s.signals with
    | [] => .blocked
    | signal :: rest =>
      .moved ({ s with signals := rest }.log thread (.gotSignal signal))
        [request signal.reason, listen] .done
  | awaitReply ticket =>
    match s.ledger.status? ticket with
    | none => .moved s [] .done
    | some .queued => .blocked
    | some status => .moved s [] (.status status)
  | select =>
    let (device, robin) := s.robin.select
    .moved { s with robin := robin } [] (.device device)
  | submit plan =>
    let (device, robin) := s.robin.select
    let (m, s) := { s with robin := robin }.build (plan.onDevice device)
    .moved s [enqueue m, submitted device] .done
  | submitted device =>
    .moved s [] (match answer with
      | .accepted => .device device
      | _ => .refused)
  | produce _ 0 devices => .moved s [] (.devices devices.reverse)
  | produce plan (left + 1) devices => .moved s [submit plan, produced plan left devices] .done
  | produced plan left devices =>
    .moved s [produce plan left ((match answer with
      | .device device => some device
      | _ => none) :: devices)] .done
  | report requested started =>
    let drained := match answer with
      | .outcome _ drained => drained
      | _ => 0
    .moved (s.log thread (.stopped started requested drained)) []
      (.report requested started drained s.reason)
  | unpin [] => .moved s [] answer
  | unpin (buffer :: buffers) =>
    .moved { s with rig := s.rig.unpinZone buffer } [unpin buffers] answer
  | unmap size => .moved (s.record (.unmapped size)) [] answer

/-- A panic reaches the frame: what the frame owns is dropped and what it pins is released. The flag
says whether the panic goes on to the frame below. -/
def unwind (frame : Frame) (thread : String) (s : Shared) : Shared × List Frame × Bool :=
  match frame with
  | run device script (m :: held) => (s.drop m true, [run device script held], true)
  | leave (m :: held) given => (s.drop m true, [leave held given], true)
  | process m | publish m | fail m _ | discard m | enqueue m | send m => (s.drop m true, [], true)
  | guard worker desc => (s.log thread (.processingPanicked worker desc), [serve worker], false)
  | unpin (buffer :: buffers) => ({ s with rig := s.rig.unpinZone buffer }, [unpin buffers], true)
  | unmap size => (s.record (.unmapped size), [], true)
  | _ => (s, [], true)

end Frame

/-- One step of a thread, unless it is blocked or has nothing to do. -/
def Thread.step (thread : Thread) (exits : Nat → Option Exit) (s : Shared) :
    Option (Shared × Thread) :=
  match thread.frames, thread.panicking with
  | [], _ => none
  | frame :: rest, some _ =>
    let (s, frames, goesOn) := frame.unwind thread.name s
    some (s, { thread with
      frames := frames ++ rest
      panicking := if goesOn then thread.panicking else none })
  | frame :: rest, none =>
    match frame.step thread.name thread.answer exits s with
    | .blocked => none
    | .moved s frames answer => some (s, { thread with frames := frames ++ rest, answer := answer })
    | .panicked text => some (s, { thread with panicking := some text })

structure World where
  shared : Shared
  threads : List Thread

namespace World

/-- The signal is sent, and pending until somebody consumes it. -/
def signalled (w : World) (signal : Signal) : World :=
  { w with shared := { w.shared with signals := signal.pend w.shared.signals } }

def exits (w : World) (t : Nat) : Option Exit :=
  match w.threads[t]? with
  | none => none
  | some thread => if thread.finished then some ⟨thread.name, thread.panicking.isSome⟩ else none

/-- One step of the thread with the given number. -/
def step (w : World) (t : Nat) : Option World :=
  match w.threads[t]? with
  | none => none
  | some thread =>
    match thread.step w.exits w.shared with
    | none => none
    | some (shared, thread) => some ⟨shared, w.threads.set t thread⟩

end World

end DispatchServer
