import DispatchServer.Message.Work
import DispatchServer.Message.Reply

/-! Threads as stacks of frames. A frame is one operation at a point between two of its atomic
steps; the frame on top runs, and those below wait for its answer.

An enqueue tests the closing flag and then sends. A close swaps that flag, closes the channel and
drains it. A dequeue tests the token, polls the channel, heeds the token once more, looks whether it
was woken, and parks. A cancellation sets the flag of the token and then wakes. A request tries to
take the state out of running, remembers its reason if it was the first, and cancels the token. A
server thread serves, handles what its dequeue gave it, and guards itself against a panic. -/
namespace DispatchServer

/-- What a finished frame leaves for the frame below it. Work that failed leaves the text of its
error, and a submission that was refused has no device. -/
inductive Answer
  | done
  | accepted
  | refused
  | count (n : Nat)
  | flag (b : Bool)
  | received (message : Option Message)
  | worked (failure : Option String)
  | status (status : ReplyStatus)
  | device (position : Nat)
  | devices (positions : List (Option Nat))
  | outcome (joined drained : Nat)
  | report (requested started drained : Nat) (reason : Option ShutdownReason)

inductive Frame
  | run (device : Option Nat) (script : Script) (held : List Message)
  | leave (held : List Message) (answer : Answer)
  | noteEnqueue (name : String)
  | noteClose
  | noteCancel
  | noteShutdown
  | process (m : Message)
  | publish (m : Message)
  | fail (m : Message) (error : ServerError)
  | discard (m : Message)
  | enqueue (m : Message)
  | send (m : Message)
  | reject
  | close
  | closeChannel
  | drain (returned : Nat)
  | cancel
  | wake
  | dequeue
  | poll (first : Bool)
  | heed
  | await
  | park
  | request (reason : ShutdownReason)
  | remember (reason : ShutdownReason)
  | give (answer : Answer)
  | join (pending : List Nat) (joined : Nat)
  | stop
  | tally (joined : Nat)
  | serve (worker : Nat)
  | handle (worker : Nat)
  | guard (worker : Nat) (desc : String)
  | listen
  | awaitReply (ticket : Nat)
  | select
  | submit (plan : Blueprint)
  | submitted (device : Nat)
  | produce (plan : Blueprint) (left : Nat) (devices : List (Option Nat))
  | produced (plan : Blueprint) (left : Nat) (devices : List (Option Nat))
  | report (requested started : Nat)
  | unpin (buffers : List Handle)
  | unmap (size : Nat)

/-- The messages that exist only in this frame. -/
def Frame.owned : Frame → List Message
  | run _ _ held | leave held _ => held
  | process m | publish m | fail m _ | discard m | enqueue m | send m => [m]
  | give (.received (some m)) => [m]
  | _ => []

def Answer.owned : Answer → List Message
  | received (some m) => [m]
  | _ => []

/-- The innermost call comes first. A panic that unwinds the stack has a text. -/
structure Thread where
  name : String
  frames : List Frame
  answer : Answer
  panicking : Option String

namespace Thread

def idle (name : String) : Thread := ⟨name, [], .done, none⟩

def calling (name : String) (frames : List Frame) : Thread := ⟨name, frames, .done, none⟩

def finished (thread : Thread) : Bool := thread.frames.isEmpty

def owned (thread : Thread) : List Message :=
  thread.frames.flatMap Frame.owned ++ thread.answer.owned

end Thread

end DispatchServer
