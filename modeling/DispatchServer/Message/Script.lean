import DispatchServer.Lifecycle

/-! What a message does. Its processing and its failing are finite scripts, which may build further
messages with scripts of their own. A script ends by returning, by returning an error or by a
panic, and has nothing behind its end. -/
namespace DispatchServer

/-- Steps of a script that build no message. -/
inductive Action
  | record (text : String)
  | close
  | cancel
  | shutdown (reason : ShutdownReason)
  | queue
  | device
  | thread
  deriving DecidableEq, Repr

/-- The callbacks of a closure are its producer's, who holds a reply if the message is one. -/
inductive MessageKind
  | closure
  | reply
  deriving DecidableEq, Repr

mutual

/-- A chain of causes has the innermost first. What a script holds is dropped when it has ended. -/
inductive Script
  | done
  | fault (chain : List String)
  | panic (text : String)
  | act (action : Action) (next : Script)
  | enqueue (message : Blueprint) (next : Script)
  | hold (message : Blueprint) (next : Script)

/-- A message that is yet to be built. -/
inductive Blueprint
  | mk (kind : MessageKind) (name desc : String) (device : Nat) (process fail : Script)

end

instance : Inhabited Script := ⟨.done⟩

instance : Inhabited Blueprint := ⟨.mk .closure "" "" 0 .done .done⟩

namespace Blueprint

def kind : Blueprint → MessageKind
  | mk kind _ _ _ _ _ => kind

def name : Blueprint → String
  | mk _ name _ _ _ _ => name

def desc : Blueprint → String
  | mk _ _ desc _ _ _ => desc

/-- Position of the device that the producer assigned. -/
def device : Blueprint → Nat
  | mk _ _ _ device _ _ => device

def process : Blueprint → Script
  | mk _ _ _ _ process _ => process

def fail : Blueprint → Script
  | mk _ _ _ _ _ fail => fail

/-- The same message for another device. -/
def onDevice : Blueprint → Nat → Blueprint
  | mk kind name desc _ process fail, device => mk kind name desc device process fail

@[simp] theorem device_onDevice (plan : Blueprint) (device : Nat) :
    (plan.onDevice device).device = device := by
  cases plan; rfl

end Blueprint

/-- A message that exists. No two messages have the same ticket. -/
structure Message where
  ticket : Nat
  plan : Blueprint

namespace Message

def isReply (m : Message) : Bool := m.plan.kind = .reply

/-- How a message shows itself to someone looking for faults. -/
def debugText (m : Message) (quoted : String → String) : String :=
  s!"Message \x7b device: {m.plan.device}, desc: " ++ quoted m.plan.desc ++ " \x7d"

end Message

/-- A chain of causes as one text, outermost first. -/
def chainText (chain : List String) : String := ": ".intercalate chain.reverse

end DispatchServer
