import DispatchServer.Notice
import DispatchServer.Accelerator.Host

/-! What has happened so far. Messages are named by the number they got when they were built. -/
namespace DispatchServer

/-- A call into the accelerator. -/
inductive Call
  | createContext (devices : List DeviceId)
  | createQueue (context : Handle) (device : DeviceId) (properties : QueueProperties)
  | createBuffer (context : Handle) (flags : MemFlags) (address length : Nat)
  | releaseBuffer (buffer : Handle)
  deriving DecidableEq, Repr

inductive Event
  | logged (thread : String) (notice : Notice)
  | wrote (line : String)
  | called (call : Call) (answer : Except AcceleratorError Handle)
  | mapped (size : Nat)
  | unmapped (size : Nat)
  | spawned (index : Nat)
  | spawnRefused (index : Nat)
  | joined (index : Nat) (panicked : Bool)
  | built (message : Nat)
  | sent (message : Nat)
  | rejected (message : Nat)
  | received (message : Nat)
  | begun (message device : Nat) (thread : String)
  | returned (message : Nat) (error : ServerError)
  | dropped (message : Nat) (unwinding : Bool)
  | stateChanged (state : ServerState)
  deriving Repr

namespace Event

def journal? : Event → Option String
  | wrote line => some line
  | _ => none

def notice? : Event → Option (String × Notice)
  | logged thread notice => some (thread, notice)
  | _ => none

def called? : Event → Option (Call × Except AcceleratorError Handle)
  | called call answer => some (call, answer)
  | _ => none

def sent? : Event → Option Nat
  | sent message => some message
  | _ => none

def received? : Event → Option Nat
  | received message => some message
  | _ => none

def begun? : Event → Option Nat
  | begun message _ _ => some message
  | _ => none

def returned? : Event → Option (Nat × ServerError)
  | returned message error => some (message, error)
  | _ => none

end Event

/-- Events with the latest first. -/
structure History where
  past : List Event
  size : Nat
  size_eq : size = past.length

namespace History

def empty : History := ⟨[], 0, List.length_nil.symm⟩

def record (history : History) (event : Event) : History where
  past := event :: history.past
  size := history.size + 1
  size_eq := by simp [history.size_eq]

/-- The events in the order in which they happened. -/
def events (history : History) : List Event := history.past.reverse

@[simp] theorem events_empty : empty.events = [] := rfl

@[simp] theorem events_record (history : History) (event : Event) :
    (history.record event).events = history.events ++ [event] := by
  simp [events, record]

/-- The events from a given count on. -/
def since (history : History) (count : Nat) : List Event :=
  (history.past.take (history.size - count)).reverse

def journal (history : History) : List String := history.events.filterMap Event.journal?

/-- What one thread logged. -/
def log (history : History) (thread : String) : List Notice :=
  history.events.filterMap fun event => match event.notice? with
    | some (name, notice) => if name = thread then some notice else none
    | none => none

end History

end DispatchServer
