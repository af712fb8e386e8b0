import Std.Data.TreeMap.Basic
import DispatchServer.Failure
import DispatchServer.Message.Script

/-! What producers know of their messages. Every message that is built gets the next ticket; behind
the ticket of a reply message stands the status that its producer can ask for. -/
namespace DispatchServer

inductive ReplyStatus
  | queued
  | done
  | failed (error : ServerError)
  deriving DecidableEq, Repr

/-- Statuses by ticket, none for a message that nobody waits for, and the ticket of the reply
message that was built last under each name. -/
structure Ledger where
  next : Nat
  statuses : Std.TreeMap Nat ReplyStatus
  latest : Std.TreeMap String Nat

namespace Ledger

def empty : Ledger := ⟨0, ∅, ∅⟩

/-- The next ticket, for a message built from the given plan. -/
def issue (ledger : Ledger) (plan : Blueprint) : Message × Ledger :=
  (⟨ledger.next, plan⟩, match plan.kind with
    | .closure => { ledger with next := ledger.next + 1 }
    | .reply =>
      { next := ledger.next + 1
        statuses := ledger.statuses.insert ledger.next .queued
        latest := ledger.latest.insert plan.name ledger.next })

def status? (ledger : Ledger) (ticket : Nat) : Option ReplyStatus := ledger.statuses[ticket]?

/-- Shows a new status to the producer of a reply message. -/
def publish (ledger : Ledger) (m : Message) (status : ReplyStatus) : Ledger :=
  if m.isReply then { ledger with statuses := ledger.statuses.insert m.ticket status } else ledger

/-- What a producer is told of a message that was dropped without an outcome. -/
def droppedText (panicking : Bool) : String :=
  if panicking then "processing panicked" else "dropped before it was processed"

/-- A message that goes away must not leave its producer waiting. -/
def drop (ledger : Ledger) (m : Message) (panicking : Bool) : Ledger :=
  if ledger.status? m.ticket = some .queued then
    ledger.publish m (.failed (.processingFailed (droppedText panicking)))
  else ledger

def lastNamed? (ledger : Ledger) (name : String) : Option Nat := ledger.latest[name]?

end Ledger

end DispatchServer
