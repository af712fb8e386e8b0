import Mathlib.Logic.Relation
import DispatchServer.Server

/-! Threads between their calls. A caller builds messages, keeps them, hands them to a call, and
keeps what a dequeue gave it; any idle thread may make the next call, and new threads may come at
any time. Which calls there are is a matter of what is offered: everything that the queue, its token
and the coordinator can do, or only what a server shows to its producers. -/
namespace DispatchServer

def Action.confined : Action → Bool
  | .close | .cancel => false
  | _ => true

mutual

/-- Whether a script, and every message it builds, leaves the queue and its token alone except
through what a server offers. -/
def Script.confined : Script → Bool
  | .done | .fault _ | .panic _ => true
  | .act action next => action.confined && next.confined
  | .enqueue message next => message.confined && next.confined
  | .hold message next => message.confined && next.confined

def Blueprint.confined : Blueprint → Bool
  | .mk _ _ _ _ process fail => process.confined && fail.confined

end

/-- A call that needs no message. -/
inductive Service
  | script (steps : Script)
  | close
  | cancel
  | dequeue
  | select
  | request (reason : ShutdownReason)
  | submit (plan : Blueprint)
  | produce (plan : Blueprint) (times : Nat)
  | serve (worker : Nat)
  | listen
  | awaitReply (ticket : Nat)
  | join (threads : List Nat)
  | finish (threads : List Nat)
  | shutdown (threads : List Nat) (requested started : Nat) (buffers : List Handle) (size : Nat)

def Service.frames : Service → List Frame
  | script steps => [.run none steps []]
  | close => [.close]
  | cancel => [.cancel]
  | dequeue => [.dequeue]
  | select => [.select]
  | request reason => [.request reason]
  | submit plan => [.submit plan]
  | produce plan times => [.produce plan times []]
  | serve worker => [.serve worker]
  | listen => [.listen]
  | awaitReply ticket => [.awaitReply ticket]
  | join threads => [.join threads 0]
  | finish threads => [.join threads 0, .stop]
  | shutdown threads requested started buffers size =>
    [.join threads 0, .stop, .report requested started, .unpin buffers, .unmap size]

/-- A call that takes a message away from its caller. -/
inductive Use
  | enqueue
  | process
  | fail (error : ServerError)
  | discard

def Use.frame : Use → Message → Frame
  | enqueue, m => .enqueue m
  | process, m => .process m
  | fail error, m => .fail m error
  | discard, m => .discard m

/-- The calls that are offered, the messages that callers build themselves, and who calls. -/
structure Interface where
  services : Service → Prop
  uses : Use → Prop
  plans : Blueprint → Prop
  callers : Nat → Prop

namespace Interface

def queue : Interface := ⟨fun _ => True, fun _ => True, fun _ => True, fun _ => True⟩

/-- What a server shows: every thread but its own can enqueue and submit, ask for devices, wait for
replies, and request the shutdown. -/
def server (workers : List Nat) : Interface where
  services
    | .script steps => steps.confined
    | .submit plan | .produce plan _ => plan.confined
    | .select | .request _ | .listen | .awaitReply _ => True
    | _ => False
  uses
    | .enqueue | .discard => True
    | _ => False
  plans plan := plan.confined
  callers t := t ∉ workers

end Interface

/-- The machine, and the messages that its callers keep between their calls. -/
structure Scene where
  world : World
  hands : List Message

/-- Whether a thread can make its next call: it is in none, and was relieved of what the last one
gave it. -/
def Thread.idles (thread : Thread) : Prop := thread.frames = [] ∧ thread.answer.owned = []

instance (thread : Thread) : Decidable thread.idles := inferInstanceAs (Decidable (_ ∧ _))

namespace Scene

variable (offered : Interface)

/-- Steps of calls, and what callers do between them. What the callback of another message had
captured is dropped by a thread in the middle of a call, maybe while a panic unwinds it. A wait for
a reply may take too long while the reply is still queued. -/
inductive Move : Scene → Scene → Prop
  | step {w v : World} {hands : List Message} (t : Nat) (h : w.step t = some v) :
      Move ⟨w, hands⟩ ⟨v, hands⟩
  | start {w : World} {hands : List Message} (name : String) :
      Move ⟨w, hands⟩ ⟨w.start (.idle name), hands⟩
  | build {w : World} {hands : List Message} (plan : Blueprint) (h : offered.plans plan) :
      Move ⟨w, hands⟩ ⟨{ w with shared := (w.shared.build plan).2 },
        (w.shared.build plan).1 :: hands⟩
  | call {w : World} {hands : List Message} (t : Nat) (service : Service)
      (h : offered.services service) (calls : offered.callers t)
      (idle : ∃ thread ∈ w.threads[t]?, thread.idles) :
      Move ⟨w, hands⟩ ⟨w.assign t service.frames, hands⟩
  | use {w : World} {before after : List Message} (t : Nat) (m : Message) (use : Use)
      (h : offered.uses use) (calls : offered.callers t)
      (idle : ∃ thread ∈ w.threads[t]?, thread.idles) :
      Move ⟨w, before ++ m :: after⟩ ⟨w.assign t [use.frame m], before ++ after⟩
  | spill {w : World} {before after : List Message} {t : Nat} {thread : Thread} (m : Message)
      (here : w.threads[t]? = some thread) (busy : thread.frames ≠ []) :
      Move ⟨w, before ++ m :: after⟩
        ⟨{ w with shared := w.shared.drop m thread.panicking.isSome }, before ++ after⟩
  | take {w : World} {hands : List Message} (t : Nat) (m : Message)
      (given : ∃ thread ∈ w.threads[t]?, thread.frames = [] ∧ thread.answer = .received (some m)) :
      Move ⟨w, hands⟩ ⟨w.assign t [], m :: hands⟩
  | expire {w : World} {hands : List Message} (t ticket : Nat)
      (waits : ∃ thread ∈ w.threads[t]?, thread.frames = [.awaitReply ticket])
      (queued : w.shared.ledger.status? ticket = some .queued) :
      Move ⟨w, hands⟩ ⟨w.assign t [], hands⟩
  | signal {w : World} {hands : List Message} (signal : Signal) :
      Move ⟨w, hands⟩ ⟨w.signalled signal, hands⟩

abbrev Reaches : Scene → Scene → Prop := Relation.ReflTransGen (Move offered)

variable {offered} in
theorem Move.widen {sc sc' : Scene} (h : Move offered sc sc') : Move .queue sc sc' := by
  cases h with
  | step t h => exact .step t h
  | start name => exact .start name
  | build plan => exact .build plan trivial
  | call t service _ _ idle => exact .call t service trivial trivial idle
  | use t m use _ _ idle => exact .use t m use trivial trivial idle
  | spill m here busy => exact .spill m here busy
  | take t m given => exact .take t m given
  | expire t ticket waits queued => exact .expire t ticket waits queued
  | signal signal => exact .signal signal

variable {offered} in
theorem Reaches.widen {sc sc' : Scene} (run : Reaches offered sc sc') : Reaches .queue sc sc' :=
  Relation.ReflTransGen.mono (fun _ _ h => h.widen) _ _ run

/-- Nothing has happened: one thread, an empty queue, and an empty history. -/
def opening (rig : Rig) (devices : DeviceSet) (robin : RoundRobin) : Scene :=
  ⟨.fresh { rig with history := .empty } devices robin, []⟩

end Scene

end DispatchServer
