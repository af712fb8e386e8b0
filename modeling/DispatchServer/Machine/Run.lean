import DispatchServer.Machine.Step

/-! Runs of the machine. A schedule names the thread of each step, so whatever threads can do
together some schedule does. One thread can also be run alone until it stops, with a number of steps
that its frames and the channel allow for. -/
namespace DispatchServer

def total (works : List Nat) : Nat := works.foldl (· + ·) 0

def Frame.work : Frame → Nat
  | .run _ script held => script.work + held.length + operationWork
  | .leave held _ => held.length + operationWork
  | .process m | .publish m | .fail m _ | .discard m | .enqueue m | .send m =>
    m.work + operationWork
  | .join pending _ => pending.length + operationWork
  | .submit plan => plan.work + 2 * operationWork
  | .produce plan left _ | .produced plan left _ => (left + 1) * (plan.work + 4 * operationWork)
  | .unpin buffers => buffers.length + operationWork
  | _ => operationWork

/-- Whether a thread is about to begin a message. -/
def Thread.begins (thread : Thread) : Bool :=
  match thread.frames with
  | .process _ :: _ => true
  | _ => false

namespace World

/-- Enough steps for one thread alone to come to a stop, if it ever does. -/
def work (w : World) (t : Nat) : Nat :=
  (((w.threads[t]?).map fun thread => total (thread.frames.map Frame.work)).getD 0) +
    w.shared.channel.work +
    operationWork * (w.shared.signals.length + 1)

/-- Follows a schedule, which names the thread of each step; a blocked thread misses its turn. -/
def run (w : World) : List Nat → World
  | [] => w
  | t :: schedule => ((w.step t).getD w).run schedule

/-- What some schedule leads to. -/
inductive Reaches : World → World → Prop
  | refl (w : World) : Reaches w w
  | step {w v u : World} (t : Nat) (h : w.step t = some v) (rest : Reaches v u) : Reaches w u

/-- Lets one thread take at most so many steps. -/
def advanceFor (w : World) (t : Nat) : (steps : Nat) → World
  | 0 => w
  | steps + 1 =>
    match w.step t with
    | none => w
    | some v => v.advanceFor t steps

/-- Lets one thread run until it is blocked or has nothing to do. -/
def advance (w : World) (t : Nat) : World := w.advanceFor t (2 * w.work t)

def advanceAll (w : World) (threads : List Nat) : World := threads.foldl advance w

def approachFor (w : World) (t : Nat) : (steps : Nat) → World
  | 0 => w
  | steps + 1 =>
    if (w.threads[t]?).any Thread.begins then w
    else
      match w.step t with
      | none => w
      | some v => v.approachFor t steps

def approachAll (w : World) (threads : List Nat) : World :=
  threads.foldl (fun w t => w.approachFor t (2 * w.work t)) w

theorem Reaches.trans {w v u : World} (first : Reaches w v) (second : Reaches v u) :
    Reaches w u := by
  induction first with
  | refl => exact second
  | step t h _ ih => exact .step t h (ih second)

theorem reaches_run (w : World) (schedule : List Nat) : Reaches w (w.run schedule) := by
  induction schedule generalizing w with
  | nil => exact .refl w
  | cons t schedule ih =>
    cases h : w.step t with
    | none => simpa [run, h] using ih w
    | some v => simpa [run, h] using Reaches.step t h (ih v)

theorem reaches_advanceFor (w : World) (t steps : Nat) : Reaches w (w.advanceFor t steps) := by
  induction steps generalizing w with
  | zero => exact .refl w
  | succ steps ih =>
    cases h : w.step t with
    | none => simpa [advanceFor, h] using Reaches.refl w
    | some v => simpa [advanceFor, h] using Reaches.step t h (ih v)

/-- Adds a thread; its number is how many there were. -/
def start (w : World) (thread : Thread) : World :=
  { w with threads := w.threads ++ [thread] }

/-- Gives a thread new frames, and forgets how its last call ended. -/
def assign (w : World) (t : Nat) (frames : List Frame) : World :=
  { w with threads := w.threads.modify t fun thread => .calling thread.name frames }

/-- A thread makes a call and runs alone until the call has ended or blocks. -/
def call (w : World) (t : Nat) (frames : List Frame) : World := (w.assign t frames).advance t

def answer (w : World) (t : Nat) : Answer :=
  match w.threads[t]? with
  | some thread => thread.answer
  | none => .done

/-- The text of the panic by which a thread's call ended. -/
def panic? (w : World) (t : Nat) : Option String := (w.threads[t]?).bind (·.panicking)

def finished (w : World) (t : Nat) : Bool :=
  match w.threads[t]? with
  | some thread => thread.finished
  | none => true

end World

end DispatchServer
