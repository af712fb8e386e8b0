import DispatchServer.Machine.Run

/-! The server threads: how many are wanted, how they are started, and the numbers by which they are
waited for. -/
namespace DispatchServer

/-- So many threads as configured, or one per processor if none are, but never none. -/
def threadCount (configured : Nat) (processors : Option Nat) : Nat :=
  if 0 < configured then configured else max (processors.getD 1) 1

def asksProcessors (configured : Nat) : Bool := configured = 0

theorem threadCount_pos (configured : Nat) (processors : Option Nat) :
    0 < threadCount configured processors := by
  unfold threadCount; split <;> omega

/-- What comes of the attempt to create a thread. -/
inductive Spawn
  | serving
  | doomed (text : String)
  | refused (cause : String)
  deriving DecidableEq, Repr

/-- Answers to the attempts by index, with a state of its own. -/
abbrev Spawner (σ : Type) := Nat → σ → Spawn × σ

structure Pool where
  threads : List Nat
  requested : Nat
  spawnError : Option String
  deriving DecidableEq, Repr

namespace Pool

def none : Pool := ⟨[], 0, Option.none⟩

def started (pool : Pool) : Nat := pool.threads.length

def attempts (pool : Pool) : Nat := pool.started + if pool.spawnError.isSome then 1 else 0

def joining (pool : Pool) : Frame := .join pool.threads.reverse 0

/-- Joins the threads, then stops the server and closes the queue. -/
def finishing (pool : Pool) : List Frame := [pool.joining, .stop]

end Pool

/-- The name of the server thread with an index. -/
def workerName (index : Nat) : String := s!"clserv-{index}"

/-- The thread of one successful attempt. -/
def Spawn.thread (index : Nat) : Spawn → Thread
  | .doomed text => .calling (workerName index) [.run none (.panic text) []]
  | _ => .calling (workerName index) [.serve index]

namespace World

variable {σ : Type}

/-- Makes the remaining attempts in order of their indices, up to the first refusal. -/
def launchFrom (spawner : Spawner σ) : (remaining : Nat) → Pool → World → σ → Pool × World × σ
  | 0, pool, w, state => (pool, w, state)
  | remaining + 1, pool, w, state =>
    match spawner pool.started state with
    | (.refused cause, state) =>
      let shared := w.shared.record (.spawnRefused pool.started)
      let notice := Notice.spawnFailed pool.started pool.requested cause
      ({ pool with spawnError := some cause }, { w with shared := shared.log mainThread notice },
        state)
    | (spawn, state) =>
      let started := w.start (spawn.thread pool.started)
      launchFrom spawner remaining { pool with threads := pool.threads ++ [w.threads.length] }
        { started with shared := w.shared.record (.spawned pool.started) } state

/-- Starts so many server threads; those started before a refusal keep running. -/
def launch (w : World) (requested : Nat) (spawner : Spawner σ) (state : σ) : Pool × World × σ :=
  launchFrom spawner requested ⟨[], requested, none⟩ w state

end World

end DispatchServer
