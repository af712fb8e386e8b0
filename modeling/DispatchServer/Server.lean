import DispatchServer.Pool

/-! A dispatch server from its start to its end. It maps and pins its memory, and only then starts
threads; at the end the threads are joined, the queue is closed, and the memory goes last. -/
namespace DispatchServer

/-- The threads, of which none means one per processor, and the bytes of shared memory. -/
structure Settings where
  threads : Nat
  memory : Nat
  deriving DecidableEq, Repr

/-- What the start can find around it: the address at which the kernel maps the segment, and the
number of processors. -/
structure Surroundings where
  base : Nat
  processors : Option Nat

structure Server where
  world : World
  pool : Pool
  segment : Segment
  table : ZoneTable

def mainNumber : Nat := 0

def signalThread : String := "clserv-signals"

/-- A fresh queue with its token and coordinator, and the main thread. -/
def World.fresh (rig : Rig) (devices : DeviceSet) (robin : RoundRobin) : World where
  shared :=
    { rig := rig, devices := devices, channel := .empty, sealed := false, closing := false,
      cancelled := false, woken := false, state := .running, reason := none, ledger := .empty,
      robin := robin, signals := [] }
  threads := [.idle mainThread]

namespace Server

variable {σ : Type}

/-- Starts the threads of a server whose memory is pinned. A thread that cannot be created turns
into a shutdown request. -/
def launch (w : World) (segment : Segment) (table : ZoneTable) (threads : Nat)
    (spawner : Spawner σ) (state : σ) : Server × σ :=
  let (pool, w, state) := w.launch threads spawner state
  match pool.spawnError with
  | none =>
    (⟨{ w with shared := w.shared.log mainThread (.threadsUp pool.started) }, pool, segment, table⟩,
      state)
  | some _ =>
    let w := { w with shared := w.shared.log mainThread .threadsMissing }
    (⟨w.call mainNumber [.request .spawnFailure], pool, segment, table⟩, state)

/-- Everything before the threads is fatal on failure, and undone. -/
def start (rig : Rig) (surroundings : Surroundings) (devices : List Device) (settings : Settings)
    (spawner : Spawner σ) (state : σ) : Except (ServerError × Rig) (Server × σ) :=
  match Segment.allocate surroundings.base settings.memory with
  | .error error => .error (error, rig)
  | .ok segment =>
    match (rig.record (.mapped segment.size)).initialise devices segment with
    | (.error error, rig) => .error (error, rig.record (.unmapped segment.size))
    | (.ok (set, table), rig) =>
      let rig := rig.log .starting
      match RoundRobin.create set.devices.length with
      | .error error =>
        .error (error, (rig.unpinZones table.buffers).record (.unmapped segment.size))
      | .ok robin =>
        .ok (launch (.fresh rig set robin) segment table
          (threadCount settings.threads surroundings.processors) spawner state)

def listening (server : Server) : Server :=
  { server with world := server.world.start (.calling signalThread [.listen]) }

def ending (server : Server) : List Frame :=
  server.pool.finishing ++
    [.report server.pool.requested server.pool.started, .unpin server.table.buffers,
      .unmap server.segment.size]

/-- Waits for the threads and ends the server. The threads run while the call is blocked. -/
def waitForShutdown (server : Server) : World :=
  ((server.world.call mainNumber server.ending).advanceAll server.pool.threads).advance mainNumber

end Server

end DispatchServer
