import DispatchServer.Configuration.Load

/-! A whole run of the daemon: it reads its arguments and its configuration, starts a server on
simulated devices, and ends it when a signal arrives. -/
namespace DispatchServer

/-- A line that the log shows, and the thread that wrote it. -/
structure LogLine where
  thread : String
  notice : Notice
  deriving DecidableEq, Repr

/-- How a line is laid out. Time and source position are not told. -/
def LogLine.text (origin : Text.Origin) (verbosity : Verbosity) (line : LogLine) : String :=
  let level := line.notice.level.name
  let text := line.notice.text origin
  match verbosity with
  | .terse => level ++ ": " ++ text
  | .default => "[TIME " ++ level ++ "] (POS) " ++ text
  | .verbose => "[TIME " ++ level ++ " " ++ line.thread ++ "] (POS) " ++ text

/-- What a run of the daemon comes to: the arguments ask for no run, no configuration can be used,
the server waits for a signal, a signal has killed it, or it has ended. -/
inductive DaemonRun
  | arguments (error : ArgumentError)
  | refused (text : String)
  | waiting (verbosity : Verbosity) (lines : List LogLine)
  | killed (verbosity : Verbosity) (lines : List LogLine)
  | ended (exit : Nat) (verbosity : Verbosity) (lines : List LogLine)

namespace DaemonRun

/-- The exit code, unless the daemon runs on or was killed. -/
def exit? : DaemonRun → Option Nat
  | arguments .displayHelp | arguments .displayVersion => some 0
  | arguments _ | refused _ => some 2
  | waiting .. | killed .. => none
  | ended exit _ _ => some exit

/-- What is written to the error stream, each text with a line feed behind it. -/
def texts (origin : Text.Origin) : DaemonRun → List String
  | arguments _ => []
  | refused text => ["Error: " ++ text]
  | waiting verbosity lines | killed verbosity lines | ended _ verbosity lines =>
    lines.map (·.text origin verbosity)

def lines (origin : Text.Origin) (run : DaemonRun) : List String :=
  (run.texts origin).flatMap Text.lines

end DaemonRun

def History.logLines (history : History) : List LogLine :=
  history.events.filterMap fun event => (event.notice?).map fun (thread, notice) => ⟨thread, notice⟩

def Spawner.always : Spawner Unit := fun _ state => (.serving, state)

namespace Server

def deliver (server : Server) (signals : List Signal) : Server :=
  let listener := server.world.threads.length - 1
  { server with world := signals.foldl (fun world signal =>
      (world.signalled signal).advance listener) server.world }

end Server

namespace Daemon

def exitCode : Option ShutdownReason → Nat
  | some .spawnFailure => 1
  | _ => 0

/-- The configuration that the arguments and the directory make, or the run that ends without
one. -/
def configure (directory : Directory) (texts : List String) : Except DaemonRun Config :=
  match Arguments.read texts with
  | .error error => .error (.arguments error)
  | .ok arguments =>
    match Config.load directory arguments with
    | .error error => .error (.refused error.message)
    | .ok config =>
      match config.validate with
      | .error error => .error (.refused error.message)
      | .ok _ => .ok config

/-- What the server is started with. -/
structure Plan where
  config : Config
  settings : Settings
  sizes : List UInt64

/-- Here the sizes are computed once more, and what is too large is an error of the server. -/
def plan (config : Config) : Except ServerError Plan :=
  match config.settings with
  | .error error => .error (.invalidConfig error.message)
  | .ok settings =>
    match config.deviceBytes with
    | .error error => .error (.invalidConfig error.message)
    | .ok sizes => .ok ⟨config, settings, sizes⟩

def killedBy (signals : List Signal) : Bool :=
  match signals.find? fun signal => signal.handled || signal.lethal with
  | some signal => !signal.handled
  | none => false

/-- Runs the server of a plan until the signals have ended it. -/
def serve (surroundings : Surroundings) (plan : Plan) (signals : List Signal) : DaemonRun :=
  let verbosity := plan.config.verbosity
  let host := Host.ofSizes (plan.sizes.map (·.toNat)) plan.config.lockPages
  let rig := (Rig.ofHost host .always Faults.none).log (.devicesDiscovered host.devices.length)
  match Server.start rig surroundings host.devices plan.settings Spawner.always () with
  | .error (error, rig) => .ended 1 verbosity (rig.log (.startFailed error)).history.logLines
  | .ok (server, _) =>
    let server := server.listening
    if killedBy signals then .killed verbosity server.world.shared.rig.history.logLines
    else
      let world := (server.deliver (signals.filter Signal.handled)).waitForShutdown
      match world.answer mainNumber with
      | .report _ started drained reason =>
        let rig := world.shared.rig.log (.exiting reason started drained)
        .ended (exitCode reason) verbosity rig.history.logLines
      | _ => .waiting verbosity world.shared.rig.history.logLines

def execute (surroundings : Surroundings) (config : Config) (signals : List Signal) : DaemonRun :=
  match plan config with
  | .error error => .ended 1 config.verbosity [⟨mainThread, .misconfigured error⟩]
  | .ok plan => serve surroundings plan signals

/-- Runs the daemon with the given arguments in the given directory. -/
def run (surroundings : Surroundings) (directory : Directory) (texts : List String)
    (signals : List Signal) : DaemonRun :=
  match configure directory texts with
  | .error run => run
  | .ok config => execute surroundings config signals

end Daemon

end DispatchServer
