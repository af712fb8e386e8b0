import DispatchServer.Failure
import DispatchServer.Lifecycle

/-! What the server logs. A notice is the fact; its level and wording are read off it. -/
namespace DispatchServer

inductive Level
  | info
  | warn
  | error
  deriving DecidableEq, Repr

def Level.name : Level → String
  | info => "INFO"
  | warn => "WARN"
  | error => "ERROR"

inductive Notice
  | unlockFailed (address : Nat) (errno : Errno)
  | neverReleased (buffer : Handle) (address length : Nat)
  | zonePinned (address length : Nat)
  | zoneRefused (address length : Nat) (cause : AcceleratorError)
  | releaseFailed (buffer : Handle) (cause : AcceleratorError)
  | noDevices
  | contextFailed (cause : AcceleratorError)
  | queueFailed (device : String) (cause : AcceleratorError)
  | contextCreated (context : Handle) (devices : Nat)
  | settingUpMemory (zoneLength : Nat)
  | zonesPinned (zones size : Nat)
  | starting
  | spawnFailed (index requested : Nat) (cause : String)
  | threadsMissing
  | threadsUp (started : Nat)
  | processingPanicked (worker : Nat) (desc : String)
  | threadPanicked (thread : String)
  | threadsJoined (joined : Nat)
  | shutdownRequested (reason : ShutdownReason)
  | stopping
  | alreadyStopped
  | queueClosed (returned : Nat)
  | stopped (started requested returned : Nat)
  | gotSignal (signal : Signal)
  | misconfigured (cause : ServerError)
  | devicesDiscovered (devices : Nat)
  | startFailed (cause : ServerError)
  | exiting (reason : Option ShutdownReason) (started returned : Nat)
  deriving DecidableEq, Repr

namespace Notice

def level : Notice → Level
  | unlockFailed .. | neverReleased .. | releaseFailed .. | alreadyStopped => .warn
  | zoneRefused .. | noDevices | contextFailed .. | queueFailed .. | spawnFailed ..
  | threadsMissing | processingPanicked .. | threadPanicked .. | misconfigured ..
  | startFailed .. => .error
  | _ => .info

/-- How a reason that may be missing is written. -/
def reasonText : Option ShutdownReason → String
  | none => "None"
  | some reason => s!"Some({reason.name})"

/-- Addresses are written from the given origin. -/
def text (origin : Text.Origin) : Notice → String
  | unlockFailed address errno => s!"munlock of {origin.address address} failed: {errno.message}"
  | neverReleased buffer address length =>
    s!"buffer {buffer} ({origin.address address}, {length} bytes) was never released"
  | zonePinned address length =>
    s!"zone {origin.range address length} was mapped (len: {length / mebibyte}MB)"
  | zoneRefused address length cause =>
    s!"buffer creation failed on host memory ({origin.range address length}): {cause.message}"
  | releaseFailed buffer cause => s!"failed to release zone buffer {buffer}: {cause.message}"
  | noDevices => "no devices to create a context for"
  | contextFailed cause => s!"context creation failed: {cause.message}"
  | queueFailed device cause => s!"command queue creation failed on {device}: {cause.message}"
  | contextCreated context devices => s!"context {context} created for {devices} devices"
  | settingUpMemory zoneLength => s!"setting up shared memory (zone length={zoneLength})"
  | zonesPinned zones size => s!"{zones} zones pinned over {size} bytes of shared memory"
  | starting => "Starting dispatch server"
  | spawnFailed index requested cause =>
    s!"failed to create server thread {index} of {requested}: {cause}"
  | threadsMissing => "failed to create server threads"
  | threadsUp started => s!"{started} of server threads are up"
  | processingPanicked worker desc =>
    s!"server thread {worker}: processing of {desc} panicked"
  | threadPanicked thread => s!"server thread {thread} panicked"
  | threadsJoined joined => s!"{joined} server threads joined"
  | shutdownRequested reason => s!"shutdown requested ({reason.name})"
  | stopping => "Stopping dispatch server"
  | alreadyStopped => "dispatch server already stopped"
  | queueClosed returned => s!"server queue closed, {returned} unprocessed messages returned"
  | stopped started requested returned =>
    s!"dispatch server stopped: {started} of {requested} threads ran, " ++
      s!"{returned} messages returned unprocessed"
  | gotSignal signal => s!"Got {signal.name}"
  | misconfigured cause => cause.chain origin
  | devicesDiscovered devices => s!"{devices} devices discovered"
  | startFailed cause => s!"failed to start dispatch server: {cause.chain origin}"
  | exiting reason started returned =>
    s!"clservd exits ({reasonText reason}): {started} threads, {returned} unprocessed messages"

/-- Level and text, as a log line gives them. -/
def line (origin : Text.Origin) (notice : Notice) : String :=
  notice.level.name ++ " " ++ notice.text origin

end Notice

end DispatchServer
