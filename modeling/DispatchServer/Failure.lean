import DispatchServer.Accelerator.Device
import DispatchServer.Errno
import DispatchServer.Text.Written

/-! Everything that can go wrong, as causes. The accelerator's own failures are wrapped by the
server's, which say what the server was doing when they struck. -/
namespace DispatchServer

inductive AcceleratorError
  | noDevices
  | deviceNotFound (device : DeviceId)
  | invalidContext (context : Handle)
  | invalidBuffer (buffer : Handle)
  | invalidBufferSize (requested max : Nat)
  | invalidMemFlags (flags : MemFlags)
  | pageLockFailed (length : Nat) (errno : Errno)
  deriving DecidableEq, Repr

def AcceleratorError.message : AcceleratorError → String
  | noDevices => "no devices given"
  | deviceNotFound device => s!"device {device} not found"
  | invalidContext context => s!"invalid context {context}"
  | invalidBuffer buffer => s!"invalid buffer {buffer}"
  | invalidBufferSize requested max => s!"invalid buffer size {requested} (max {max})"
  | invalidMemFlags flags => s!"unsupported memory flags {flags.message}"
  | pageLockFailed length errno => s!"failed to lock {length} bytes of host memory: {errno.message}"

/-- Why a shared segment or its zones could not be set up. -/
inductive SegmentError
  | emptySegment
  | mapFailed (size : Nat) (errno : Errno)
  | emptyZone
  | other (text : String)
  deriving DecidableEq, Repr

def SegmentError.message : SegmentError → String
  | emptySegment => "segment size must be greater than zero"
  | mapFailed size errno => s!"mmap of {size} bytes failed: {errno.message}"
  | emptyZone => "zone length must be greater than zero"
  | other text => text

/-- All but the last two abort startup. Those are what a producer sees of a message that was not
processed. -/
inductive ServerError
  | noDevices
  | contextCreation (source : AcceleratorError)
  | queueCreation (device : Nat) (source : AcceleratorError)
  | zoneRegistration (address length : Nat) (source : AcceleratorError)
  | sharedMemory (cause : SegmentError)
  | invalidConfig (text : String)
  | queueClosed
  | processingFailed (text : String)
  deriving DecidableEq, Repr

namespace ServerError

/-- Addresses are written from the given origin. -/
def message (origin : Text.Origin) : ServerError → String
  | noDevices => "no accelerator devices available"
  | contextCreation source => s!"context creation failed: {source.message}"
  | queueCreation device source =>
    s!"command queue creation failed on device {device}: {source.message}"
  | zoneRegistration address length source =>
    s!"buffer creation failed on host memory ({origin.range address length}): {source.message}"
  | sharedMemory cause => s!"shared memory: {cause.message}"
  | invalidConfig text => s!"invalid configuration: {text}"
  | queueClosed => "server queue is closed"
  | processingFailed text => s!"processing failed: {text}"

def isFatal : ServerError → Bool
  | queueClosed | processingFailed _ => false
  | _ => true

/-- The accelerator's failure inside, if there is one. -/
def source? : ServerError → Option AcceleratorError
  | contextCreation source | queueCreation _ source | zoneRegistration _ _ source => some source
  | _ => none

/-- The failure and behind it the accelerator's failure inside, which thereby is named twice. -/
def chain (origin : Text.Origin) (error : ServerError) : String :=
  match error.source? with
  | none => error.message origin
  | some source => error.message origin ++ ": " ++ source.message

end ServerError

end DispatchServer
