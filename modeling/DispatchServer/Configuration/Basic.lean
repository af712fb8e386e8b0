import DispatchServer.Server

/-! The configuration of the daemon, its limits, and the sizes in bytes that it stands for. Sizes
are words; a size in mebibytes becomes bytes by a shift, and bits that the shift loses are found by
shifting back. -/
namespace DispatchServer

/-- How much is said beside each log line. -/
inductive Verbosity
  | terse
  | default
  | verbose
  deriving DecidableEq, Repr

namespace Verbosity

def name : Verbosity → String
  | terse => "terse"
  | default => "default"
  | verbose => "verbose"

def all : List Verbosity := [terse, default, verbose]

/-- Only the exact name is accepted. -/
def ofName? (name : String) : Option Verbosity := all.find? (·.name == name)

end Verbosity

structure Config where
  threads : UInt32
  memoryMb : UInt64
  deviceMb : List UInt64
  lockPages : Bool
  verbosity : Verbosity
  deriving DecidableEq, Repr

/-- Why a configuration cannot be used. -/
inductive ConfigError
  | tooManyThreads (threads : UInt32)
  | emptySegment
  | noDevice
  | emptyDevice
  | deviceTooLarge (mb : UInt64)
  | segmentTooLarge (mb : UInt64)
  deriving DecidableEq, Repr

/-- Most server threads that can be asked for. -/
def maxThreads : Nat := 0x7fffffff

def ConfigError.message : ConfigError → String
  | tooManyThreads threads => s!"num_threads must be in [0, {maxThreads}], got {threads.toNat}"
  | emptySegment => "shmem_size_mb must be greater than zero"
  | noDevice => "at least one device is required"
  | emptyDevice => "device max alloc must be greater than zero"
  | deviceTooLarge mb => s!"device max alloc of {mb.toNat} MB is too large"
  | segmentTooLarge mb => s!"shared memory size of {mb.toNat} MB is too large"

/-- Mebibytes as bytes, unless bits are lost. -/
def bytesOfMb? (mb : UInt64) : Option UInt64 :=
  let bytes := mb <<< 20
  if bytes >>> 20 = mb then some bytes else none

namespace Config

def initial : Config := ⟨0, 256, [128], false, .default⟩

/-- The limit of each device in bytes; the first that is too large is named. -/
def deviceBytes (config : Config) : Except ConfigError (List UInt64) :=
  config.deviceMb.mapM fun mb => match bytesOfMb? mb with
    | some bytes => .ok bytes
    | none => .error (.deviceTooLarge mb)

def settings (config : Config) : Except ConfigError Settings :=
  match bytesOfMb? config.memoryMb with
  | some bytes => .ok ⟨config.threads.toNat, bytes.toNat⟩
  | none => .error (.segmentTooLarge config.memoryMb)

/-- The first limit that is violated. -/
def validate (config : Config) : Except ConfigError Unit :=
  if maxThreads < config.threads.toNat then .error (.tooManyThreads config.threads)
  else if config.memoryMb = 0 then .error .emptySegment
  else if config.deviceMb.isEmpty then .error .noDevice
  else if config.deviceMb.contains 0 then .error .emptyDevice
  else
    match config.deviceBytes with
    | .error error => .error error
    | .ok _ =>
      match config.settings with
      | .error error => .error error
      | .ok _ => .ok ()

end Config

end DispatchServer
