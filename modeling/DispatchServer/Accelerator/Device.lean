/-! Devices as discovery reports them, and the flags that queues and buffers are created with. -/
namespace DispatchServer

/-- Bytes of a mebibyte. -/
def mebibyte : Nat := 0x100000

abbrev DeviceId := Nat

/-- Contexts, queues and buffers are named by numbers from one counter. -/
abbrev Handle := Nat

structure Device where
  id : DeviceId
  index : Nat
  name : String
  maxAlloc : Nat
  deriving DecidableEq, Repr

structure QueueProperties where
  outOfOrder : Bool
  profiling : Bool
  deriving DecidableEq, Repr

/-- What every command queue of the server is created with. -/
def QueueProperties.dispatch : QueueProperties := ⟨true, true⟩

/-- A buffer may wrap memory of the caller instead of allocating its own. -/
structure MemFlags where
  readWrite : Bool
  useHostPtr : Bool
  deriving DecidableEq, Repr

/-- What every zone buffer is created with. -/
def MemFlags.zone : MemFlags := ⟨true, true⟩

def MemFlags.message (flags : MemFlags) : String :=
  "MemFlags \x7b read_write: " ++ toString flags.readWrite ++
    ", use_host_ptr: " ++ toString flags.useHostPtr ++ " \x7d"

end DispatchServer
