import DispatchServer.Failure

/-! Round robin over the devices: a word that counts the selections and starts over after the
largest one. -/
namespace DispatchServer

structure RoundRobin where
  next : UInt64
  devices : Nat
  deriving DecidableEq, Repr

namespace RoundRobin

def create (devices : Nat) : Except ServerError RoundRobin :=
  if devices = 0 then .error .noDevices else .ok ⟨0, devices⟩

/-- The device of this turn, and the state for the next one. -/
def select (robin : RoundRobin) : Nat × RoundRobin :=
  (robin.next.toNat % robin.devices, { robin with next := robin.next + 1 })

/-- The devices of the next turns in a row. -/
def selections (robin : RoundRobin) : Nat → List Nat × RoundRobin
  | 0 => ([], robin)
  | turns + 1 =>
    let (device, robin) := robin.select
    let (devices, robin) := robin.selections turns
    (device :: devices, robin)

end RoundRobin

end DispatchServer
