import DispatchServer.Accelerator.Host

/-! Which pages of an address space exist. Page sets are lists of half-open page intervals, and
cutting one interval out of a set is the only operation they need. -/
namespace DispatchServer

def pageSize : Nat := 4096

abbrev PageSet := List (Nat × Nat)

namespace PageSet

/-- The pages that a range of bytes touches. -/
def touched (address length : Nat) : Nat × Nat :=
  (address / pageSize, (address + length + (pageSize - 1)) / pageSize)

/-- What is left of the set without the pages of one interval. -/
def remove (pages : PageSet) (cut : Nat × Nat) : PageSet :=
  pages.flatMap fun (first, stop) =>
    [(first, min stop cut.1), (max first cut.2, stop)].filter fun (first, stop) => first < stop

def add (pages : PageSet) (added : Nat × Nat) : PageSet := added :: pages

/-- Cutting every mapped interval out of the wanted one leaves nothing. -/
def covers (pages : PageSet) (wanted : Nat × Nat) : Bool :=
  (pages.foldl remove [wanted]).isEmpty

/-- Pages can be locked and unlocked exactly while all of them exist. -/
def locks (pages : PageSet) : PageLocks where
  lock address length := if pages.covers (touched address length) then none else some .outOfMemory
  unlock address length :=
    if pages.covers (touched address length) then none else some .outOfMemory

end PageSet

end DispatchServer
