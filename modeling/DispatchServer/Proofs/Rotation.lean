import Mathlib.Data.Int.CardIntervalMod
import DispatchServer.Proofs.Traffic

/-! Turns that many callers take at one round robin. A call increments the counter in one step and
makes a device of the value that it got in another one, so that calls may return in any order; but
every value is handed out once, and this alone decides how often each device is picked. -/
namespace DispatchServer

namespace RoundRobin

def later (robin : RoundRobin) : Nat → RoundRobin
  | 0 => robin
  | turns + 1 => (robin.later turns).select.2

def device (robin : RoundRobin) (turn : Nat) : Nat := (robin.later turn).select.1

variable {robin : RoundRobin}

@[simp] theorem devices_later (robin : RoundRobin) (turns : Nat) :
    (robin.later turns).devices = robin.devices := by
  induction turns with
  | zero => rfl
  | succ turns ih => exact ih

theorem later_select (robin : RoundRobin) (turns : Nat) :
    robin.select.2.later turns = robin.later (turns + 1) := by
  induction turns with
  | zero => rfl
  | succ turns ih => rw [later, ih]; rfl

theorem toNat_next_later (robin : RoundRobin) (turns : Nat) :
    (robin.later turns).next.toNat = (robin.next.toNat + turns) % 2 ^ 64 := by
  induction turns with
  | zero => exact (Nat.mod_eq_of_lt robin.next.toNat_lt).symm
  | succ turns ih =>
    rw [later, select, UInt64.toNat_add, ih, UInt64.toNat_one, Nat.mod_add_mod, Nat.add_assoc]

theorem device_eq (robin : RoundRobin) (turn : Nat) :
    robin.device turn = (robin.next.toNat + turn) % 2 ^ 64 % robin.devices := by
  rw [device, select, toNat_next_later, devices_later]

/-- Turns that are taken in a row. -/
theorem selections_eq (robin : RoundRobin) (turns : Nat) :
    robin.selections turns = ((List.range turns).map robin.device, robin.later turns) := by
  induction turns generalizing robin with
  | zero => rfl
  | succ turns ih =>
    have devices : robin.select.2.device = robin.device ∘ Nat.succ := by
      funext turn
      exact congrArg (·.select.1) (robin.later_select turn)
    have rest := ih robin.select.2
    rw [devices, later_select] at rest
    rw [List.range_succ_eq_map, List.map_cons, List.map_map]
    simp only [selections, rest]
    rfl

theorem device_lt (given : 0 < robin.devices) (turn : Nat) :
    robin.device turn < robin.devices := by
  rw [device_eq]
  exact Nat.mod_lt _ given

theorem device_of_lt {turn : Nat} (few : robin.next.toNat + turn < 2 ^ 64) :
    robin.device turn = (robin.next.toNat + turn) % robin.devices := by
  rw [device_eq, Nat.mod_eq_of_lt few]

theorem device_zero {devices turn : Nat} (few : turn < 2 ^ 64) :
    device ⟨0, devices⟩ turn = turn % devices := by
  rw [device_of_lt, UInt64.toNat_zero, Nat.zero_add]
  rwa [UInt64.toNat_zero, Nat.zero_add]

/-- As long as the counter does not start over, a round goes to each device once. -/
theorem round_perm (few : robin.next.toNat + robin.devices ≤ 2 ^ 64) :
    ((List.range robin.devices).map robin.device).Perm (List.range robin.devices) := by
  have turns : (List.range robin.devices).map robin.device =
      (List.range' robin.next.toNat robin.devices).map (· % robin.devices) := by
    rw [List.range'_eq_map_range, List.map_map]
    refine List.map_congr_left fun turn less => device_of_lt ?_
    have less := List.mem_range.1 less
    omega
  have interval : Multiset.Ico robin.next.toNat (robin.next.toNat + robin.devices) =
      (List.range' robin.next.toNat robin.devices : Multiset Nat) := by
    refine (congrArg Finset.val (Nat.Ico_eq_range' _ _)).trans ?_
    rw [Nat.add_sub_cancel_left]
  rw [turns, ← Multiset.coe_eq_coe, ← Multiset.map_coe, ← interval, Nat.multiset_Ico_map_mod]
  rfl

theorem unbroken_iff (robin : RoundRobin) :
    (∀ turn, robin.device turn = (robin.next.toNat + turn) % robin.devices) ↔
      robin.devices ∣ 2 ^ 64 := by
  constructor
  · intro unbroken
    have start := unbroken (2 ^ 64 - robin.next.toNat)
    rw [device_eq, Nat.add_sub_cancel' robin.next.toNat_lt.le, Nat.mod_self, Nat.zero_mod] at start
    exact Nat.dvd_of_mod_eq_zero start.symm
  · intro whole turn
    rw [device_eq, Nat.mod_mod_of_dvd _ whole]

theorem device_succ {turn : Nat} (goesOn : (robin.next.toNat + turn + 1) % 2 ^ 64 ≠ 0) :
    robin.device (turn + 1) = (robin.device turn + 1) % robin.devices := by
  have next : (robin.next.toNat + (turn + 1)) % 2 ^ 64 =
      (robin.next.toNat + turn) % 2 ^ 64 + 1 := by omega
  rw [device_eq, device_eq, next, Nat.mod_add_mod]

theorem device_succ_of_restart {turn : Nat} (part : ¬ robin.devices ∣ 2 ^ 64)
    (restarts : robin.next.toNat + turn + 1 = 2 ^ 64) :
    robin.device (turn + 1) = 0 ∧
      robin.device (turn + 1) ≠ (robin.device turn + 1) % robin.devices := by
  have start : robin.device (turn + 1) = 0 := by
    rw [device_eq, ← Nat.add_assoc, restarts, Nat.mod_self, Nat.zero_mod]
  have last : (robin.next.toNat + turn) % 2 ^ 64 + 1 = 2 ^ 64 := by omega
  refine ⟨start, fun same => part (Nat.dvd_of_mod_eq_zero ?_)⟩
  rw [start, device_eq, Nat.mod_add_mod, last] at same
  exact same.symm

theorem restarts_once (part : ¬ robin.devices ∣ 2 ^ 64) :
    ∃ restart < 2 ^ 64, robin.device (restart + 1) = 0 ∧
      robin.device (restart + 1) ≠ (robin.device restart + 1) % robin.devices ∧
      ∀ turn < 2 ^ 64, turn ≠ restart →
        robin.device (turn + 1) = (robin.device turn + 1) % robin.devices := by
  have word := robin.next.toNat_lt
  have restarts : robin.next.toNat + (2 ^ 64 - 1 - robin.next.toNat) + 1 = 2 ^ 64 := by omega
  obtain ⟨zero, other⟩ := device_succ_of_restart part restarts
  exact ⟨_, by omega, zero, other, fun turn less apart => device_succ (by omega)⟩

theorem count_turns {devices device : Nat} (turns : Nat) (known : device < devices) :
    turns / devices ≤ ((Multiset.range turns).map (· % devices)).count device ∧
      ((Multiset.range turns).map (· % devices)).count device ≤ turns / devices + 1 := by
  have count : ((Multiset.range turns).map (· % devices)).count device =
      Nat.count (· ≡ device [MOD devices]) turns := by
    rw [Multiset.count_map, Nat.count_eq_card_filter_range]
    refine congrArg Multiset.card (Multiset.filter_congr fun turn _ => ?_)
    rw [Nat.ModEq, Nat.mod_eq_of_lt known, eq_comm]
  rw [count, Nat.count_modEq_card turns (Nat.zero_lt_of_lt known)]
  split <;> omega

end RoundRobin

/-- Somebody who asks for devices. -/
structure Caller where
  taken : Option UInt64
  returned : List Nat

/-- The devices that the calls of the caller return, the call under way included. -/
def Caller.picks (devices : Nat) (caller : Caller) : Multiset Nat :=
  caller.returned + caller.taken.toList.map fun value => value.toNat % devices

/-- Callers at one round robin. -/
structure Rota where
  robin : RoundRobin
  callers : List Caller

namespace Rota

def opening (robin : RoundRobin) (callers : Nat) : Rota := ⟨robin, .replicate callers ⟨none, []⟩⟩

/-- The next step of a caller. It has its turn, of which this is the device, and gets the counter's
value for it; or it returns the device of the value that it got. -/
def step (rota : Rota) (i : Nat) : Option Nat × Rota :=
  match rota.callers[i]? with
  | none => (none, rota)
  | some ⟨none, returned⟩ => (some rota.robin.select.1,
      ⟨rota.robin.select.2, rota.callers.set i ⟨some rota.robin.next, returned⟩⟩)
  | some ⟨some value, returned⟩ => (none,
      ⟨rota.robin, rota.callers.set i ⟨none, returned ++ [value.toNat % rota.robin.devices]⟩⟩)

/-- Steps of the callers in the order of a schedule, and the devices of the turns in the order in
which they were had. -/
def run (rota : Rota) : List Nat → List Nat × Rota
  | [] => ([], rota)
  | i :: schedule =>
    let (turn, rota) := rota.step i
    let (turns, rota) := rota.run schedule
    (turn.toList ++ turns, rota)

def returned (rota : Rota) : Multiset Nat :=
  (rota.callers.map fun caller => (caller.returned : Multiset Nat)).sum

/-- The devices that the calls under way will return. -/
def pending (rota : Rota) : Multiset Nat :=
  (rota.callers.map fun caller =>
    (caller.taken.toList.map fun value => value.toNat % rota.robin.devices : Multiset Nat)).sum

theorem returned_add_pending (rota : Rota) : rota.returned + rota.pending =
    (rota.callers.map (Caller.picks rota.robin.devices)).sum := by
  rw [returned, pending, ← List.sum_map_add]
  rfl

theorem step_cases (rota : Rota) (i : Nat) :
    (rota.step i).1 = none ∧ (rota.step i).2.robin = rota.robin ∨
      (rota.step i).1 = some rota.robin.select.1 ∧
        (rota.step i).2.robin = rota.robin.select.2 := by
  unfold step
  split
  · exact .inl ⟨rfl, rfl⟩
  · exact .inr ⟨rfl, rfl⟩
  · exact .inl ⟨rfl, rfl⟩

/-- A turn is one call more that is under way, and a return is one call less. -/
theorem step_picks (rota : Rota) (i : Nat) :
    (rota.step i).2.returned + (rota.step i).2.pending =
      rota.returned + rota.pending + ((rota.step i).1.toList : Multiset Nat) := by
  rw [returned_add_pending, returned_add_pending]
  unfold step
  split
  · exact (add_zero _).symm
  · rename_i returned here
    have gained : Caller.picks rota.robin.devices ⟨some rota.robin.next, returned⟩ =
        Caller.picks rota.robin.devices ⟨none, returned⟩ +
          ([rota.robin.select.1] : List Nat) := by
      simp [Caller.picks, RoundRobin.select]
    have balance := sum_map_set_balance _ here ((add_zero _).trans gained)
    rwa [add_zero] at balance
  · rename_i value returned here
    have same : Caller.picks rota.robin.devices
        ⟨none, returned ++ [value.toNat % rota.robin.devices]⟩ =
          Caller.picks rota.robin.devices ⟨some value, returned⟩ := by
      simp [Caller.picks, ← Multiset.coe_add]
    have balance := sum_map_set_balance _ here (congrArg (· + 0) same)
    rwa [add_zero] at balance

/-- Whoever has them, the turns are those that one caller has in a row. -/
theorem selections_run (rota : Rota) (schedule : List Nat) :
    rota.robin.selections (rota.run schedule).1.length =
      ((rota.run schedule).1, (rota.run schedule).2.robin) := by
  induction schedule generalizing rota with
  | nil => rfl
  | cons i schedule ih =>
    have rest := ih (rota.step i).2
    rw [run]
    rcases rota.step_cases i with ⟨none, same⟩ | ⟨turn, next⟩
    · rw [same] at rest
      simpa only [none, Option.toList_none, List.nil_append] using rest
    · rw [next] at rest
      simp only [turn, Option.toList_some, List.singleton_append, List.length_cons,
        RoundRobin.selections, rest]

theorem run_picks (rota : Rota) (schedule : List Nat) :
    (rota.run schedule).2.returned + (rota.run schedule).2.pending =
      rota.returned + rota.pending + ((rota.run schedule).1 : Multiset Nat) := by
  induction schedule generalizing rota with
  | nil => exact (add_zero _).symm
  | cons i schedule ih =>
    rw [run, ih, step_picks, add_assoc, Multiset.coe_add]

theorem of_run {rota rota' : Rota} {schedule turns : List Nat}
    (runs : rota.run schedule = (turns, rota')) :
    rota'.robin = rota.robin.later turns.length ∧
      turns = (List.range turns.length).map rota.robin.device ∧
      rota'.returned + rota'.pending =
        rota.returned + rota.pending + (turns : Multiset Nat) := by
  have selections := rota.selections_run schedule
  have picks := rota.run_picks schedule
  rw [runs] at selections picks
  rw [RoundRobin.selections_eq] at selections
  obtain ⟨turns_eq, robin⟩ := Prod.mk.inj selections
  exact ⟨robin.symm, turns_eq.symm, picks⟩

theorem picks_of_opening {robin : RoundRobin} {callers : Nat} {schedule turns : List Nat}
    {rota : Rota} (runs : (opening robin callers).run schedule = (turns, rota)) :
    rota.returned + rota.pending = (Multiset.range turns.length).map robin.device := by
  obtain ⟨-, turns_eq, picks⟩ := of_run runs
  have none : (opening robin callers).returned + (opening robin callers).pending = 0 := by
    simp [opening, returned, pending]
  rw [picks, none, zero_add]
  exact congrArg _ turns_eq

end Rota

/-- Any number of callers pick devices in turn, with calls that go on at the same time. What they
get are the devices that one caller would get in a row, and hence each device as often as any other
but for one turn. Where the counter starts over, the devices go on in turn if the counter holds
whole rounds; if it does not, they start over with it, and nowhere else. -/
theorem callers_take_turns {devices : Nat} (given : 0 < devices) :
    RoundRobin.create devices = .ok ⟨0, devices⟩ ∧
    (∀ (first : Rota) schedule turns rota, first.robin.devices = devices →
      first.run schedule = (turns, rota) →
      turns = (first.robin.selections turns.length).1 ∧
      rota.returned + rota.pending = first.returned + first.pending + (turns : Multiset Nat) ∧
      (∀ device ∈ turns, device < devices) ∧
      (turns.length = devices → first.robin.next.toNat + devices ≤ 2 ^ 64 →
        turns.Perm (List.range devices))) ∧
    (∀ callers schedule turns rota,
      (Rota.opening ⟨0, devices⟩ callers).run schedule = (turns, rota) →
      (∀ device ∈ rota.returned + rota.pending, device < devices) ∧
      (turns.length ≤ 2 ^ 64 →
        rota.returned + rota.pending = (Multiset.range turns.length).map (· % devices) ∧
        ∀ a < devices, ∀ b < devices, (rota.returned + rota.pending).count a ≤
          (rota.returned + rota.pending).count b + 1) ∧
      (turns.length < 2 ^ 64 → rota.robin.select.1 = turns.length % devices)) ∧
    ∀ robin : RoundRobin, robin.devices = devices →
      ((∀ turn, robin.device turn = (robin.next.toNat + turn) % devices) ↔ devices ∣ 2 ^ 64) ∧
      (¬ devices ∣ 2 ^ 64 → ∃ restart < 2 ^ 64, robin.device (restart + 1) = 0 ∧
        robin.device (restart + 1) ≠ (robin.device restart + 1) % devices ∧
        ∀ turn < 2 ^ 64, turn ≠ restart →
          robin.device (turn + 1) = (robin.device turn + 1) % devices) := by
  refine ⟨if_neg given.ne', fun first schedule turns rota same runs => ?_,
    fun callers schedule turns rota runs => ?_, fun robin same => ?_⟩
  · subst same
    obtain ⟨-, turns_eq, picks⟩ := Rota.of_run runs
    refine ⟨by rwa [RoundRobin.selections_eq], picks, fun device member => ?_,
      fun round few => ?_⟩
    · rw [turns_eq] at member
      obtain ⟨turn, -, rfl⟩ := List.mem_map.1 member
      exact RoundRobin.device_lt given turn
    · rw [turns_eq, round]
      exact RoundRobin.round_perm few
  · obtain ⟨robin, -, -⟩ := Rota.of_run runs
    have picks := Rota.picks_of_opening runs
    refine ⟨fun device member => ?_, fun few => ?_, fun few => ?_⟩
    · rw [picks] at member
      obtain ⟨turn, -, rfl⟩ := Multiset.mem_map.1 member
      exact RoundRobin.device_lt given turn
    · have whole : rota.returned + rota.pending =
          (Multiset.range turns.length).map (· % devices) :=
        picks.trans (Multiset.map_congr rfl fun turn less =>
          RoundRobin.device_zero ((Multiset.mem_range.1 less).trans_le few))
      refine ⟨whole, fun a here b there => ?_⟩
      rw [whole]
      exact (RoundRobin.count_turns turns.length here).2.trans
        (Nat.succ_le_succ (RoundRobin.count_turns turns.length there).1)
    · rw [robin]
      exact RoundRobin.device_zero few
  · subst same
    exact ⟨robin.unbroken_iff, RoundRobin.restarts_once⟩

/-- The second caller has its device before the first one, which then makes a second call. -/
theorem callers_take_turns_of_three :
    0 < 3 ∧ ∃ rota, (Rota.opening ⟨0, 3⟩ 2).run [0, 1, 1, 1, 0, 1, 0] = ([0, 1, 2, 0], rota) ∧
      rota.callers.map (·.returned) = [[0], [1, 2]] ∧
      rota.returned + rota.pending = (Multiset.range 4).map (· % 3) ∧
      rota.robin.select.1 = 4 % 3 := by
  obtain ⟨-, -, fromZero, -⟩ := callers_take_turns (show 0 < 3 by decide)
  obtain ⟨-, balanced, next⟩ := fromZero 2 [0, 1, 1, 1, 0, 1, 0] [0, 1, 2, 0] _ rfl
  exact ⟨by decide, _, rfl, rfl, (balanced (by decide)).1, next (by decide)⟩

end DispatchServer
