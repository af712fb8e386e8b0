import Mathlib.Algebra.Order.Floor.Div
import Mathlib.Data.Nat.PSub
import DispatchServer.Memory.Zone

/-! How a segment falls into zones. The callback is asked for one zone after the other, in the order
of their addresses, and the first refusal ends it. If there is none, the zones lie side by side and
fill the segment, so that one division leads to the zone that holds a byte. -/
namespace DispatchServer

def word? (value : Nat) : Option Nat := if value < 2 ^ 64 then some value else none

theorem word?_of_lt {value : Nat} (fits : value < 2 ^ 64) : word? value = some value := if_pos fits

/-- A call of the callback, with its answer. -/
structure Registration where
  address : Nat
  length : Nat
  answer : Except ServerError Handle

namespace Segment

variable {σ : Type}

section

variable (segment : Segment) (zoneLength : Nat)

def zone (index : Nat) (buffer : Handle) : Zone :=
  ⟨index, index * zoneLength, min zoneLength (segment.size - index * zoneLength), buffer⟩

def registration (index : Nat) (answer : Except ServerError Handle) : Registration :=
  ⟨segment.base + index * zoneLength, min zoneLength (segment.size - index * zoneLength), answer⟩

/-- The calls for the zones from an index on, and what comes of them. -/
inductive Registers :
    (remaining index : Nat) → List Registration → Except ServerError (List Zone) → Prop
  | complete (index : Nat) : Registers 0 index [] (.ok [])
  | refused (remaining index : Nat) (error : ServerError) :
      Registers (remaining + 1) index [segment.registration zoneLength index (.error error)]
        (.error error)
  | registered {remaining index : Nat} {calls : List Registration}
      {result : Except ServerError (List Zone)} (buffer : Handle)
      (rest : Registers remaining (index + 1) calls result) :
      Registers (remaining + 1) index
        (segment.registration zoneLength index (.ok buffer) :: calls)
        (result.map (segment.zone zoneLength index buffer :: ·))

/-- The registration with every number that comes up on the way checked to be one of 64 bits. -/
def registerZones? (register : Nat → Nat → σ → Except ServerError Handle × σ) :
    (remaining index : Nat) → σ → Option (Except ServerError (List Zone) × σ)
  | 0, _, state => some (.ok [], state)
  | remaining + 1, index, state => do
    let offset ← word? (index * zoneLength)
    let length := min zoneLength (← segment.size.psub offset)
    match register (← word? (segment.base + offset)) length state with
    | (.error error, state) => some (.error error, state)
    | (.ok buffer, state) =>
      match ← registerZones? register remaining (← word? (index + 1)) state with
      | (.error error, state) => some (.error error, state)
      | (.ok zones, state) => some (.ok (⟨index, offset, length, buffer⟩ :: zones), state)

/-- The setup with the same checks; the quotient that the number of zones is made of is no larger
than the size. -/
def setupZones? (register : Nat → Nat → σ → Except ServerError Handle × σ) (state : σ) :
    Option (Except ServerError ZoneTable × σ) :=
  if zoneLength = 0 then some (.error (.sharedMemory .emptyZone), state)
  else do
    let count ← word? (segment.zoneCount zoneLength)
    match ← segment.registerZones? zoneLength register count 0 state with
    | (.error error, state) => some (.error error, state)
    | (.ok zones, state) => some (.ok ⟨segment.base, zoneLength, zones⟩, state)

end

variable {segment : Segment} {zoneLength remaining index : Nat}

theorem lt_zoneCount_iff (positive : 0 < zoneLength) :
    index < segment.zoneCount zoneLength ↔ index * zoneLength < segment.size := by
  unfold zoneCount
  split
  · rename_i whole
    have size := Nat.div_add_mod' segment.size zoneLength
    rw [whole, Nat.add_zero] at size
    rw [Nat.add_zero, ← Nat.mul_lt_mul_right positive, size]
  · rename_i tail
    rw [Nat.lt_succ_iff, Nat.le_div_iff_mul_le positive]
    refine ⟨fun before => Nat.lt_of_le_of_ne before fun same => tail ?_, Nat.le_of_lt⟩
    rw [← same, Nat.mul_mod_left]

theorem offset_lt (positive : 0 < zoneLength) (here : index < segment.zoneCount zoneLength) :
    index * zoneLength < segment.size := (lt_zoneCount_iff positive).1 here

theorem zoneCount_eq_ceilDiv (segment : Segment) (positive : 0 < zoneLength) :
    segment.zoneCount zoneLength = segment.size ⌈/⌉ zoneLength := by
  refine eq_of_forall_lt_iff fun index => ?_
  rw [lt_zoneCount_iff positive, ← Nat.not_le, ← Nat.not_le, ceilDiv_le_iff_le_mul positive,
    Nat.mul_comm]

theorem zoneCount_le (segment : Segment) (zoneLength : Nat) :
    segment.zoneCount zoneLength ≤ segment.size := by
  rcases Nat.eq_zero_or_pos zoneLength with rfl | positive
  · unfold zoneCount
    split <;> simp_all
    omega
  · refine Nat.le_of_not_lt fun more => ?_
    have begins := (lt_zoneCount_iff positive).1 more
    exact absurd begins (Nat.not_lt.2 (Nat.le_mul_of_pos_right _ positive))

theorem zoneCount_ne_zero (zoneLength : Nat) (mapped : 0 < segment.size) :
    segment.zoneCount zoneLength ≠ 0 := by
  have size := Nat.div_add_mod segment.size zoneLength
  unfold zoneCount
  split
  · rename_i whole
    rintro none
    rw [whole, Nat.add_zero, show segment.size / zoneLength = 0 from none] at size
    omega
  · exact Nat.succ_ne_zero _

theorem setupZones_of_registerZones {register : Nat → Nat → σ → Except ServerError Handle × σ}
    {state after : σ} {result : Except ServerError (List Zone)} (positive : 0 < zoneLength)
    (registered : segment.registerZones zoneLength register (segment.zoneCount zoneLength) 0 state =
      (result, after)) :
    segment.setupZones zoneLength register state =
      (result.map (⟨segment.base, zoneLength, ·⟩), after) := by
  rw [setupZones, if_neg positive.ne', registered]
  cases result <;> rfl

def recording (register : Nat → Nat → σ → Except ServerError Handle × σ) (address length : Nat)
    (state : σ × List Registration) : Except ServerError Handle × σ × List Registration :=
  let (answer, after) := register address length state.1
  (answer, after, state.2 ++ [⟨address, length, answer⟩])

/-- To keep a list of the calls makes no difference, and what is on it decides the result. -/
theorem registers_registerZones (segment : Segment) (zoneLength : Nat)
    (register : Nat → Nat → σ → Except ServerError Handle × σ) (remaining index : Nat) (state : σ)
    (earlier : List Registration) : ∃ calls result after,
      segment.registerZones zoneLength (recording register) remaining index (state, earlier) =
        (result, after, earlier ++ calls) ∧
      segment.registerZones zoneLength register remaining index state = (result, after) ∧
      segment.Registers zoneLength remaining index calls result := by
  induction remaining generalizing index state earlier with
  | zero => exact ⟨[], .ok [], state, by simp [registerZones], rfl, .complete index⟩
  | succ remaining ih =>
    cases asked : register (segment.base + index * zoneLength)
      (min zoneLength (segment.size - index * zoneLength)) state with
    | mk answer mid =>
      cases answer with
      | error error =>
        refine ⟨_, _, mid, ?_, ?_, .refused remaining index error⟩
        · simp only [registerZones, recording, asked, registration]
        · simp only [registerZones, asked]
      | ok buffer =>
        obtain ⟨calls, result, after, recorded, plain, registers⟩ := ih (index + 1) mid
          (earlier ++ [segment.registration zoneLength index (.ok buffer)])
        refine ⟨_, _, after, ?_, ?_, .registered buffer registers⟩
        · simp only [registerZones, recording, asked]
          rw [registration] at recorded
          rw [recorded, List.append_assoc]
          cases result <;> rfl
        · simp only [registerZones, asked, plain]
          cases result <;> rfl

namespace Registers

variable {calls : List Registration} {result : Except ServerError (List Zone)}

theorem calls_eq (registers : segment.Registers zoneLength remaining index calls result) (i : Nat)
    (call : Registration) (here : calls[i]? = some call) :
    call = segment.registration zoneLength (index + i) call.answer := by
  induction registers generalizing i with
  | complete => cases here
  | refused =>
    obtain ⟨rfl, rfl⟩ : i = 0 ∧ _ = call := by simpa [List.getElem?_singleton] using here
    rfl
  | registered buffer rest ih =>
    cases i with
    | zero =>
      cases here
      rfl
    | succ i =>
      rw [← Nat.succ_add_eq_add_succ]
      exact ih i here

theorem of_error {error : ServerError}
    (registers : segment.Registers zoneLength remaining index calls result)
    (refused : result = .error error) : ∃ buffers : List Handle, buffers.length < remaining ∧
      calls.map (·.answer) = buffers.map .ok ++ [.error error] := by
  induction registers with
  | complete => cases refused
  | refused remaining index error =>
    cases refused
    exact ⟨[], Nat.succ_pos remaining, rfl⟩
  | @registered _ _ _ result buffer rest ih =>
    cases result with
    | ok zones => cases refused
    | error error' =>
      cases refused
      obtain ⟨buffers, few, answers⟩ := ih rfl
      exact ⟨buffer :: buffers, Nat.succ_lt_succ few, by simp [answers, registration]⟩

theorem of_ok {zones : List Zone}
    (registers : segment.Registers zoneLength remaining index calls result)
    (complete : result = .ok zones) :
    calls.map (·.answer) = zones.map (.ok ·.buffer) ∧ zones.length = remaining ∧
      ∀ i zone, zones[i]? = some zone →
        zone = segment.zone zoneLength (index + i) zone.buffer := by
  induction registers generalizing zones with
  | complete =>
    cases complete
    exact ⟨rfl, rfl, by simp⟩
  | refused => cases complete
  | @registered _ _ _ result buffer rest ih =>
    cases result with
    | error error => cases complete
    | ok later =>
      cases complete
      obtain ⟨answers, count, places⟩ := ih rfl
      refine ⟨by simp [answers, registration, zone], by simp [count], fun i one here => ?_⟩
      cases i with
      | zero =>
        cases here
        rfl
      | succ i =>
        rw [← Nat.succ_add_eq_add_succ]
        exact places i one here

end Registers

/-- Nothing overflows while zones are registered that begin within a segment of the address
space. -/
theorem registerZones?_eq (register : Nat → Nat → σ → Except ServerError Handle × σ) (state : σ)
    (fits : segment.base + segment.size ≤ 2 ^ 64)
    (few : index + remaining < 2 ^ 64)
    (within : ∀ i < index + remaining, i * zoneLength < segment.size) :
    segment.registerZones? zoneLength register remaining index state =
      some (segment.registerZones zoneLength register remaining index state) := by
  induction remaining generalizing index state with
  | zero => rfl
  | succ remaining ih =>
    have begins := within index (by omega)
    have offset : word? (index * zoneLength) = some (index * zoneLength) := word?_of_lt (by omega)
    have left : segment.size.psub (index * zoneLength) = some (segment.size - index * zoneLength) :=
      Nat.psub_eq_sub begins.le
    have address : word? (segment.base + index * zoneLength) =
        some (segment.base + index * zoneLength) := word?_of_lt (by omega)
    have next : word? (index + 1) = some (index + 1) := word?_of_lt (by omega)
    simp only [registerZones?, registerZones, offset, left, address, Option.bind_eq_bind,
      Option.bind_some]
    cases register (segment.base + index * zoneLength)
      (min zoneLength (segment.size - index * zoneLength)) state with
    | mk answer mid =>
      cases answer with
      | error error => rfl
      | ok buffer =>
        have rest : segment.registerZones? zoneLength register remaining (index + 1) mid =
            some (segment.registerZones zoneLength register remaining (index + 1) mid) :=
          ih mid (by omega) fun i less => within i (by omega)
        simp only [next, rest, Option.bind_some]
        cases segment.registerZones zoneLength register remaining (index + 1) mid with
        | mk result after => cases result <;> rfl

theorem setupZones?_eq (register : Nat → Nat → σ → Except ServerError Handle × σ) (state : σ)
    (word : segment.size < 2 ^ 64) (fits : segment.base + segment.size ≤ 2 ^ 64) :
    segment.setupZones? zoneLength register state =
      some (segment.setupZones zoneLength register state) := by
  unfold setupZones? setupZones
  split
  · rfl
  · rename_i some
    have positive := Nat.pos_of_ne_zero some
    have few : segment.zoneCount zoneLength < 2 ^ 64 :=
      (segment.zoneCount_le zoneLength).trans_lt word
    rw [word?_of_lt few, Option.bind_eq_bind, Option.bind_some,
      registerZones?_eq register state fits (by omega) fun i less =>
        offset_lt positive (by omega)]
    cases segment.registerZones zoneLength register (segment.zoneCount zoneLength) 0 state with
    | mk result after => cases result <;> rfl

end Segment

namespace ZoneTable

/-- The zones of the segment, all of them and in their places. -/
structure Laid (table : ZoneTable) (segment : Segment) (length : Nat) : Prop where
  positive : 0 < length
  base : table.base = segment.base
  zoneLength : table.zoneLength = length
  count : table.zones.length = segment.zoneCount length
  zones : ∀ i zone, table.zones[i]? = some zone → zone = segment.zone length i zone.buffer

variable {σ : Type} {table : ZoneTable} {segment : Segment} {length i byte address : Nat}
  {zone : Zone}

theorem laid_of_setupZones {register : Nat → Nat → σ → Except ServerError Handle × σ}
    {state after : σ} (h : segment.setupZones length register state = (.ok table, after)) :
    table.Laid segment length := by
  rcases Nat.eq_zero_or_pos length with rfl | positive
  · cases h
  obtain ⟨calls, result, after', -, plain, registers⟩ :=
    segment.registers_registerZones length register (segment.zoneCount length) 0 state []
  rw [Segment.setupZones_of_registerZones positive plain] at h
  cases result <;> cases h
  obtain ⟨-, count, places⟩ := registers.of_ok rfl
  exact ⟨positive, rfl, rfl, count, by simpa using places⟩

/-- The zones lie side by side from the first byte of the segment to its last one. -/
structure Tiles (table : ZoneTable) (segment : Segment) (length : Nat) : Prop where
  base : table.base = segment.base
  zoneLength : table.zoneLength = length
  count : table.zones.length = segment.size ⌈/⌉ length
  places : ∀ i zone, table.zones[i]? = some zone → zone.index = i ∧ zone.offset = i * length
  lengths : ∀ zone ∈ table.zones, 1 ≤ zone.length ∧ zone.length ≤ length
  short : ∀ i zone, table.zones[i]? = some zone → zone.length < length →
    i + 1 = table.zones.length
  adjacent : ∀ (i : Nat) (zone next : Zone), table.zones[i]? = some zone →
    table.zones[i + 1]? = some next → zone.offset + zone.length = next.offset
  disjoint : ∀ (i j : Nat) (zone other : Zone), i < j → table.zones[i]? = some zone →
    table.zones[j]? = some other → zone.offset + zone.length ≤ other.offset
  covers : ∀ byte, byte < segment.size ↔
    ∃ zone ∈ table.zones, zone.offset ≤ byte ∧ byte < zone.offset + zone.length

namespace Laid

theorem lt_length_iff (laid : table.Laid segment length) :
    i < table.zones.length ↔ i * length < segment.size := by
  rw [laid.count, Segment.lt_zoneCount_iff laid.positive]

theorem begins (laid : table.Laid segment length) (here : table.zones[i]? = some zone) :
    i * length < segment.size :=
  laid.lt_length_iff.1 (List.getElem?_eq_some_iff.1 here).1

theorem byte_iff (laid : table.Laid segment length) (here : table.zones[i]? = some zone) :
    zone.offset ≤ byte ∧ byte < zone.offset + zone.length ↔
      byte < segment.size ∧ byte / length = i := by
  have begins := laid.begins here
  have positive := laid.positive
  rw [laid.zones i zone here, Segment.zone, Nat.div_eq_iff positive]
  dsimp only
  omega

theorem exists_zone (laid : table.Laid segment length) (inside : byte < segment.size) :
    ∃ zone, table.zones[byte / length]? = some zone ∧
      zone.offset ≤ byte ∧ byte < zone.offset + zone.length := by
  have bound : byte / length < table.zones.length :=
    laid.lt_length_iff.2 ((Nat.div_mul_le_self byte length).trans_lt inside)
  have here := List.getElem?_eq_getElem bound
  exact ⟨_, here, (laid.byte_iff here).2 ⟨inside, rfl⟩⟩

theorem tiles (laid : table.Laid segment length) : table.Tiles segment length where
  base := laid.base
  zoneLength := laid.zoneLength
  count := laid.count.trans (segment.zoneCount_eq_ceilDiv laid.positive)
  places i zone here := by
    rw [laid.zones i zone here]
    exact ⟨rfl, rfl⟩
  lengths zone member := by
    obtain ⟨i, here⟩ := List.mem_iff_getElem?.1 member
    have begins := laid.begins here
    have positive := laid.positive
    rw [laid.zones i zone here, Segment.zone]
    dsimp only
    omega
  short i zone here less := by
    have begins := laid.begins here
    have last : ¬ i + 1 < table.zones.length := by
      rw [laid.zones i zone here, Segment.zone] at less
      rw [laid.lt_length_iff, Nat.succ_mul]
      dsimp only at less
      omega
    exact Nat.le_antisymm (List.getElem?_eq_some_iff.1 here).1 (Nat.le_of_not_lt last)
  adjacent i zone next here there := by
    have begins := laid.begins there
    rw [laid.zones i zone here, laid.zones (i + 1) next there, Segment.zone, Segment.zone]
    rw [Nat.succ_mul] at begins ⊢
    dsimp only
    omega
  disjoint i j zone other before here there := by
    have later : i * length + length ≤ j * length := by
      rw [← Nat.succ_mul]
      exact Nat.mul_le_mul_right length before
    rw [laid.zones i zone here, laid.zones j other there, Segment.zone, Segment.zone]
    dsimp only
    omega
  covers byte := by
    constructor
    · intro inside
      obtain ⟨zone, here, holds⟩ := laid.exists_zone inside
      exact ⟨zone, List.mem_of_getElem? here, holds⟩
    · rintro ⟨zone, member, holds⟩
      obtain ⟨i, here⟩ := List.mem_iff_getElem?.1 member
      exact ((laid.byte_iff here).1 holds).1

theorem holds_iff (laid : table.Laid segment length) (here : table.zones[i]? = some zone) :
    table.holds address zone = true ↔ segment.base ≤ address ∧
      address < segment.base + segment.size ∧ (address - segment.base) / length = i := by
  have byte : zone.offset ≤ address - segment.base ∧
      address - segment.base < zone.offset + zone.length ↔
        address - segment.base < segment.size ∧ (address - segment.base) / length = i :=
    laid.byte_iff here
  rw [holds, laid.base, Bool.and_eq_true, decide_eq_true_iff, decide_eq_true_iff]
  omega

theorem zoneFor?_of_holds (laid : table.Laid segment length) (here : table.zones[i]? = some zone)
    (holds : table.holds address zone = true) : table.zoneFor? address = some zone := by
  obtain ⟨above, inside, rfl⟩ := (laid.holds_iff here).1 holds
  have byte := (laid.byte_iff here).2 ⟨Nat.sub_lt_left_of_lt_add above inside, rfl⟩
  unfold zoneFor?
  rw [laid.base, laid.zoneLength, if_neg (Nat.not_lt.2 above)]
  simp only [here, if_pos byte.2]

theorem holds_of_zoneFor? (laid : table.Laid segment length)
    (found : table.zoneFor? address = some zone) :
    ∃ i : Nat, table.zones[i]? = some zone ∧ table.holds address zone = true := by
  unfold zoneFor? at found
  split at found
  · cases found
  · rename_i above
    dsimp only at found
    split at found
    · cases found
    · rename_i zone' here
      split at found <;> cases found
      rename_i inside
      refine ⟨_, here, ?_⟩
      rw [laid.zoneLength] at here
      have begins : zone.offset ≤ address - table.base := by
        rw [laid.zones _ zone here]
        exact Nat.div_mul_le_self _ _
      rw [holds, Bool.and_eq_true, decide_eq_true_iff, decide_eq_true_iff]
      omega

theorem zoneFor?_eq_search? (laid : table.Laid segment length) (address : Nat) :
    table.zoneFor? address = table.search? address := by
  cases searched : table.search? address with
  | some zone =>
    obtain ⟨i, here⟩ := List.mem_iff_getElem?.1 (List.mem_of_find?_eq_some searched)
    exact laid.zoneFor?_of_holds here (List.find?_some searched)
  | none =>
    refine Option.eq_none_iff_forall_ne_some.2 fun zone found => ?_
    obtain ⟨i, here, holds⟩ := laid.holds_of_zoneFor? found
    exact List.find?_eq_none.1 searched zone (List.mem_of_getElem? here) holds

end Laid

end ZoneTable

/-- A segment of the address space is split without any overflow. The callback is asked for the
zones in the order of their addresses, up to its first refusal, which is the result; if there is
none, the table has the buffers that it answered, and its zones fill the segment side by side.
Zones without a length are refused before any call. -/
theorem zones_tile_segment {σ : Type} {segment : Segment} (word : segment.size < 2 ^ 64)
    (fits : segment.base + segment.size ≤ 2 ^ 64)
    (register : Nat → Nat → σ → Except ServerError Handle × σ) (state : σ) :
    segment.setupZones 0 register state = (.error (.sharedMemory .emptyZone), state) ∧
    ∀ zoneLength, 0 < zoneLength →
      segment.setupZones? zoneLength register state =
        some (segment.setupZones zoneLength register state) ∧
      ∃ calls result after,
        segment.setupZones zoneLength (Segment.recording register) (state, []) =
          (result, after, calls) ∧
        segment.setupZones zoneLength register state = (result, after) ∧
        (∀ i call, calls[i]? = some call → call.address = segment.base + i * zoneLength ∧
          call.length = min zoneLength (segment.size - i * zoneLength)) ∧
        (∀ error, result = .error error → ∃ buffers : List Handle,
          buffers.length < segment.size ⌈/⌉ zoneLength ∧
          calls.map (·.answer) = buffers.map .ok ++ [.error error]) ∧
        ∀ table, result = .ok table → table.Tiles segment zoneLength ∧
          calls.map (·.answer) = table.zones.map (.ok ·.buffer) := by
  refine ⟨rfl, fun zoneLength positive =>
    ⟨Segment.setupZones?_eq register state word fits, ?_⟩⟩
  obtain ⟨calls, result, after, recorded, plain, registers⟩ :=
    segment.registers_registerZones zoneLength register (segment.zoneCount zoneLength) 0 state []
  have plain := Segment.setupZones_of_registerZones positive plain
  refine ⟨calls, result.map (⟨segment.base, zoneLength, ·⟩), after,
    Segment.setupZones_of_registerZones positive recorded, plain, fun i call here => ?_,
    fun error refused => ?_, fun table complete => ⟨?_, ?_⟩⟩
  · rw [registers.calls_eq i call here, Nat.zero_add]
    exact ⟨rfl, rfl⟩
  · rw [← segment.zoneCount_eq_ceilDiv positive]
    cases result <;> cases refused
    exact registers.of_error rfl
  · rw [complete] at plain
    exact (ZoneTable.laid_of_setupZones plain).tiles
  · cases result <;> cases complete
    exact (registers.of_ok rfl).1

/-- The segment ends with the address space, and its last zone is a short one. -/
theorem zones_tile_segment_of_last_bytes :
    (Segment.mk (2 ^ 64 - 10) 10).size < 2 ^ 64 ∧ 2 ^ 64 - 10 + 10 ≤ 2 ^ 64 ∧
    ∃ table, (Segment.mk (2 ^ 64 - 10) 10).setupZones 4
        (fun _ _ (calls : Nat) => (.ok calls, calls + 1)) 7 = (.ok table, 10) ∧
      table.buffers = [7, 8, 9] ∧ table.Tiles ⟨2 ^ 64 - 10, 10⟩ 4 := by
  have word : (Segment.mk (2 ^ 64 - 10) 10).size < 2 ^ 64 := by decide
  have fits : 2 ^ 64 - 10 + 10 ≤ 2 ^ 64 := by decide
  obtain ⟨-, split⟩ := zones_tile_segment word fits
    (fun _ _ (calls : Nat) => (.ok calls, calls + 1)) 7
  obtain ⟨-, calls, result, after, -, plain, -, -, complete⟩ := split 4 (by decide)
  have built : (Segment.mk (2 ^ 64 - 10) 10).setupZones 4
      (fun _ _ (calls : Nat) => (.ok calls, calls + 1)) 7 =
        (.ok ⟨2 ^ 64 - 10, 4, [⟨0, 0, 4, 7⟩, ⟨1, 4, 4, 8⟩, ⟨2, 8, 2, 9⟩]⟩, 10) := rfl
  obtain ⟨rfl, rfl⟩ := Prod.mk.inj (plain.symm.trans built)
  exact ⟨word, fits, _, built, rfl, (complete _ rfl).1⟩

/-- The zone of an address is found by one division wherever a look at every zone finds it; each
byte of the segment has one zone, and no other address has any. -/
theorem lookup_finds_zone {σ : Type} {segment : Segment} {zoneLength : Nat}
    {register : Nat → Nat → σ → Except ServerError Handle × σ} {state after : σ}
    {table : ZoneTable}
    (built : segment.setupZones zoneLength register state = (.ok table, after)) :
    (∀ address, segment.base ≤ address → address < segment.base + segment.size →
      ∃ i zone, table.get? i = some zone ∧ table.zoneFor? address = some zone ∧
        segment.base + zone.offset ≤ address ∧
        address < segment.base + zone.offset + zone.length ∧
        ∀ j other, table.get? j = some other → segment.base + other.offset ≤ address →
          address < segment.base + other.offset + other.length → j = i) ∧
    (∀ address, address < segment.base ∨ segment.base + segment.size ≤ address →
      table.zoneFor? address = none) ∧
    (∀ address, table.zoneFor? address = table.search? address) ∧
    ∀ i zone, table.get? i = some zone → ∀ byte < zone.length,
      table.zoneFor? (segment.base + zone.offset + byte) = some zone := by
  have laid := ZoneTable.laid_of_setupZones built
  have holds (address : Nat) (zone : Zone) : table.holds address zone = true ↔
      segment.base + zone.offset ≤ address ∧
        address < segment.base + zone.offset + zone.length := by
    rw [ZoneTable.holds, laid.base, Bool.and_eq_true, decide_eq_true_iff, decide_eq_true_iff]
  refine ⟨fun address above inside => ?_, fun address outside => ?_, laid.zoneFor?_eq_search?,
    fun i zone here byte less => ?_⟩
  · obtain ⟨zone, here, -⟩ := laid.exists_zone (Nat.sub_lt_left_of_lt_add above inside)
    have held := (laid.holds_iff here).2 ⟨above, inside, rfl⟩
    obtain ⟨first, last⟩ := (holds address zone).1 held
    refine ⟨_, zone, here, laid.zoneFor?_of_holds here held, first, last,
      fun j other there first last => ?_⟩
    exact ((laid.holds_iff there).1 ((holds address other).2 ⟨first, last⟩)).2.2.symm
  · refine Option.eq_none_iff_forall_ne_some.2 fun zone found => ?_
    obtain ⟨i, here, held⟩ := laid.holds_of_zoneFor? found
    obtain ⟨above, inside, -⟩ := (laid.holds_iff here).1 held
    omega
  · exact laid.zoneFor?_of_holds here ((holds _ zone).2 (by omega))

/-- The last byte of a short last zone, and the address behind it. -/
theorem lookup_finds_zone_of_short_tail :
    ∃ table, (Segment.mk 0x1000 10).setupZones 4
        (fun _ _ (calls : Nat) => (.ok calls, calls + 1)) 7 = (.ok table, 10) ∧
      table.zoneFor? 0x1009 = some ⟨2, 8, 2, 9⟩ ∧ table.zoneFor? 0x100a = none := by
  have built : (Segment.mk 0x1000 10).setupZones 4
      (fun _ _ (calls : Nat) => (.ok calls, calls + 1)) 7 =
        (.ok ⟨0x1000, 4, [⟨0, 0, 4, 7⟩, ⟨1, 4, 4, 8⟩, ⟨2, 8, 2, 9⟩]⟩, 10) := rfl
  obtain ⟨-, outside, -, bytes⟩ := lookup_finds_zone built
  exact ⟨_, built, bytes 2 _ rfl 1 (by decide), outside 0x100a (by decide)⟩

end DispatchServer
