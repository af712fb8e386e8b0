import DispatchServer.Proofs.Configuration

/-! Which limit of a configuration is reported. The limits are checked in a fixed order, so that of
several that are violated it is the first in this order; and what passes the checks has its exact
sizes in bytes. -/
namespace DispatchServer

/-- The place of a limit in the order of the checks. -/
def ConfigError.rank : ConfigError → Nat
  | tooManyThreads _ => 0
  | emptySegment => 1
  | noDevice => 2
  | emptyDevice => 3
  | deviceTooLarge _ => 4
  | segmentTooLarge _ => 5

namespace Config

/-- The configuration violates a limit. -/
inductive Violates (config : Config) : ConfigError → Prop
  | threads (many : 0x7fffffff < config.threads.toNat) :
      Violates config (.tooManyThreads config.threads)
  | memory (none : config.memoryMb.toNat = 0) : Violates config .emptySegment
  | devices (none : config.deviceMb = []) : Violates config .noDevice
  | device (empty : 0 ∈ config.deviceMb) : Violates config .emptyDevice
  | overflow {mb : UInt64} (first : Overflows config.deviceMb mb) :
      Violates config (.deviceTooLarge mb)
  | segment (large : 2 ^ 44 ≤ config.memoryMb.toNat) :
      Violates config (.segmentTooLarge config.memoryMb)

variable {config : Config} {error other : ConfigError}

theorem Overflows.unique {sizes : List UInt64} {a b : UInt64} (first : Overflows sizes a)
    (second : Overflows sizes b) : a = b := by
  induction sizes with
  | nil => exact absurd first.mem.1 List.not_mem_nil
  | cons mb sizes ih =>
    obtain ⟨before, after, same, small, large⟩ := first
    obtain ⟨before', after', same', small', large'⟩ := second
    cases before with
    | nil =>
      obtain ⟨rfl, rfl⟩ := List.cons.inj same
      cases before' with
      | nil => exact (List.cons.inj same').1
      | cons c before' =>
        obtain ⟨rfl, -⟩ := List.cons.inj same'
        exact absurd (small' mb List.mem_cons_self) large
    | cons c before =>
      obtain ⟨rfl, rest⟩ := List.cons.inj same
      obtain ⟨fits, small⟩ := List.forall_mem_cons.1 small
      cases before' with
      | nil =>
        obtain ⟨rfl, -⟩ := List.cons.inj same'
        exact absurd fits large'
      | cons c' before' =>
        obtain ⟨rfl, rest'⟩ := List.cons.inj same'
        exact ih ⟨before, after, rest, small, large⟩
          ⟨before', after', rest', (List.forall_mem_cons.1 small').2, large'⟩

theorem Violates.unique (first : config.Violates error) (second : config.Violates other)
    (same : error.rank = other.rank) : error = other := by
  cases first with
  | overflow first =>
    cases second with
    | overflow second => rw [first.unique second]
    | _ => cases same
  | _ => cases second <;> first | rfl | cases same

theorem Valid.not_violates (valid : config.Valid) : ¬ config.Violates error := by
  intro violates
  cases violates with
  | threads many => exact absurd valid.threads (Nat.not_le.2 many)
  | memory none => exact valid.memory.1.ne' none
  | devices none => exact valid.some none
  | device empty => exact absurd (valid.devices 0 empty).1 (by decide)
  | overflow first => exact first.mem.2 (valid.devices _ first.mem.1).2
  | segment large => exact absurd valid.memory.2 (Nat.not_lt.2 large)

theorem violates_of_validate (h : config.validate = .error error) :
    config.Violates error ∧ ∀ other, config.Violates other → error.rank ≤ other.rank := by
  unfold validate at h
  split at h <;> rename_i threads
  · cases h
    exact ⟨.threads threads, fun _ _ => Nat.zero_le _⟩
  split at h <;> rename_i memory
  · cases h
    refine ⟨.memory (congrArg UInt64.toNat memory), fun other violates => ?_⟩
    cases violates <;> simp_all [ConfigError.rank, maxThreads]
  have some : config.memoryMb.toNat ≠ 0 := fun none => memory (UInt64.toNat_inj.1 none)
  split at h <;> rename_i devices
  · cases h
    refine ⟨.devices (List.isEmpty_iff.1 devices), fun other violates => ?_⟩
    cases violates <;> simp_all [ConfigError.rank, maxThreads]
  split at h <;> rename_i empty
  · cases h
    refine ⟨.device (by simpa using empty), fun other violates => ?_⟩
    cases violates <;> simp_all [ConfigError.rank, maxThreads]
  split at h <;> rename_i bytes
  · cases h
    rcases config.deviceBytes_cases with ⟨-, fits⟩ | ⟨large, overflows, refused⟩
    · cases fits.symm.trans bytes
    · cases refused.symm.trans bytes
      refine ⟨.overflow overflows, fun other violates => ?_⟩
      cases violates <;> simp_all [ConfigError.rank, maxThreads]
  split at h <;> rename_i settings
  · cases h
    have large : ¬ config.memoryMb.toNat < 2 ^ 44 := fun fits => by
      cases (settings_ok fits).symm.trans settings
    cases (settings_error large).symm.trans settings
    refine ⟨.segment (Nat.not_lt.1 large), fun other violates => ?_⟩
    cases violates with
    | overflow first =>
      rcases config.deviceBytes_cases with ⟨fits, -⟩ | ⟨_, -, refused⟩
      · exact absurd (fits _ first.mem.1) first.mem.2
      · cases refused.symm.trans bytes
    | _ => simp_all [ConfigError.rank, maxThreads]
  · cases h

theorem validate_error_iff : config.validate = .error error ↔
    config.Violates error ∧ ∀ other, config.Violates other → error.rank ≤ other.rank := by
  refine ⟨violates_of_validate, fun ⟨violates, first⟩ => ?_⟩
  cases reported : config.validate with
  | ok => exact absurd violates ((validate_ok_iff config).1 reported).not_violates
  | error found =>
    obtain ⟨violates', first'⟩ := violates_of_validate reported
    have same := Nat.le_antisymm (first' _ violates) (first _ violates')
    rw [violates'.unique violates same]

end Config

/-- A configuration passes if and only if it keeps the limits; otherwise the first limit that it
violates is reported. Whether or not it passes, the conversions to bytes give the exact sizes, or
name what is too large; and if it passes, they give sizes, of which none is zero. -/
theorem limits_checked_in_order (config : Config) :
    (config.validate = .ok () ↔ config.Valid) ∧
    (∀ error, config.validate = .error error ↔
      config.Violates error ∧ ∀ other, config.Violates other → error.rank ≤ other.rank) ∧
    config.settings = (if config.memoryMb.toNat < 2 ^ 44 then
      .ok ⟨config.threads.toNat, config.memoryMb.toNat * 2 ^ 20⟩
      else .error (.segmentTooLarge config.memoryMb)) ∧
    ((∀ mb ∈ config.deviceMb, mb.toNat < 2 ^ 44) ∧ (∃ sizes, config.deviceBytes = .ok sizes ∧
        sizes.map UInt64.toNat = config.deviceMb.map fun mb => mb.toNat * 2 ^ 20) ∨
      ∃ mb, Config.Overflows config.deviceMb mb ∧
        config.deviceBytes = .error (.deviceTooLarge mb)) ∧
    (config.Valid →
      config.settings = .ok ⟨config.threads.toNat, config.memoryMb.toNat * 2 ^ 20⟩ ∧
      0 < config.memoryMb.toNat * 2 ^ 20 ∧
      ∃ sizes, config.deviceBytes = .ok sizes ∧
        (sizes.map UInt64.toNat = config.deviceMb.map fun mb => mb.toNat * 2 ^ 20) ∧
        ∀ size ∈ sizes, size ≠ 0) := by
  refine ⟨config.validate_ok_iff, fun _ => Config.validate_error_iff, ?_, ?_, fun valid => ?_⟩
  · split
    · exact Config.settings_ok ‹_›
    · exact Config.settings_error ‹_›
  · rcases config.deviceBytes_cases with ⟨fits, bytes⟩ | large
    · exact .inl ⟨fits, _, bytes, map_toNat_shift fits⟩
    · exact .inr large
  · obtain ⟨settings, sizes, bytes, exact⟩ := valid.bytes
    refine ⟨settings, Nat.mul_pos valid.memory.1 (by decide), sizes, bytes, exact, ?_⟩
    rintro _ member rfl
    have zero : 0 ∈ sizes.map UInt64.toNat := List.mem_map.2 ⟨0, member, rfl⟩
    rw [exact] at zero
    obtain ⟨mb, given, none⟩ := List.mem_map.1 zero
    have some := (valid.devices mb given).1
    omega

def Config.largest : Config := ⟨0x7fffffff, 0xfffffffffff, [0xfffffffffff, 1], false, .default⟩

/-- They pass, and the bytes of the largest sizes fit just so into a word. -/
theorem limits_checked_in_order_of_largest : Config.largest.validate = .ok () ∧
    Config.largest.settings = .ok ⟨0x7fffffff, 0xfffffffffff * 2 ^ 20⟩ ∧
    ∃ sizes, Config.largest.deviceBytes = .ok sizes ∧
      sizes.map UInt64.toNat = [0xfffffffffff * 2 ^ 20, 2 ^ 20] := by
  obtain ⟨passes, -, -, -, bytes⟩ := limits_checked_in_order .largest
  have threads : Config.largest.threads.toNat = 0x7fffffff := by decide
  have memory : Config.largest.memoryMb.toNat = 0xfffffffffff := by decide
  have devices : Config.largest.deviceMb.map UInt64.toNat = [0xfffffffffff, 1] := by decide
  have valid : Config.largest.Valid :=
    ⟨by decide, by decide, by simp [Config.largest], by simp [Config.largest]⟩
  obtain ⟨settings, -, sizes, converted, exact, -⟩ := bytes valid
  refine ⟨passes.2 valid, ?_, sizes, converted, ?_⟩
  · rw [settings, threads, memory]
  · rw [exact, ← Function.comp_def (· * 2 ^ 20) UInt64.toNat, ← List.map_map, devices]
    rfl

/-- Two devices are too large, and so is the segment. -/
example : Config.validate
    ⟨0, 0xffffffffffffffff, [1, 0x100000000000, 0x200000000000], true, .terse⟩ =
    .error (.deviceTooLarge 0x100000000000) := by decide

end DispatchServer
