import Mathlib.Algebra.Order.Group.Nat
import DispatchServer.Configuration.Basic

/-! Which configurations can be used, and the sizes in bytes that they stand for. -/
namespace DispatchServer

theorem toNat_shift (mb : UInt64) : (mb <<< 20).toNat = mb.toNat * 2 ^ 20 % 2 ^ 64 := by
  rw [UInt64.toNat_shiftLeft, Nat.shiftLeft_eq]
  rfl

/-- A size in mebibytes has a size in bytes if it is below the forty-fourth power of two. -/
theorem bytesOfMb?_eq (mb : UInt64) :
    bytesOfMb? mb = if mb.toNat < 2 ^ 44 then some (mb <<< 20) else none := by
  have back : (mb <<< 20 >>> 20 = mb) ↔ mb.toNat < 2 ^ 44 := by
    have shifted : (mb <<< 20 >>> 20).toNat = mb.toNat * 2 ^ 20 % 2 ^ 64 / 2 ^ 20 := by
      rw [UInt64.toNat_shiftRight, toNat_shift, Nat.shiftRight_eq_div_pow]
      rfl
    rw [← UInt64.toNat_inj, shifted]
    have bound := mb.toNat_lt
    omega
  simp only [bytesOfMb?, back]

theorem toNat_shift_of_lt {mb : UInt64} (fits : mb.toNat < 2 ^ 44) :
    (mb <<< 20).toNat = mb.toNat * 2 ^ 20 := by
  rw [toNat_shift]
  omega

theorem map_toNat_shift {sizes : List UInt64} (fits : ∀ mb ∈ sizes, mb.toNat < 2 ^ 44) :
    (sizes.map (· <<< (20 : UInt64))).map UInt64.toNat =
      sizes.map fun mb => mb.toNat * 2 ^ 20 := by
  rw [List.map_map]
  exact List.map_congr_left fun mb member => toNat_shift_of_lt (fits mb member)

namespace Config

/-- The limits that a configuration keeps. -/
structure Valid (config : Config) : Prop where
  threads : config.threads.toNat ≤ 0x7fffffff
  memory : 0 < config.memoryMb.toNat ∧ config.memoryMb.toNat < 2 ^ 44
  some : config.deviceMb ≠ []
  devices : ∀ mb ∈ config.deviceMb, 0 < mb.toNat ∧ mb.toNat < 2 ^ 44

variable {config : Config}

theorem settings_ok (fits : config.memoryMb.toNat < 2 ^ 44) :
    config.settings = .ok ⟨config.threads.toNat, config.memoryMb.toNat * 2 ^ 20⟩ := by
  rw [settings, bytesOfMb?_eq, if_pos fits]
  dsimp only
  rw [toNat_shift_of_lt fits]

theorem settings_error (large : ¬ config.memoryMb.toNat < 2 ^ 44) :
    config.settings = .error (.segmentTooLarge config.memoryMb) := by
  rw [settings, bytesOfMb?_eq, if_neg large]

def Overflows (sizes : List UInt64) (mb : UInt64) : Prop :=
  ∃ before after, sizes = before ++ mb :: after ∧ (∀ small ∈ before, small.toNat < 2 ^ 44) ∧
    ¬ mb.toNat < 2 ^ 44

theorem Overflows.mem {sizes : List UInt64} {mb : UInt64} (overflows : Overflows sizes mb) :
    mb ∈ sizes ∧ ¬ mb.toNat < 2 ^ 44 := by
  obtain ⟨before, after, rfl, -, large⟩ := overflows
  exact ⟨by simp, large⟩

theorem Overflows.cons {sizes : List UInt64} {mb first : UInt64} (overflows : Overflows sizes mb)
    (fits : first.toNat < 2 ^ 44) : Overflows (first :: sizes) mb := by
  obtain ⟨before, after, rfl, small, large⟩ := overflows
  exact ⟨first :: before, after, rfl, List.forall_mem_cons.2 ⟨fits, small⟩, large⟩

/-- All devices fit, or the first that is too large is named. -/
theorem deviceBytes_cases (config : Config) :
    (∀ mb ∈ config.deviceMb, mb.toNat < 2 ^ 44) ∧
      config.deviceBytes = .ok (config.deviceMb.map (· <<< (20 : UInt64))) ∨
    ∃ mb, Overflows config.deviceMb mb ∧ config.deviceBytes = .error (.deviceTooLarge mb) := by
  unfold deviceBytes
  simp only [bytesOfMb?_eq]
  generalize config.deviceMb = sizes
  induction sizes with
  | nil => exact .inl ⟨by simp, rfl⟩
  | cons mb sizes ih =>
    rw [List.mapM_cons]
    by_cases fits : mb.toNat < 2 ^ 44
    · rw [if_pos fits]
      rcases ih with ⟨all, bytes⟩ | ⟨large, overflows, bytes⟩ <;> rw [bytes]
      · exact .inl ⟨List.forall_mem_cons.2 ⟨fits, all⟩, rfl⟩
      · exact .inr ⟨large, overflows.cons fits, rfl⟩
    · rw [if_neg fits]
      exact .inr ⟨mb, ⟨[], sizes, rfl, by simp, fits⟩, rfl⟩

/-- The limits are checked one after the other. -/
theorem validate_ok (config : Config) : config.validate = .ok () ↔
    config.threads.toNat ≤ maxThreads ∧ config.memoryMb ≠ 0 ∧ config.deviceMb ≠ [] ∧
      0 ∉ config.deviceMb ∧ (∃ sizes, config.deviceBytes = .ok sizes) ∧
      ∃ settings, config.settings = .ok settings := by
  unfold validate
  split
  · rename_i threads
    simp [Nat.not_le.2 threads]
  split
  · simp_all
  split
  · simp_all
  split
  · simp_all
  split
  · simp_all
  split <;> simp_all

theorem validate_ok_iff (config : Config) : config.validate = .ok () ↔ config.Valid := by
  have positive (mb : UInt64) : mb ≠ 0 ↔ 0 < mb.toNat := by
    rw [Nat.pos_iff_ne_zero, ne_eq, ne_eq, ← UInt64.toNat_inj]
    rfl
  rw [validate_ok, positive]
  constructor
  · rintro ⟨threads, memory, some, devices, ⟨sizes, bytes⟩, settings, known⟩
    refine ⟨threads, ⟨memory, ?_⟩, some, fun mb member => ⟨(positive mb).1 ?_, ?_⟩⟩
    · refine Decidable.byContradiction fun large => ?_
      rw [settings_error large] at known
      cases known
    · rintro rfl
      exact devices member
    · rcases config.deviceBytes_cases with ⟨fits, -⟩ | ⟨large, -, refused⟩
      · exact fits mb member
      · rw [refused] at bytes
        cases bytes
  · rintro ⟨threads, ⟨memory, fits⟩, some, devices⟩
    refine ⟨threads, memory, some, fun zero => ?_, ?_, _, settings_ok fits⟩
    · exact absurd (devices 0 zero).1 (by decide)
    · rcases config.deviceBytes_cases with ⟨-, bytes⟩ | ⟨large, overflows, -⟩
      · exact ⟨_, bytes⟩
      · exact absurd (devices large overflows.mem.1).2 overflows.mem.2

theorem Valid.bytes (valid : config.Valid) :
    config.settings = .ok ⟨config.threads.toNat, config.memoryMb.toNat * 2 ^ 20⟩ ∧
      ∃ sizes, config.deviceBytes = .ok sizes ∧
        sizes.map UInt64.toNat = config.deviceMb.map fun mb => mb.toNat * 2 ^ 20 := by
  refine ⟨settings_ok valid.memory.2, ?_⟩
  rcases config.deviceBytes_cases with ⟨fits, bytes⟩ | ⟨large, overflows, -⟩
  · exact ⟨_, bytes, map_toNat_shift fits⟩
  · exact absurd (valid.devices large overflows.mem.1).2 overflows.mem.2

end Config

end DispatchServer
