import Mathlib.Data.List.Basic

/-!
# Checks of user pointers (`kernel/memory.c`)

`memory_validate_user_buffer` and `memory_validate_user_string`, with 32-bit arithmetic. User memory
is what can be read at each address.
-/

namespace MayaOs.Kernel

/-- Where the kernel is mapped. -/
def kernelBase : UInt32 := 0xC0000000

def memoryValidateUserBuffer (ptr len : UInt32) : Bool :=
  if ptr = 0 ∨ len = 0 then false
  else
    let stop := ptr + len
    -- "Overflow guard"
    if stop < ptr then false
    else if stop > kernelBase then false
    else true

/-- `n` turns of the loop, from index `i` on. -/
def scanUserString (mem : UInt32 → UInt8) (addr i : UInt32) : Nat → Bool
  | 0 => false
  | n + 1 =>
    if addr + i ≥ kernelBase then false
    else if mem (addr + i) = 0 then true
    else scanUserString mem addr (i + 1) n

/-- "Scans up to 4096 bytes". -/
def memoryValidateUserString (mem : UInt32 → UInt8) (str : UInt32) : Bool :=
  if str = 0 then false
  else if str ≥ kernelBase then false
  else scanUserString mem str 0 4096

/-! ## What the checks mean -/

/-- **An accepted buffer lies below the kernel**, counted without wrapping around. -/
theorem memoryValidateUserBuffer_iff (ptr len : UInt32) :
    memoryValidateUserBuffer ptr len = true ↔
      ptr ≠ 0 ∧ len ≠ 0 ∧ ptr.toNat + len.toNat ≤ 0xC0000000 := by
  have hp := ptr.toNat_lt
  have hl := len.toNat_lt
  have hadd : (ptr + len).toNat = (ptr.toNat + len.toNat) % 2 ^ 32 := UInt32.toNat_add ptr len
  have hbase : kernelBase.toNat = 0xC0000000 := rfl
  unfold memoryValidateUserBuffer
  by_cases h0 : ptr = 0 ∨ len = 0
  · rw [if_pos h0]
    refine iff_of_false (by simp) ?_
    rintro ⟨h1, h2, -⟩
    rcases h0 with h0 | h0
    · exact h1 h0
    · exact h2 h0
  · rw [if_neg h0]
    rw [not_or] at h0
    simp only [gt_iff_lt, UInt32.lt_iff_toNat_lt, hadd, hbase]
    by_cases hwrap : (ptr.toNat + len.toNat) % 2 ^ 32 < ptr.toNat
    · rw [if_pos hwrap]
      refine iff_of_false (by simp) ?_
      rintro ⟨-, -, hle⟩
      omega
    · rw [if_neg hwrap]
      have hlen : len.toNat ≠ 0 := fun h => h0.2 (UInt32.toNat_inj.mp h)
      have hsum : (ptr.toNat + len.toNat) % 2 ^ 32 = ptr.toNat + len.toNat := by omega
      rw [hsum]
      by_cases hhigh : 0xC0000000 < ptr.toNat + len.toNat
      · rw [if_pos hhigh]
        refine iff_of_false (by simp) ?_
        rintro ⟨-, -, hle⟩
        omega
      · rw [if_neg hhigh]
        exact iff_of_true rfl ⟨h0.1, h0.2, by omega⟩

/-- A scan that succeeds has found a terminator, and everything up to it is below the kernel. -/
theorem scanUserString_spec {mem : UInt32 → UInt8} {addr : UInt32} (haddr : addr < kernelBase) :
    ∀ (n : Nat) (i : UInt32), i.toNat + n ≤ 4096 → scanUserString mem addr i n = true →
      ∃ k, i.toNat ≤ k ∧ k < i.toNat + n ∧ addr.toNat + k < 0xC0000000 ∧
        mem (addr + UInt32.ofNat k) = 0 ∧
        ∀ j, i.toNat ≤ j → j < k → mem (addr + UInt32.ofNat j) ≠ 0 := by
  have hlt : addr.toNat < 0xC0000000 := UInt32.lt_iff_toNat_lt.mp haddr
  intro n
  induction n with
  | zero => intro i _ h; cases h
  | succ n ih =>
    intro i hi h
    have hof : UInt32.ofNat i.toNat = i := UInt32.ofNat_toNat
    have hadd : (addr + i).toNat = addr.toNat + i.toNat := by
      rw [UInt32.toNat_add, Nat.mod_eq_of_lt (by omega)]
    rw [scanUserString] at h
    by_cases hhigh : addr + i ≥ kernelBase
    · rw [if_pos hhigh] at h
      cases h
    · rw [if_neg hhigh] at h
      have hbelow : addr.toNat + i.toNat < 0xC0000000 := by
        rw [ge_iff_le, UInt32.le_iff_toNat_le, hadd] at hhigh
        exact Nat.lt_of_not_le hhigh
      by_cases hzero : mem (addr + i) = 0
      · exact ⟨i.toNat, Nat.le_refl _, by omega, hbelow, by rw [hof]; exact hzero,
          fun j h1 h2 => absurd h1 (by omega)⟩
      · rw [if_neg hzero] at h
        have hsucc : (i + 1).toNat = i.toNat + 1 := by
          rw [UInt32.toNat_add, Nat.mod_eq_of_lt]
          · rfl
          · show i.toNat + 1 < 2 ^ 32
            omega
        obtain ⟨k, hk1, hk2, hk3, hk4, hk5⟩ := ih (i + 1) (by omega) h
        refine ⟨k, by omega, by omega, hk3, hk4, fun j h1 h2 => ?_⟩
        rcases Nat.eq_or_lt_of_le h1 with rfl | hj
        · rw [hof]
          exact hzero
        · exact hk5 j (by omega) h2

end MayaOs.Kernel
