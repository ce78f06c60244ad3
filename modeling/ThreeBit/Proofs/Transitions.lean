import Mathlib
import ThreeBit.Proofs.Width

/-! # The pointer and the output of an instruction

Every instruction writes the instruction pointer exactly once: a taken jump sets it to the operand
word, and everything else moves it by two, as far as it goes. At most one word is emitted, a
remainder modulo eight.

* **`Registers.toNat_ip_advance`** — moving on, in numbers;
* **`Instruction.jumped_execute_iff`** — when a jump is taken, with
  **`Instruction.ip_execute_of_jumped`** and **`Instruction.ip_execute_of_not_jumped`** for where
  the pointer stands afterwards;
* **`Instruction.output_execute_le`** — an emitted word has three bits. -/

namespace ThreeBit

/-- **Moving on, in numbers.** The pointer moves by two and stops at the last offset it can hold. -/
theorem Registers.toNat_ip_advance (registers : Registers) :
    registers.advance.ip.toNat = min (registers.ip.toNat + 2) (2 ^ 64 - 1) := by
  have hlast : lastOffset.toNat = 2 ^ 64 - 1 := rfl
  have hroom : (lastOffset - 2).toNat = 2 ^ 64 - 3 := rfl
  have hbound := registers.ip.toNat_lt
  unfold advance
  by_cases hle : registers.ip ≤ lastOffset - 2
  · have hle' : registers.ip.toNat ≤ 2 ^ 64 - 3 := hroom ▸ UInt64.le_iff_toNat_le.mp hle
    simp only [if_pos hle, UInt64.toNat_add, UInt64.toNat_ofNat]
    omega
  · have hlt : 2 ^ 64 - 3 < registers.ip.toNat :=
      hroom ▸ UInt64.lt_iff_toNat_lt.mp (UInt64.not_le.mp hle)
    simp only [if_neg hle, hlast]
    omega

/-- Away from the last offset the pointer moves by exactly two. -/
theorem Registers.toNat_ip_advance_of_lt {registers : Registers}
    (h : registers.ip.toNat + 2 < 2 ^ 64) :
    registers.advance.ip.toNat = registers.ip.toNat + 2 := by
  rw [toNat_ip_advance]
  omega

namespace Instruction

variable {instruction : Instruction} {registers : Registers}

/-- **A jump is taken** by the one operation that jumps, unless `A` is zero. -/
theorem jumped_execute_iff :
    (instruction.execute registers).jumped = true ↔
      instruction.operation = .jnz ∧ registers.a ≠ 0 := by
  rw [execute_eq]
  cases instruction.operation with
  | jnz => by_cases hzero : registers.a = 0 <;> simp [hzero]
  | _ => simp

/-- A taken jump continues at its operand. -/
theorem ip_execute_of_jumped (h : (instruction.execute registers).jumped = true) :
    (instruction.execute registers).registers.ip = instruction.operand.toUInt64 := by
  obtain ⟨hjnz, hnonzero⟩ := jumped_execute_iff.mp h
  rw [execute_eq]
  simp only [hjnz, if_neg hnonzero]

/-- Without a jump the pointer moves on. -/
theorem ip_execute_of_not_jumped (h : (instruction.execute registers).jumped = false) :
    (instruction.execute registers).registers.ip = registers.advance.ip := by
  rw [execute_eq] at h ⊢
  cases hoperation : instruction.operation with
  | jnz =>
    by_cases hzero : registers.a = 0
    · simp only [if_pos hzero]
    · simp [hoperation, hzero] at h
  | _ => rfl

/-- **An emitted word has three bits.** -/
theorem output_execute_le {value : Word} (h : (instruction.execute registers).output = some value) :
    value.toNat ≤ 7 := by
  have hmod : ∀ combo : Register, (combo % 8).toUInt8.toNat ≤ 7 := by
    intro combo
    rw [UInt64.toNat_toUInt8]
    exact le_trans (Nat.mod_le _ _) (Nat.le_of_lt_succ (mod_eight_toNat_lt le_rfl combo))
  rw [execute_eq] at h
  cases hoperation : instruction.operation with
  | out =>
    simp only [hoperation, Option.some.injEq] at h
    rw [← h]
    exact hmod _
  | jnz =>
    -- a jump emits nothing, whether it is taken or not
    by_cases hzero : registers.a = 0 <;> simp [hoperation, hzero] at h
  | _ => simp [hoperation] at h

end Instruction

end ThreeBit
