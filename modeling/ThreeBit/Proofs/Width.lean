import Mathlib
import ThreeBit.Device.Model
import ThreeBit.Program.Basic

/-! # Register widths

The mask of a device keeps the low bits of a register, so masking is the remainder modulo a power of
two (`toNat_and_registerMask`) and takes nothing from a value that fits. A register file *fits* a
width when its three data registers do. The instruction set is closed under fitting:

* **`Registers.fitsIn_execute`** — no instruction leaves a width of at least three bits, provided
  its operand word fits as well; divisions shrink, exclusive-or stays within a power of two, and the
  remainders modulo eight need the three bits;
* **`Model.truncate_of_fitsIn`** — so the mask of a device never drops a set bit. -/

namespace ThreeBit

/-! ## Masks -/

/-- The mask for a width, as a number: the largest one below `2 ^ min bits 64`. -/
theorem toNat_registerMask (bits : ℕ) :
    (registerMask bits).toNat = 2 ^ min bits 64 - 1 := by
  have hamount : (64 - bits).toUInt32.toNat = 64 - bits :=
    UInt32.toNat_ofNat_of_lt' (by simp only [UInt32.size]; omega)
  have hshift : (64 - bits).toUInt32 < 64 ↔ 64 - bits < 64 := by
    rw [UInt32.lt_iff_toNat_lt, hamount]
    rfl
  unfold registerMask shiftRight?
  by_cases hzero : bits = 0
  · subst hzero
    rfl
  · have hlt : 64 - bits < 64 := by omega
    -- what is shifted out and what is left make up the whole register
    have hwhole : 2 ^ (64 - bits) * 2 ^ min bits 64 = 2 ^ 64 := by
      rw [← pow_add]
      congr 1
      omega
    have hones : (~~~0 : Register).toNat = 2 ^ (64 - bits) * 2 ^ min bits 64 - (0 + 1) := by
      rw [hwhole]
      rfl
    rw [if_pos (hshift.mpr hlt), Option.getD_some, UInt64.toNat_shiftRight, UInt32.toNat_toUInt64,
      hamount, Nat.mod_eq_of_lt hlt, Nat.shiftRight_eq_div_pow, hones,
      Nat.mul_sub_div _ _ _ (by positivity), Nat.zero_div, zero_add]

/-- **Masking is a remainder.** Beyond the 64 bits of a register there is nothing to cut, so the
width itself can stand for its minimum with 64. -/
theorem toNat_and_registerMask (value : Register) (bits : ℕ) :
    (value &&& registerMask bits).toNat = value.toNat % 2 ^ bits := by
  rw [UInt64.toNat_and, toNat_registerMask, Nat.and_two_pow_sub_one_eq_mod]
  rcases le_total bits 64 with hle | hle
  · rw [min_eq_left hle]
  · -- no register reaches `2 ^ 64`, so both remainders are the value itself
    have hlt : value.toNat < 2 ^ 64 := value.toNat_lt
    rw [min_eq_right hle, Nat.mod_eq_of_lt hlt,
      Nat.mod_eq_of_lt (lt_of_lt_of_le hlt (Nat.pow_le_pow_right (by norm_num) hle))]

/-- A mask leaves a value alone exactly when the value fits the width. -/
theorem and_registerMask_eq_self_iff (value : Register) (bits : ℕ) :
    value &&& registerMask bits = value ↔ value.toNat < 2 ^ bits := by
  rw [← UInt64.toNat_inj, toNat_and_registerMask]
  exact ⟨fun h => h ▸ Nat.mod_lt _ (by positivity), Nat.mod_eq_of_lt⟩

/-- The bits of a value are those under a mask and those beside it. -/
theorem and_or_and_not (value mask : Register) :
    (value &&& mask) ||| (value &&& ~~~mask) = value := by
  rw [← UInt64.toBitVec_inj]
  ext i
  simp only [UInt64.toBitVec_or, UInt64.toBitVec_and, UInt64.toBitVec_not, BitVec.getElem_or,
    BitVec.getElem_and, BitVec.getElem_not]
  cases value.toBitVec[i] <;> cases mask.toBitVec[i] <;> rfl

/-- A value has no bit beside a mask exactly when the mask leaves it alone. -/
theorem and_not_eq_zero_iff (value mask : Register) :
    value &&& ~~~mask = 0 ↔ value &&& mask = value := by
  constructor
  · intro h
    have hsplit := and_or_and_not value mask
    rwa [h, UInt64.or_zero] at hsplit
  · intro h
    rw [← h, UInt64.and_assoc, UInt64.and_not_self, UInt64.and_zero]

/-- **The width test, in numbers.** `Config.fits` holds of exactly the values below
`2 ^ registerBits`. -/
theorem Config.fits_iff (config : Config) (value : Register) :
    config.fits value = true ↔ value.toNat < 2 ^ config.registerBits := by
  rw [Config.fits, Config.mask, beq_iff_eq, and_not_eq_zero_iff, and_registerMask_eq_self_iff]

/-! ## Register files that fit -/

/-- A register file **fits** a width when each of its data registers is below `2 ^ bits`. The
instruction pointer has no width. -/
structure Registers.FitsIn (registers : Registers) (bits : ℕ) : Prop where
  /-- Register `A` fits. -/
  a : registers.a.toNat < 2 ^ bits
  /-- Register `B` fits. -/
  b : registers.b.toNat < 2 ^ bits
  /-- Register `C` fits. -/
  c : registers.c.toNat < 2 ^ bits

/-- What fits a width fits every larger one. -/
theorem Registers.FitsIn.mono {registers : Registers} {narrow wide : ℕ}
    (h : registers.FitsIn narrow) (hle : narrow ≤ wide) : registers.FitsIn wide := by
  have hpow : 2 ^ narrow ≤ 2 ^ wide := Nat.pow_le_pow_right (by norm_num) hle
  exact ⟨lt_of_lt_of_le h.a hpow, lt_of_lt_of_le h.b hpow, lt_of_lt_of_le h.c hpow⟩

/-- A program **fits** a width when each of its words is below `2 ^ bits`. -/
def Program.FitsIn (program : Program) (bits : ℕ) : Prop :=
  ∀ word ∈ program.words, word.toNat < 2 ^ bits

/-- A program that fits a width fits every larger one. -/
theorem Program.FitsIn.mono {program : Program} {narrow wide : ℕ} (h : program.FitsIn narrow)
    (hle : narrow ≤ wide) : program.FitsIn wide :=
  fun word hmem => lt_of_lt_of_le (h word hmem) (Nat.pow_le_pow_right (by norm_num) hle)

/-- The operand of a fetched instruction fits where the program does: it is a word of the program,
or the zero that stands in for a missing one. -/
theorem Program.operand_lt_of_fetch {program : Program} {bits : ℕ} {ip : UInt64}
    {instruction : Instruction} (hfits : program.FitsIn bits)
    (hfetch : program.fetch ip = some instruction) : instruction.operand.toNat < 2 ^ bits := by
  rw [Program.fetch, Option.map_eq_some_iff] at hfetch
  obtain ⟨opcode, -, rfl⟩ := hfetch
  show (program.words[ip.toNat + 1]?.getD 0).toNat < 2 ^ bits
  cases hword : program.words[ip.toNat + 1]? with
  | none => exact Nat.two_pow_pos bits
  | some word => exact hfits word (Array.mem_of_getElem? hword)

/-! ## The instruction set is closed under fitting -/

/-- Dividing by a power of two never grows a register. -/
theorem divide_toNat_le (dividend exponent : Register) :
    (divide dividend exponent).toNat ≤ dividend.toNat := by
  rw [divide_eq]
  split
  · rw [UInt64.toNat_shiftRight, Nat.shiftRight_eq_div_pow]
    exact Nat.div_le_self _ _
  · exact Nat.zero_le _

/-- A remainder modulo eight fits three bits. -/
theorem mod_eight_toNat_lt {bits : ℕ} (hbits : 3 ≤ bits) (value : Register) :
    (value % 8).toNat < 2 ^ bits := by
  have h8 : (2 : ℕ) ^ 3 ≤ 2 ^ bits := Nat.pow_le_pow_right (by norm_num) hbits
  have hlt : (value % 8).toNat < 8 := by
    rw [UInt64.toNat_mod]
    exact Nat.mod_lt _ (by decide)
  omega

/-- Moving past an instruction leaves the data registers alone. -/
theorem Registers.FitsIn.advance {registers : Registers} {bits : ℕ} (h : registers.FitsIn bits) :
    registers.advance.FitsIn bits :=
  ⟨h.a, h.b, h.c⟩

/-- **Width closure.** An instruction whose operand fits keeps a register file within a width of at
least three bits. -/
theorem Registers.fitsIn_execute {registers : Registers} {bits : ℕ} (hbits : 3 ≤ bits)
    (h : registers.FitsIn bits) {instruction : Instruction}
    (hoperand : instruction.operand.toNat < 2 ^ bits) :
    (instruction.execute registers).registers.FitsIn bits := by
  -- all three divisions have the dividend `A`, whatever register they write
  have hdivide : ∀ exponent, (divide registers.a exponent).toNat < 2 ^ bits := fun exponent =>
    lt_of_le_of_lt (divide_toNat_le registers.a exponent) h.a
  rw [Instruction.execute_eq]
  cases instruction.operation with
  | adv => exact ⟨hdivide _, h.b, h.c⟩
  | bxl =>
    refine ⟨h.a, ?_, h.c⟩
    show (registers.b ^^^ instruction.operand.toUInt64).toNat < 2 ^ bits
    rw [UInt64.toNat_xor, UInt8.toNat_toUInt64]
    exact Nat.xor_lt_two_pow h.b hoperand
  | bst => exact ⟨h.a, mod_eight_toNat_lt hbits _, h.c⟩
  | jnz =>
    show (if registers.a = 0 then _ else _ : Transition).registers.FitsIn bits
    split
    · exact h.advance
    · -- a taken jump writes the instruction pointer only
      exact ⟨h.a, h.b, h.c⟩
  | bxc =>
    refine ⟨h.a, ?_, h.c⟩
    show (registers.b ^^^ registers.c).toNat < 2 ^ bits
    rw [UInt64.toNat_xor]
    exact Nat.xor_lt_two_pow h.b h.c
  | out => exact h.advance
  | bdv => exact ⟨h.a, hdivide _, h.c⟩
  | cdv => exact ⟨h.a, h.b, hdivide _⟩
  | undefined _ => exact h.advance

/-! ## The mask of a device -/

/-- A device leaves a register file that fits as it is. -/
theorem Model.truncate_of_fitsIn {model : Model} {bits : ℕ} (hmask : model.mask = registerMask bits)
    {registers : Registers} (h : registers.FitsIn bits) : model.truncate registers = registers := by
  rw [Model.truncate, hmask, (and_registerMask_eq_self_iff _ _).mpr h.a,
    (and_registerMask_eq_self_iff _ _).mpr h.b, (and_registerMask_eq_self_iff _ _).mpr h.c]

end ThreeBit
