import Mathlib
import ThreeBit.Proofs.Descent

/-! # The instruction table

`Instruction.execute` goes by the operation: one row of the instruction table after the other, on
machine words. This module reads the same table by its columns, and in numbers: for each register,
for the emitted value, for the jump and for the pointer, what an instruction leaves there as a
function of its two words and of the register file before it.

* **`Opcode.word`** — the word that selects an operation, so decoding loses nothing
  (`Opcode.word_ofWord`);
* **`Registers.comboNumber`** — the number that a combo operand stands for
  (`Registers.toNat_combo`);
* **`Instruction.Prescribes`** — the table, column by column;
* **`Instruction.execute_eq_iff_prescribes`** — executing is what the table prescribes, and nothing
  else is. -/

namespace ThreeBit

/-! ## Decoding -/

namespace Opcode

/-- The **word of an operation**: the one that selects it. -/
def word : Opcode → Word
  | adv => 0
  | bxl => 1
  | bst => 2
  | jnz => 3
  | bxc => 4
  | out => 5
  | bdv => 6
  | cdv => 7
  | undefined word => word

/-- **Decoding loses nothing**: an operation has the word that selects it. -/
@[simp] theorem word_ofWord (word : Word) : (ofWord word).word = word := by
  unfold ofWord
  split <;> simp_all [Opcode.word, ← UInt8.toNat_inj]

/-- A named operation is decoded from its word. -/
theorem ofWord_word {named : Opcode} (hnamed : ∀ word, named ≠ undefined word) :
    ofWord named.word = named := by
  cases named with
  | undefined word => exact absurd rfl (hnamed word)
  | _ => rfl

end Opcode

/-- **A named operation is selected by its word**, and by no other. -/
theorem Instruction.operation_eq_iff {instruction : Instruction} {named : Opcode}
    (hnamed : ∀ word, named ≠ .undefined word) :
    instruction.operation = named ↔ instruction.opcode = named.word := by
  constructor
  · rintro rfl
    exact (Opcode.word_ofWord instruction.opcode).symm
  · intro hword
    rw [operation, hword, Opcode.ofWord_word hnamed]

/-! ## Operands -/

namespace Registers

/-- The **number of a combo operand**: the operand itself up to three, then the registers in their
order, and zero for anything else. -/
def comboNumber (registers : Registers) (operand : Word) : ℕ :=
  match operand.toNat with
  | 0 => 0
  | 1 => 1
  | 2 => 2
  | 3 => 3
  | 4 => registers.a.toNat
  | 5 => registers.b.toNat
  | 6 => registers.c.toNat
  | _ => 0

/-- **A combo operand resolves to its number.** -/
theorem toNat_combo (registers : Registers) (operand : Word) :
    (registers.combo operand).toNat = registers.comboNumber operand := by
  unfold comboNumber
  split <;> simp_all [combo, Combo.ofWord]

end Registers

/-- Making a word of a remainder modulo eight does not change it. -/
theorem toNat_toUInt8_mod_eight (value : Register) :
    (value % 8).toUInt8.toNat = value.toNat % 8 := by
  have hlt : value.toNat % 8 < 2 ^ 8 := by omega
  rw [UInt64.toNat_toUInt8, UInt64.toNat_mod]
  exact Nat.mod_eq_of_lt hlt

/-! ## The columns of the table -/

namespace Instruction

variable (instruction : Instruction) (registers : Registers)

/-- Four operations write `B`. -/
theorem b_execute :
    (instruction.execute registers).registers.b =
      if instruction.operation = .bxl then registers.b ^^^ instruction.operand.toUInt64
      else if instruction.operation = .bst then registers.combo instruction.operand % 8
      else if instruction.operation = .bxc then registers.b ^^^ registers.c
      else if instruction.operation = .bdv then
        divide registers.a (registers.combo instruction.operand)
      else registers.b := by
  rw [execute_eq]
  cases instruction.operation with
  | jnz => by_cases hzero : registers.a = 0 <;> simp [hzero, Registers.advance]
  | _ => simp [Registers.advance]

/-- One operation writes `C`. -/
theorem c_execute :
    (instruction.execute registers).registers.c =
      if instruction.operation = .cdv then
        divide registers.a (registers.combo instruction.operand)
      else registers.c := by
  rw [execute_eq]
  cases instruction.operation with
  | jnz => by_cases hzero : registers.a = 0 <;> simp [hzero, Registers.advance]
  | _ => simp [Registers.advance]

/-- One operation emits. -/
theorem output_execute :
    (instruction.execute registers).output =
      if instruction.operation = .out then
        some (registers.combo instruction.operand % 8).toUInt8
      else none := by
  rw [execute_eq]
  cases instruction.operation with
  | jnz => by_cases hzero : registers.a = 0 <;> simp [hzero]
  | _ => simp

/-- **The table.** What an instruction prescribes for every part of its effect, in numbers. A
register that is not the destination of the operation is left as it was. -/
structure Prescribes (instruction : Instruction) (before : Registers) (effect : Transition) :
    Prop where
  /-- `adv` stores its quotient in `A`. -/
  a : effect.registers.a.toNat =
    if instruction.opcode = 0 then before.a.toNat / 2 ^ before.comboNumber instruction.operand
    else before.a.toNat
  /-- `bxl`, `bst`, `bxc` and `bdv` store in `B`. -/
  b : effect.registers.b.toNat =
    if instruction.opcode = 1 then before.b.toNat ^^^ instruction.operand.toNat
    else if instruction.opcode = 2 then before.comboNumber instruction.operand % 8
    else if instruction.opcode = 4 then before.b.toNat ^^^ before.c.toNat
    else if instruction.opcode = 6 then
      before.a.toNat / 2 ^ before.comboNumber instruction.operand
    else before.b.toNat
  /-- `cdv` stores its quotient in `C`. -/
  c : effect.registers.c.toNat =
    if instruction.opcode = 7 then before.a.toNat / 2 ^ before.comboNumber instruction.operand
    else before.c.toNat
  /-- `out` emits a number below eight, and nothing else emits. -/
  output : effect.output.map UInt8.toNat =
    if instruction.opcode = 5 then some (before.comboNumber instruction.operand % 8) else none
  /-- `jnz` jumps unless `A` was zero, and nothing else jumps. -/
  jumped : effect.jumped = true ↔ instruction.opcode = 3 ∧ before.a.toNat ≠ 0
  /-- A jump continues at the operand, and anything else two words on, as far as a pointer goes. -/
  ip : effect.registers.ip.toNat =
    if effect.jumped then instruction.operand.toNat else min (before.ip.toNat + 2) (2 ^ 64 - 1)

/-- **Executing meets the table.** -/
theorem prescribes_execute : instruction.Prescribes registers (instruction.execute registers) := by
  -- every column is the one found above, by the word of the operation and in numbers
  constructor
  case a =>
    rw [a_execute, apply_ite UInt64.toNat, toNat_divide, Registers.toNat_combo]
    exact if_congr (operation_eq_iff (by simp)) rfl rfl
  case b =>
    rw [b_execute]
    simp only [apply_ite UInt64.toNat, UInt64.toNat_xor, UInt8.toNat_toUInt64, UInt64.toNat_mod,
      toNat_divide, Registers.toNat_combo]
    exact if_congr (operation_eq_iff (by simp)) rfl
      (if_congr (operation_eq_iff (by simp)) rfl
        (if_congr (operation_eq_iff (by simp)) rfl
          (if_congr (operation_eq_iff (by simp)) rfl rfl)))
  case c =>
    rw [c_execute, apply_ite UInt64.toNat, toNat_divide, Registers.toNat_combo]
    exact if_congr (operation_eq_iff (by simp)) rfl rfl
  case output =>
    rw [output_execute, apply_ite (Option.map UInt8.toNat), Option.map_some, Option.map_none,
      toNat_toUInt8_mod_eight, Registers.toNat_combo]
    exact if_congr (operation_eq_iff (by simp)) rfl rfl
  case jumped =>
    rw [jumped_execute_iff, operation_eq_iff (by simp), Ne, Ne, ← UInt64.toNat_inj]
    rfl
  case ip =>
    cases hjump : (instruction.execute registers).jumped with
    | true => rw [ip_execute_of_jumped hjump, UInt8.toNat_toUInt64, if_pos rfl]
    | false =>
      rw [ip_execute_of_not_jumped hjump, Registers.toNat_ip_advance, if_neg Bool.false_ne_true]

/-- The table leaves no choice. -/
theorem Prescribes.unique {instruction : Instruction} {before : Registers}
    {first second : Transition} (h : instruction.Prescribes before first)
    (h' : instruction.Prescribes before second) : first = second := by
  have ha := UInt64.toNat_inj.mp (h.a.trans h'.a.symm)
  have hb := UInt64.toNat_inj.mp (h.b.trans h'.b.symm)
  have hc := UInt64.toNat_inj.mp (h.c.trans h'.c.symm)
  have houtput : first.output = second.output :=
    Option.map_injective (fun _ _ => UInt8.toNat_inj.mp) (h.output.trans h'.output.symm)
  have hjumped : first.jumped = second.jumped := Bool.eq_iff_iff.mpr (h.jumped.trans h'.jumped.symm)
  have hip : first.registers.ip = second.registers.ip := by
    rw [← UInt64.toNat_inj, h.ip, h'.ip, hjumped]
  obtain ⟨⟨a, b, c, ip⟩, output, jumped⟩ := first
  simp only at ha hb hc hip houtput hjumped
  rw [ha, hb, hc, hip, houtput, hjumped]

/-- **Executing an instruction is what the table prescribes.** For all words and all register files,
the effect of an instruction is the one and only effect that the table allows: exact quotients by
powers of two, however large the exponent, exclusive-ors and remainders of the numbers in the
registers, and everything that is not written left as it was. -/
theorem execute_eq_iff_prescribes (instruction : Instruction) (registers : Registers)
    (effect : Transition) :
    instruction.execute registers = effect ↔ instruction.Prescribes registers effect := by
  constructor
  · rintro rfl
    exact instruction.prescribes_execute registers
  · intro h
    exact (instruction.prescribes_execute registers).unique h

/-- An exponent with more than 32 bits, whose low bits are all zero, leaves nothing of the
dividend. -/
example : ({ opcode := 0, operand := 5 } : Instruction).execute { a := 7, b := 4294967296 }
    = { registers := { a := 0, b := 4294967296, ip := 2 } } := by decide

end Instruction

end ThreeBit
