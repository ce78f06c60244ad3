import ThreeBit.Registers

/-! # Executing one instruction

`Instruction.execute` is the whole instruction set as a total function on register files. It reports
the new register file, the value emitted, if any, and whether a jump was taken. The data registers
and the value come first (`Instruction.write`); after them the instruction pointer is written
exactly once, by the jump or by `Registers.advance`.

* `divide_eq` gives the quotient by a single shift;
* `Instruction.execute_eq` lists the effects by operation. -/

namespace ThreeBit

/-- The quotient of a register by a power of two, rounded down. From the exponent 64 on no bit of
the dividend is left. -/
def divide (dividend exponent : Register) : Register :=
  ((shiftAmount? exponent).bind (shiftRight? dividend)).getD 0

/-- **Transition.** The effect of one instruction on a register file. -/
structure Transition where
  /-- The register file after the instruction. -/
  registers : Registers
  /-- The value emitted by the instruction. -/
  output : Option Word := none
  /-- Whether the instruction was a jump that was taken. -/
  jumped : Bool := false
  deriving DecidableEq, Repr

namespace Instruction

/-- What an instruction writes into the data registers, and the value that it emits. -/
def write (instruction : Instruction) (registers : Registers) : Registers × Option Word :=
  let combo := registers.combo instruction.operand
  match instruction.operation with
  | .adv => ({ registers with a := divide registers.a combo }, none)
  | .bxl => ({ registers with b := registers.b ^^^ instruction.operand.toUInt64 }, none)
  | .bst => ({ registers with b := combo % 8 }, none)
  | .jnz => (registers, none)
  | .bxc => ({ registers with b := registers.b ^^^ registers.c }, none)
  | .out => (registers, some (combo % 8).toUInt8)
  | .bdv => ({ registers with b := divide registers.a combo }, none)
  | .cdv => ({ registers with c := divide registers.a combo }, none)
  | .undefined _ => (registers, none)

/-- The effect of one instruction on a register file. -/
def execute (instruction : Instruction) (registers : Registers) : Transition :=
  let (next, output) := instruction.write registers
  -- a jump writes no data register, so that `A` is the same before and after it
  let jumped := instruction.operation == .jnz && next.a != 0
  let ip := if jumped then instruction.operand.toUInt64 else registers.advance.ip
  { registers := { next with ip }, output, jumped }

end Instruction

/-! ### The effects, one by one -/

/-- **A quotient is a shift**, and nothing is left of it from the exponent 64 on. -/
theorem divide_eq (dividend exponent : Register) :
    divide dividend exponent = if exponent < 64 then dividend >>> exponent else 0 := by
  unfold divide shiftAmount?
  by_cases hamount : exponent.toNat < UInt32.size
  · have hsame : exponent.toUInt32.toNat = exponent.toNat := by
      rw [UInt64.toNat_toUInt32]
      exact Nat.mod_eq_of_lt hamount
    have hshift : exponent.toUInt32.toUInt64 = exponent := by
      rw [← UInt64.toNat_inj, UInt32.toNat_toUInt64, hsame]
    have hlt : exponent.toUInt32 < 64 ↔ exponent < 64 := by
      rw [UInt32.lt_iff_toNat_lt, UInt64.lt_iff_toNat_lt, hsame]
      rfl
    rw [if_pos hamount, Option.bind_some, shiftRight?, hshift]
    by_cases hsmall : exponent < 64
    · rw [if_pos (hlt.2 hsmall), if_pos hsmall, Option.getD_some]
    · rw [if_neg (fun h => hsmall (hlt.1 h)), if_neg hsmall, Option.getD_none]
  · -- an exponent that is no amount of a shift is far beyond the width of a register
    have hlarge : ¬exponent < 64 := by
      intro hsmall
      have hlt : exponent.toNat < 64 := UInt64.lt_iff_toNat_lt.1 hsmall
      exact hamount (Nat.lt_trans hlt (by decide))
    rw [if_neg hamount, if_neg hlarge]
    rfl

/-- **The effects by operation.** Only the jump has to look at a register to know where it goes. -/
theorem Instruction.execute_eq (instruction : Instruction) (registers : Registers) :
    instruction.execute registers =
      let combo := registers.combo instruction.operand
      match instruction.operation with
      | .adv => { registers := { registers.advance with a := divide registers.a combo } }
      | .bxl =>
        { registers :=
            { registers.advance with b := registers.b ^^^ instruction.operand.toUInt64 } }
      | .bst => { registers := { registers.advance with b := combo % 8 } }
      | .jnz =>
        if registers.a = 0 then { registers := registers.advance }
        else { registers := { registers with ip := instruction.operand.toUInt64 }, jumped := true }
      | .bxc => { registers := { registers.advance with b := registers.b ^^^ registers.c } }
      | .out => { registers := registers.advance, output := some (combo % 8).toUInt8 }
      | .bdv => { registers := { registers.advance with b := divide registers.a combo } }
      | .cdv => { registers := { registers.advance with c := divide registers.a combo } }
      | .undefined _ => { registers := registers.advance } := by
  unfold execute write
  cases instruction.operation with
  | jnz =>
    by_cases hzero : registers.a = 0
    · simp [hzero, Registers.advance]
    · simp [hzero]
  | _ => rfl

end ThreeBit
