import ThreeBit.Instruction.Basic

/-! # The register file

Three data registers of 64 bits and an instruction pointer: all the state an instruction can read
or write. `Registers.combo` resolves combo operands, `Registers.advance` moves past an instruction,
and `shiftRight?` is the shift behind divisions and masks. -/

namespace ThreeBit

/-- The content of a data register. -/
abbrev Register := UInt64

/-- A register shifted to the right. There is no result for a shift by the whole width or more. -/
def shiftRight? (value : Register) (amount : UInt32) : Option Register :=
  if amount < 64 then some (value >>> amount.toUInt64) else none

/-- The amount of a shift, which has 32 bits, read off a register. -/
def shiftAmount? (value : Register) : Option UInt32 :=
  if value.toNat < UInt32.size then some value.toUInt32 else none

/-- The names of the data registers. -/
inductive RegisterName where
  /-- Register `A`. -/
  | a
  /-- Register `B`. -/
  | b
  /-- Register `C`. -/
  | c
  deriving DecidableEq, Repr

/-- The letter a register is named by. -/
def RegisterName.letter : RegisterName → String
  | a => "A"
  | b => "B"
  | c => "C"

/-- **Register file.** The three data registers and the instruction pointer. -/
structure Registers where
  /-- The dividend of every division and the condition of every jump. -/
  a : Register := 0
  /-- The target of the exclusive-or operations. -/
  b : Register := 0
  /-- The third data register. -/
  c : Register := 0
  /-- The offset, in words, of the next instruction. -/
  ip : UInt64 := 0
  deriving DecidableEq, Repr, Inhabited

namespace Registers

/-- The value of an operand word read as a combo operand. -/
def combo (registers : Registers) (operand : Word) : Register :=
  match Combo.ofWord operand with
  | .literal word => word.toUInt64
  | .a => registers.a
  | .b => registers.b
  | .c => registers.c
  | .reserved _ => 0

/-- The largest offset an instruction pointer can hold. -/
def lastOffset : UInt64 := 18446744073709551615

/-- Move the instruction pointer past one instruction, stopping at the last offset it can hold. -/
def advance (registers : Registers) : Registers :=
  { registers with
    ip := if registers.ip ≤ lastOffset - 2 then registers.ip + 2 else lastOffset }

end Registers

end ThreeBit
