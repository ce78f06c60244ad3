/-! # Instructions

An instruction of the three-bit machine is two words: one selects the operation, the other is its
operand. The set has eight operations and is closed under decoding: a word above seven selects no
operation, an operand above six reads no register, and both still have a meaning.

* `Opcode.ofWord` names the operation a word selects;
* `Combo.ofWord` names what an operand stands for where operands may read registers;
* `Instruction` keeps the two raw words, so that nothing of a program is lost by reading it. -/

namespace ThreeBit

/-- One word of a program. Three bits suffice for well-formed programs; larger words are kept and
have a meaning of their own. -/
abbrev Word := UInt8

/-- The operation an instruction performs. -/
inductive Opcode where
  /-- Divide `A` by two to the combo operand, into `A`. -/
  | adv
  /-- Exclusive-or `B` with the literal operand. -/
  | bxl
  /-- Store the combo operand modulo eight in `B`. -/
  | bst
  /-- Continue at the literal operand unless `A` is zero. -/
  | jnz
  /-- Exclusive-or `B` with `C`, whatever the operand. -/
  | bxc
  /-- Emit the combo operand modulo eight. -/
  | out
  /-- Divide `A` by two to the combo operand, into `B`. -/
  | bdv
  /-- Divide `A` by two to the combo operand, into `C`. -/
  | cdv
  /-- A word that selects no operation; executing it only moves on. -/
  | undefined (word : Word)
  deriving DecidableEq, Repr

namespace Opcode

/-- The operation selected by a word. -/
def ofWord (word : Word) : Opcode :=
  match word.toNat with
  | 0 => adv
  | 1 => bxl
  | 2 => bst
  | 3 => jnz
  | 4 => bxc
  | 5 => out
  | 6 => bdv
  | 7 => cdv
  | _ => undefined word

/-- The three-letter name of an operation in assembly text. -/
def mnemonic : Opcode → String
  | adv => "adv"
  | bxl => "bxl"
  | bst => "bst"
  | jnz => "jnz"
  | bxc => "bxc"
  | out => "out"
  | bdv => "bdv"
  | cdv => "cdv"
  | undefined _ => "???"

/-- Whether the operand of an operation is a combo operand, which may read a register. -/
def usesCombo : Opcode → Bool
  | adv | bst | out | bdv | cdv => true
  | bxl | jnz | bxc | undefined _ => false

end Opcode

/-- What a combo operand stands for. -/
inductive Combo where
  /-- The operand itself, for `0` to `3`. -/
  | literal (word : Word)
  /-- The content of register `A`, for `4`. -/
  | a
  /-- The content of register `B`, for `5`. -/
  | b
  /-- The content of register `C`, for `6`. -/
  | c
  /-- Any other operand, which stands for zero. -/
  | reserved (word : Word)
  deriving DecidableEq, Repr

/-- What an operand word stands for as a combo operand. -/
def Combo.ofWord (word : Word) : Combo :=
  match word.toNat with
  | 0 | 1 | 2 | 3 => literal word
  | 4 => a
  | 5 => b
  | 6 => c
  | _ => reserved word

/-- **Instruction.** An operation word followed by its operand word. The default instruction, two
zero words, divides `A` by one and so leaves every register as it is. -/
structure Instruction where
  /-- The word that selects the operation. -/
  opcode : Word := 0
  /-- The operand, read literally or as a combo operand as the operation demands. -/
  operand : Word := 0
  deriving DecidableEq, Repr, Inhabited

namespace Instruction

/-- The operation of an instruction. -/
def operation (instruction : Instruction) : Opcode :=
  Opcode.ofWord instruction.opcode

/-- The operand of an instruction read as a combo operand, meaningful where
`Opcode.usesCombo` holds of the operation. -/
def combo (instruction : Instruction) : Combo :=
  Combo.ofWord instruction.operand

end Instruction

end ThreeBit
