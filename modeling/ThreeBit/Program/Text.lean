import ThreeBit.Program.Basic

/-! # Programs as text

Words, instructions and programs have several renderings. `wordsText` is the one-line form of a
sequence of words, in which output streams are printed and listings hold their programs.

`Instruction.text` is assembly: a mnemonic and, where the operation has one, its operand, with
register names for combo operands; words that select no operation are written as data.
`Program.text` is a disassembly with one instruction a line, each after its offset in a column of
four.

`Instruction.inspect` shows the decoded operation beside the raw operand, and `Program.inspect`
lists the decoded instructions on one line. -/

namespace ThreeBit

/-- A text moved to the right end of a column, or left as it is where the column is too narrow. -/
def Text.rightAligned (width : Nat) (text : String) : String :=
  "".pushn ' ' (width - text.length) ++ text

/-- Words in decimal, divided by commas. -/
def wordsText (words : List Word) : String :=
  ",".intercalate (words.map fun word => toString word.toNat)

/-! ### Instructions -/

/-- Assembly text of a combo operand. -/
def Combo.text : Combo → String
  | literal word => toString word.toNat
  | a => "a"
  | b => "b"
  | c => "c"
  | reserved word => "<reserved " ++ toString word.toNat ++ ">"

/-- A combo operand by the name of its kind, with the word it was read from where the kind does
not determine it. -/
def Combo.inspect : Combo → String
  | literal word => "Literal(" ++ toString word.toNat ++ ")"
  | a => "A"
  | b => "B"
  | c => "C"
  | reserved word => "Reserved(" ++ toString word.toNat ++ ")"

/-- An operation by the name of its kind, with its word if the word selects no operation. -/
def Opcode.inspect : Opcode → String
  | adv => "Adv"
  | bxl => "Bxl"
  | bst => "Bst"
  | jnz => "Jnz"
  | bxc => "Bxc"
  | out => "Out"
  | bdv => "Bdv"
  | cdv => "Cdv"
  | undefined word => "Undefined(" ++ toString word.toNat ++ ")"

namespace Instruction

/-- Assembly text of an instruction. The operand of `bxc` is not shown, since it has no effect. -/
def text (instruction : Instruction) : String :=
  match instruction.operation with
  | .undefined word => ".word " ++ toString word.toNat ++ ", " ++ toString instruction.operand.toNat
  | .bxc => Opcode.bxc.mnemonic
  | operation =>
    operation.mnemonic ++ " " ++
      if operation.usesCombo then instruction.combo.text
      else toString instruction.operand.toNat

/-- The decoded operation and the raw operand of an instruction. -/
def inspect (instruction : Instruction) : String :=
  "Instruction \x7b op_code: " ++ instruction.operation.inspect ++ ", operand: " ++
    toString instruction.operand.toNat ++ " \x7d"

end Instruction

/-! ### Programs -/

namespace Program

/-- One line of the disassembly: the offset, the instruction, a line feed. -/
def lineText (offset : Nat) (instruction : Instruction) : String :=
  Text.rightAligned 4 (toString offset) ++ ": " ++ instruction.text ++ "\n"

/-- The disassembly of the instructions at the even offsets. -/
def text (program : Program) : String :=
  String.join (program.instructions.mapIdx fun index => lineText (2 * index))

/-- The decoded instructions at the even offsets, in brackets. -/
def inspect (program : Program) : String :=
  "[" ++ ", ".intercalate (program.instructions.map Instruction.inspect) ++ "]"

end Program

end ThreeBit
