import ThreeBit.Instruction.Basic

/-! # Flags

What a machine or a device says about one step: whether it emitted a value, took a jump, or has
halted. The three facts also have a packed form, one bit each. -/

namespace ThreeBit

/-- **Flags.** What happened in a step. -/
structure Flags where
  /-- A value was emitted; the output word beside the flags holds it. -/
  outputValid : Bool := false
  /-- A jump was taken. -/
  jumped : Bool := false
  /-- The instruction pointer has left the program. -/
  halted : Bool := false
  deriving DecidableEq, Repr, Inhabited

namespace Flags

/-- The flags packed into bits: one for an emitted value, two for a jump, four for the halt. -/
def bits (flags : Flags) : Nat :=
  flags.outputValid.toNat + 2 * flags.jumped.toNat + 4 * flags.halted.toNat

/-- The flags packed in a number; bits without a meaning are dropped. -/
def ofBits (bits : Nat) : Flags where
  outputValid := bits.testBit 0
  jumped := bits.testBit 1
  halted := bits.testBit 2

/-- The flags set in either argument. -/
def union (left right : Flags) : Flags where
  outputValid := left.outputValid || right.outputValid
  jumped := left.jumped || right.jumped
  halted := left.halted || right.halted

/-- The flags set in the first argument and not in the second. -/
def diff (left right : Flags) : Flags where
  outputValid := left.outputValid && !right.outputValid
  jumped := left.jumped && !right.jumped
  halted := left.halted && !right.halted

/-- The output word beside some flags, where they say that it is one. -/
def value? (flags : Flags) (output : Word) : Option Word :=
  if flags.outputValid then some output else none

/-- Unpacking undoes packing. -/
@[simp] theorem ofBits_bits (flags : Flags) : ofBits flags.bits = flags := by
  obtain ⟨outputValid, jumped, halted⟩ := flags
  cases outputValid <;> cases jumped <;> cases halted <;> rfl

end Flags

end ThreeBit
