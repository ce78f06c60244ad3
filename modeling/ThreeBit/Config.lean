import ThreeBit.Registers

/-! # Limits

A `Config` bounds a reference run and a device run, and fixes how wide the data registers of a
device are. Widths from three bits, so that every literal fits, to the 64 bits of a register can be
served. -/

namespace ThreeBit

/-- The mask that keeps the given number of low bits of a register: none of them for the width
zero, all of them from the width 64 on. The bits that are not kept are shifted out of a register
with all bits set. -/
def registerMask (bits : Nat) : Register :=
  (shiftRight? (~~~0) (64 - bits).toUInt32).getD 0

/-- **Limits.** What reference and device runs may use up, and how wide registers are. -/
structure Config where
  /-- How many instructions the reference may execute. -/
  maxSteps : UInt64 := 1000000
  /-- How many cycles a device may take. -/
  maxCycles : UInt64 := 1000000
  /-- The width of the data registers of a device. -/
  registerBits : Nat := 48
  deriving DecidableEq, Repr, Inhabited

namespace Config

/-- The mask for the data registers of a device. -/
def mask (config : Config) : Register :=
  registerMask config.registerBits

/-- Whether the register width can be served. -/
def widthSupported (config : Config) : Bool :=
  decide (3 ≤ config.registerBits ∧ config.registerBits ≤ 64)

/-- Whether a value fits into a data register, so that it has no bit outside of the mask. -/
def fits (config : Config) (value : Register) : Bool :=
  value &&& ~~~config.mask == 0

end Config

end ThreeBit
