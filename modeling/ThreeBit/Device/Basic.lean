import ThreeBit.Execute
import ThreeBit.Flags

/-! # Devices

A device is a clocked implementation of the machine that does not hold its program. It says where it
stands, is fed the instruction for that offset, and moves on by one clock edge. `Device σ` is the
interface, for any type `σ` of internal states. -/

namespace ThreeBit

/-- **Status.** What can be sampled on the outside of a device. -/
structure Status where
  /-- The instruction pointer. -/
  ip : UInt64 := 0
  /-- The output word, meaningful if the flags say so. -/
  output : Word := 0
  /-- The flags. -/
  flags : Flags := {}
  deriving DecidableEq, Repr, Inhabited

/-- The value emitted, if the device says that there is one. -/
def Status.value? (status : Status) : Option Word :=
  status.flags.value? status.output

/-- **Device.** The operations of a clocked implementation on its internal state. -/
structure Device (σ : Type) where
  /-- Clear every register and go back to the entry point. -/
  reset : σ → σ
  /-- Load the three data registers. -/
  loadRegisters : σ → Register → Register → Register → σ
  /-- Sample the outside without a clock edge. -/
  status : σ → Status
  /-- Present an instruction, trigger a clock edge, and sample the outside after it. -/
  clock : σ → Instruction → σ × Status

end ThreeBit
