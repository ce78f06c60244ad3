import ThreeBit.Config
import ThreeBit.Device.Basic

/-! # The model device

`Model` is a device in software. It has registers of a fixed width, knows the size of its program
and nothing else of it, and halts once its instruction pointer reaches that size. -/

namespace ThreeBit

/-- **Model.** The state of the model device. -/
structure Model where
  /-- The number of words of the program. -/
  programSize : Nat
  /-- The bits that a data register holds. -/
  mask : Register
  /-- The register file. -/
  registers : Registers := {}
  /-- The outside, as it was left by the last clock edge or reset. -/
  status : Status := {}
  deriving DecidableEq, Repr, Inhabited

namespace Model

/-- Whether the instruction pointer has reached the size of the program. -/
def isPast (model : Model) (ip : UInt64) : Bool :=
  decide (model.programSize ≤ ip.toNat)

/-- Clear every register and go back to the entry point, which is past the end of an empty
program. -/
def reset (model : Model) : Model :=
  { model with registers := {}, status := { flags := { halted := model.isPast 0 } } }

/-- A fresh device for programs of the given size, with data registers of the given width. -/
def new (programSize registerBits : Nat) : Model :=
  reset { programSize, mask := registerMask registerBits }

/-- A register file cut to the width of the device. The instruction pointer has no such width. -/
def truncate (model : Model) (registers : Registers) : Registers where
  a := registers.a &&& model.mask
  b := registers.b &&& model.mask
  c := registers.c &&& model.mask
  ip := registers.ip

/-- Load the data registers, cut to their width. The outside stays as it was. -/
def loadRegisters (model : Model) (a b c : Register) : Model :=
  { model with registers := model.truncate { a, b, c, ip := model.registers.ip } }

/-- One clock edge. A device that has halted ignores it. -/
def clock (model : Model) (instruction : Instruction) : Model × Status :=
  if model.status.flags.halted then (model, model.status)
  else
    let transition := instruction.execute model.registers
    let registers := model.truncate transition.registers
    let status := {
      ip := registers.ip
      output := transition.output.getD 0
      flags := {
        outputValid := transition.output.isSome
        halted := model.isPast registers.ip } }
    ({ model with registers, status }, status)

/-- The model as a device. -/
def device : Device Model where
  reset := reset
  loadRegisters := loadRegisters
  status := status
  clock := clock

end Model

end ThreeBit
