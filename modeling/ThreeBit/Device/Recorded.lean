import ThreeBit.Device.Basic

/-! # Recorded devices

Any device can be put under a recorder, which keeps every call that changes it, in order.
`Device.recorded` behaves as the device it wraps. -/

namespace ThreeBit

/-- **Call.** One call that changes a device. -/
inductive Call where
  /-- A reset. -/
  | reset
  /-- Loading of the data registers. -/
  | load (a b c : Register)
  /-- A clock edge with an instruction. -/
  | clock (instruction : Instruction)
  deriving DecidableEq, Repr

/-- **Recorded.** The state of a device with the calls made to it. -/
structure Recorded (σ : Type) where
  /-- The state of the device. -/
  inner : σ
  /-- The calls so far. -/
  calls : Array Call := #[]
  deriving DecidableEq, Repr, Inhabited

/-- A device under a recorder. -/
def Device.recorded {σ : Type} (device : Device σ) : Device (Recorded σ) where
  reset state := { inner := device.reset state.inner, calls := state.calls.push .reset }
  loadRegisters state a b c :=
    { inner := device.loadRegisters state.inner a b c, calls := state.calls.push (.load a b c) }
  status state := device.status state.inner
  clock state instruction :=
    let (inner, status) := device.clock state.inner instruction
    ({ inner, calls := state.calls.push (.clock instruction) }, status)

end ThreeBit
