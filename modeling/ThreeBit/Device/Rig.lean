import ThreeBit.Device.Model

/-! # A test rig

`Rig` puts a model device behind a panel that can misreport what the device does. The panel counts
clock edges, replaces the reported status by a script, and tampers with it by rules. What the model
does behind the panel is not affected. -/

namespace ThreeBit

/-- **Tampering.** A rule that alters the status on the panel while it applies. -/
structure Tampering where
  /-- The first cycle on which the rule applies. -/
  first : Nat := 0
  /-- The last cycle on which the rule applies. -/
  last : Nat := 18446744073709551615
  /-- Apply only where a value is reported. -/
  onOutput : Bool := false
  /-- Apply only where the halt is reported. -/
  onHalt : Bool := false
  /-- Apply only where the output word, valid or not, has this value. -/
  ifOutput : Option Nat := none
  /-- The output word to report. -/
  setOutput : Option Word := none
  /-- The instruction pointer to report. -/
  setIp : Option UInt64 := none
  /-- Flags to report besides. -/
  setFlags : Flags := {}
  /-- Flags not to report, though they be set. -/
  clearFlags : Flags := {}
  deriving DecidableEq, Repr, Inhabited

namespace Tampering

/-- Whether the rule applies to a status on a cycle. -/
def applies (rule : Tampering) (cycle : Nat) (status : Status) : Bool :=
  decide (rule.first ≤ cycle) && decide (cycle ≤ rule.last) &&
    (!rule.onOutput || status.flags.outputValid) && (!rule.onHalt || status.flags.halted) &&
    rule.ifOutput.all (· == status.output.toNat)

/-- The status that the rule leaves on the panel. -/
def apply (rule : Tampering) (cycle : Nat) (status : Status) : Status :=
  if rule.applies cycle status then
    { ip := rule.setIp.getD status.ip
      output := rule.setOutput.getD status.output
      flags := (status.flags.union rule.setFlags).diff rule.clearFlags }
  else status

end Tampering

/-- **Rig.** A model device behind a panel. -/
structure Rig where
  /-- The device behind the panel. -/
  model : Model
  /-- The statuses to report instead, one a cycle, the last of them from its cycle on. -/
  script : Option (Array Status) := none
  /-- The rules, in the order in which they apply. -/
  tampering : List Tampering := []
  /-- The number of clock edges since the last reset. -/
  cycle : Nat := 0
  deriving DecidableEq, Repr, Inhabited

namespace Rig

/-- A rig whose model has been in use: it was loaded and has executed one instruction, past the
panel. -/
def used (rig : Rig) : Rig :=
  { rig with model := ((rig.model.loadRegisters 7 7 7).clock { opcode := 5, operand := 4 }).1 }

/-- The status before any tampering. -/
def reported (rig : Rig) : Status :=
  match rig.script with
  | none => rig.model.status
  | some script => script[min rig.cycle (script.size - 1)]?.getD {}

/-- The status on the panel. -/
def panel (rig : Rig) : Status :=
  rig.tampering.foldl (fun status rule => rule.apply rig.cycle status) rig.reported

/-- The rig as a device. -/
def device : Device Rig where
  reset rig := { rig with model := rig.model.reset, cycle := 0 }
  loadRegisters rig a b c := { rig with model := rig.model.loadRegisters a b c }
  status := panel
  clock rig instruction :=
    let rig := { rig with model := (rig.model.clock instruction).1, cycle := rig.cycle + 1 }
    (rig, rig.panel)

end Rig

end ThreeBit
