import Mathlib
import ThreeBit.Check

/-! # A device, cycle by cycle

Whoever clocks a device sees a sequence of statuses: the one sampled after loading, and then one
after each clock edge, the edge being fed the instruction at the offset of the status before it.
This module names that sequence for an arbitrary device, with nothing assumed about what it does:

* **`Device.cycles`** — the internal state and the status after a number of cycles;
* **`Device.emitted`** — the values emitted on the first cycles, of which the status before the
  first edge is not one;
* **`Device.RunsFor`**, **`Device.HaltsAt`** — where the first status with the halt flag stands.

The cycles of a device can be taken in two parts, and then everything here is the sum of the parts
(`Device.cycles_add`, `Device.emitted_add`, `Device.runsFor_add_iff`). -/

namespace ThreeBit

namespace Device

variable {σ : Type} (device : Device σ) (program : Program) (sample : σ × Status)

/-- One **cycle**: a clock edge with the instruction at the offset last reported, or with two zero
words where there is none. A sample is the internal state of a device with its status. -/
def cycle : σ × Status :=
  device.clock sample.1 ((program.fetch sample.2.ip).getD { opcode := 0, operand := 0 })

/-- The sample after a number of cycles. -/
def cycles (count : ℕ) : σ × Status :=
  (device.cycle program)^[count] sample

@[simp] theorem cycles_zero : device.cycles program sample 0 = sample := rfl

/-- The last cycle read off `cycles`. -/
theorem cycles_succ (count : ℕ) :
    device.cycles program sample (count + 1)
      = device.cycle program (device.cycles program sample count) :=
  Function.iterate_succ_apply' _ _ _

/-- The first cycle read off `cycles`. -/
theorem cycles_succ_cycle (count : ℕ) :
    device.cycles program sample (count + 1)
      = device.cycles program (device.cycle program sample) count :=
  Function.iterate_succ_apply _ _ _

/-- Cycles add up. -/
theorem cycles_add (first second : ℕ) :
    device.cycles program sample (first + second)
      = device.cycles program (device.cycles program sample first) second := by
  rw [add_comm]
  exact Function.iterate_add_apply _ _ _ _

/-- The values emitted on the first cycles, in order. -/
def emitted : ℕ → List Word
  | 0 => []
  | count + 1 => emitted count ++ (device.cycles program sample (count + 1)).2.value?.toList

@[simp] theorem emitted_zero : device.emitted program sample 0 = [] := rfl

theorem emitted_succ (count : ℕ) :
    device.emitted program sample (count + 1)
      = device.emitted program sample count
        ++ (device.cycles program sample (count + 1)).2.value?.toList := rfl

/-- What is emitted on further cycles comes after what was emitted before. -/
theorem emitted_add (first second : ℕ) :
    device.emitted program sample (first + second)
      = device.emitted program sample first
        ++ device.emitted program (device.cycles program sample first) second := by
  induction second with
  | zero => simp
  | succ second ih => rw [← add_assoc, emitted_succ, emitted_succ, ih, add_assoc, cycles_add,
      List.append_assoc]

variable {device program sample} in
/-- Emitted values stay emitted. -/
theorem emitted_mono {first second : ℕ} (hle : first ≤ second) :
    device.emitted program sample first <+: device.emitted program sample second := by
  induction second, hle using Nat.le_induction with
  | base => exact List.prefix_rfl
  | succ second _ ih => exact ih.trans (List.prefix_append _ _)

/-- A device **runs for** a number of cycles when no status before the last of them has the halt
flag. So the numbers it runs for are those up to the halting cycle, and all if there is none. -/
def RunsFor (count : ℕ) : Prop :=
  ∀ earlier < count, (device.cycles program sample earlier).2.flags.halted = false

variable {device program sample} in
/-- A device runs for one more cycle if it has not halted on the last. -/
theorem runsFor_succ_iff {count : ℕ} :
    device.RunsFor program sample (count + 1) ↔
      device.RunsFor program sample count ∧
        (device.cycles program sample count).2.flags.halted = false :=
  Nat.forall_lt_succ_right

variable {device program sample} in
/-- A device runs for further cycles if it runs for them from where it has come to. -/
theorem runsFor_add_iff {first second : ℕ} :
    device.RunsFor program sample (first + second) ↔
      device.RunsFor program sample first ∧
        device.RunsFor program (device.cycles program sample first) second := by
  induction second with
  | zero => exact ⟨fun h => ⟨h, fun _ hlt => absurd hlt (Nat.not_lt_zero _)⟩, And.left⟩
  | succ second ih =>
    rw [← add_assoc, runsFor_succ_iff, runsFor_succ_iff, ih, cycles_add, and_assoc]

/-- A device **halts at** the least cycle whose status has the halt flag. -/
def HaltsAt (count : ℕ) : Prop :=
  device.RunsFor program sample count ∧
    (device.cycles program sample count).2.flags.halted = true

variable {device program sample} in
/-- A device that halts on a later cycle from where it has come to halts on the sum of the
cycles. -/
theorem HaltsAt.add {first second : ℕ} (hrun : device.RunsFor program sample first)
    (h : device.HaltsAt program (device.cycles program sample first) second) :
    device.HaltsAt program sample (first + second) := by
  refine ⟨runsFor_add_iff.mpr ⟨hrun, h.1⟩, ?_⟩
  rw [cycles_add]
  exact h.2

/-- Reset a device, load it with the registers of a listing, and take the first sample. -/
def loaded (listing : Listing) (internal : σ) : σ × Status :=
  let after := device.loadRegisters (device.reset internal) listing.a listing.b listing.c
  (after, device.status after)

end Device

end ThreeBit
