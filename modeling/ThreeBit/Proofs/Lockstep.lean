import Mathlib
import ThreeBit.Proofs.Cycles
import ThreeBit.Proofs.Steps
import ThreeBit.Proofs.Width

/-! # The model device in lockstep with the machine

The model device and the machine are two transition systems: the device masks its registers and is
fed from outside, the machine holds its program and has full registers. `Lockstep` relates a machine
to a sample of the model, and one cycle against one step preserves it (`Lockstep.cycle`), so it
holds along the whole run (`Lockstep.cycles`). The relation carries the width invariant that makes
the masks disappear. -/

namespace ThreeBit

/-- **Lockstep.** A sample of the model device agrees with a machine: the same registers, which fit
the width of the device, the same offset on the outside, and the same answer to whether it has
halted. The device was built for the program and for a width that holds its words. -/
structure Lockstep (bits : ℕ) (machine : Machine) (sample : Model × Status) : Prop where
  /-- The width holds every remainder modulo eight. -/
  wide : 3 ≤ bits
  /-- The width holds the words of the program, which are operands. -/
  words : machine.program.FitsIn bits
  /-- The device was built for the size of the program. -/
  size : sample.1.programSize = machine.program.size
  /-- The device was built for the width. -/
  mask : sample.1.mask = registerMask bits
  /-- The register files agree. -/
  registers : sample.1.registers = machine.registers
  /-- The data registers fit the width. -/
  fits : machine.registers.FitsIn bits
  /-- The status last sampled is the one that the device keeps. -/
  status : sample.1.status = sample.2
  /-- The offset on the outside is that of the machine. -/
  ip : sample.2.ip = machine.registers.ip
  /-- The halt flag on the outside is the halt of the machine. -/
  halted : sample.2.flags.halted = machine.halted

namespace Lockstep

variable {bits : ℕ} {machine : Machine} {sample : Model × Status}

/-- The status that a device in lockstep shows after an instruction with the given effect. -/
def statusAfter (program : Program) (transition : Transition) : Status where
  ip := transition.registers.ip
  output := transition.output.getD 0
  flags := {
    outputValid := transition.output.isSome
    halted := program.isPast transition.registers.ip }

/-- The instruction that the machine fetches keeps the registers within the width. -/
theorem fitsIn_execute (h : Lockstep bits machine sample) {instruction : Instruction}
    (hfetch : machine.program.fetch machine.registers.ip = some instruction) :
    (instruction.execute machine.registers).registers.FitsIn bits :=
  Registers.fitsIn_execute h.wide h.fits (Program.operand_lt_of_fetch h.words hfetch)

/-- **A cycle of a running device.** It executes the instruction that the machine fetches, and the
mask takes nothing from the result. -/
theorem cycle_of_fetch (h : Lockstep bits machine sample) {instruction : Instruction}
    (hfetch : machine.program.fetch machine.registers.ip = some instruction) :
    Model.device.cycle machine.program sample =
      ({ sample.1 with
          registers := (instruction.execute machine.registers).registers
          status := statusAfter machine.program (instruction.execute machine.registers) },
        statusAfter machine.program (instruction.execute machine.registers)) := by
  have hrun : sample.1.status.flags.halted = false := by
    rw [h.status, h.halted]
    exact Machine.running_of_fetch hfetch
  -- the device asks for the offset of the machine, so it is fed the same instruction
  have hfeed : machine.program.feed sample.2.ip = instruction := by
    rw [Program.feed, h.ip, hfetch]
    rfl
  have hpast : ∀ ip, sample.1.isPast ip = machine.program.isPast ip := fun ip => by
    rw [Model.isPast, Program.isPast, h.size]
  show sample.1.clock (machine.program.feed sample.2.ip) = _
  rw [hfeed, Model.clock, hrun, if_neg Bool.false_ne_true]
  simp only [h.registers, Model.truncate_of_fitsIn h.mask (h.fitsIn_execute hfetch), hpast,
    statusAfter]

/-- **One cycle against one step.** A device that has halted ignores the clock just as a machine
that has halted ignores a step, so lockstep is kept in every case. -/
theorem cycle (h : Lockstep bits machine sample) :
    Lockstep bits machine.step.1 (Model.device.cycle machine.program sample) := by
  cases hhalt : machine.halted with
  | true =>
    have hclock : Model.device.cycle machine.program sample = sample := by
      show sample.1.clock (machine.program.feed sample.2.ip) = sample
      rw [Model.clock, h.status, h.halted, hhalt, if_pos rfl]
    rw [Machine.step_of_halted hhalt, hclock]
    exact h
  | false =>
    obtain ⟨instruction, hfetch⟩ := Machine.exists_fetch_of_running hhalt
    rw [h.cycle_of_fetch hfetch, Machine.step_of_fetch hfetch]
    exact ⟨h.wide, h.words, h.size, h.mask, rfl, h.fitsIn_execute hfetch, rfl, rfl, rfl⟩

/-- The values emitted by a cycle and by a step of a running machine are the same. After the halt
they need not be: the device goes on showing its last status, while the machine reports nothing. -/
theorem value_cycle (h : Lockstep bits machine sample) (hrun : machine.halted = false) :
    (Model.device.cycle machine.program sample).2.value? = machine.step.2.value? := by
  obtain ⟨instruction, hfetch⟩ := Machine.exists_fetch_of_running hrun
  rw [h.cycle_of_fetch hfetch, Machine.step_of_fetch hfetch]
  rfl

/-- **A whole run.** Lockstep is kept by any number of cycles against as many steps. -/
theorem cycles (h : Lockstep bits machine sample) (count : ℕ) :
    Lockstep bits (machine.after count)
      (Model.device.cycles machine.program sample count) := by
  induction count with
  | zero => exact h
  | succ count ih =>
    -- the feed is read off the program of the machine, which no step changes
    have hnext := ih.cycle
    rw [Machine.program_after] at hnext
    rw [Machine.after_succ, Device.cycles_succ]
    exact hnext

/-- The value emitted on a cycle of a run, as long as the machine has not halted before it. -/
theorem value_cycles_succ (h : Lockstep bits machine sample) {count : ℕ}
    (hrun : (machine.after count).halted = false) :
    (Model.device.cycles machine.program sample (count + 1)).2.value?
      = (machine.after count).step.2.value? := by
  have hvalue := (h.cycles count).value_cycle hrun
  rw [Machine.program_after] at hvalue
  rw [Device.cycles_succ]
  exact hvalue

/-- Device and machine run for the same numbers of cycles and steps. -/
theorem runsFor_iff (h : Lockstep bits machine sample) {count : ℕ} :
    Model.device.RunsFor machine.program sample count ↔ machine.RunsFor count := by
  refine forall₂_congr fun earlier _ => ?_
  rw [(h.cycles earlier).halted]

/-- **The streams agree.** What the device has emitted after a number of cycles is what the machine
has added to its output stream, as long as the machine runs. -/
theorem output_after (h : Lockstep bits machine sample) {count : ℕ}
    (hrun : machine.RunsFor count) :
    (machine.after count).output.toList
      = machine.output.toList ++ Model.device.emitted machine.program sample count := by
  induction count with
  | zero => simp
  | succ count ih =>
    have hlast : (machine.after count).halted = false := hrun count (Nat.lt_succ_self count)
    rw [Machine.after_succ, Machine.output_step hlast, ih (hrun.mono (Nat.le_succ count)),
      Device.emitted_succ, h.value_cycles_succ hlast, List.append_assoc]

end Lockstep

/-- **A freshly loaded device is in lockstep** with the machine at the start of the program,
whatever state it was in before its reset. -/
theorem lockstep_loaded {bits : ℕ} (model : Model) {program : Program} {a b c : Register}
    (hsize : model.programSize = program.size) (hmask : model.mask = registerMask bits)
    (hbits : 3 ≤ bits) (hwords : program.FitsIn bits)
    (hfits : ({ a, b, c } : Registers).FitsIn bits) :
    Lockstep bits { program, registers := { a, b, c } }
      (model.reset.loadRegisters a b c, (model.reset.loadRegisters a b c).status) where
  wide := hbits
  words := hwords
  size := hsize
  mask := hmask
  registers := by
    have hreset : model.reset.mask = registerMask bits := hmask
    exact Model.truncate_of_fitsIn hreset hfits
  fits := hfits
  status := rfl
  ip := rfl
  halted := by
    show model.isPast 0 = program.isPast 0
    rw [Model.isPast, Program.isPast, hsize]

/-- **The model device refines the machine, cycle for cycle.** Take a device of at least three bits
whose width holds the words of the program and the initial registers. Clocked on what it asks for,
it has the registers of the machine after every number of cycles that the machine does not halt
before, shows the offset of the machine, and reports the value and the halt of the step just taken.
Jumps may go anywhere, to odd offsets and past the end too. -/
theorem Model.cycles_refine_steps (program : Program) (bits : ℕ) (a b c : Register)
    (hbits : 3 ≤ bits) (hwords : ∀ word ∈ program.words, word.toNat < 2 ^ bits)
    (ha : a.toNat < 2 ^ bits) (hb : b.toNat < 2 ^ bits) (hc : c.toNat < 2 ^ bits) :
    let machine : Machine := { program, registers := { a, b, c } }
    let model := (Model.new program.size bits).loadRegisters a b c
    Machine.ofWords program.words a b c = .ok machine ∧
      ∀ count, machine.RunsFor count →
        let sample := Model.device.cycles program (model, model.status) count
        sample.1.registers = (machine.after count).registers ∧
          sample.1.status = sample.2 ∧ sample.2.ip = (machine.after count).registers.ip ∧
          ∀ before, count = before + 1 →
            sample.2.value? = (machine.after before).step.2.value? ∧
              sample.2.flags.halted = (machine.after before).step.2.flags.halted := by
  intro machine model
  refine ⟨Machine.ofWords_program program a b c, ?_⟩
  intro count hrun sample
  have hstart : Lockstep bits machine (model, model.status) :=
    lockstep_loaded { programSize := program.size, mask := registerMask bits } rfl rfl hbits hwords
      ⟨ha, hb, hc⟩
  have hlock : Lockstep bits (machine.after count) sample := hstart.cycles count
  refine ⟨hlock.registers, hlock.status, hlock.ip, ?_⟩
  rintro before rfl
  refine ⟨hstart.value_cycles_succ (hrun before (Nat.lt_succ_self before)), ?_⟩
  rw [hlock.halted, Machine.after_succ, Machine.halted_step]

/-- A run of three bits that jumps to an odd offset, emits there, and takes its last instruction
from the last word of the program, with the operand missing. -/
theorem Model.cycles_refine_steps_odd_jump :
    let program : Program := ⟨#[3, 3, 0, 5, 4, 0], rfl⟩
    let machine : Machine := { program, registers := { a := 6, b := 0, c := 0 } }
    let model := (Model.new program.size 3).loadRegisters 6 0 0
    machine.RunsFor 3 ∧
      (Model.device.cycles program (model, model.status) 3).1.registers
        = (machine.after 3).registers := by
  have hrun : ({ program := ⟨#[3, 3, 0, 5, 4, 0], rfl⟩, registers := { a := 6, b := 0, c := 0 } } :
      Machine).RunsFor 3 := by
    intro earlier hlt
    interval_cases earlier <;> decide
  exact ⟨hrun, ((Model.cycles_refine_steps ⟨#[3, 3, 0, 5, 4, 0], rfl⟩ 3 6 0 0 (by decide)
    (by simp) (by decide) (by decide) (by decide)).2 3 hrun).1⟩

end ThreeBit
