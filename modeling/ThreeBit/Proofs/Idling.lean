import Mathlib
import ThreeBit.Proofs.DeviceStates
import ThreeBit.Proofs.Invariant
import ThreeBit.Proofs.SelfCheck

/-! # Idling past the end of a program

A device that was built for a longer program than it is checked on does not halt where the program
ends. It is then fed the default instruction, which divides `A` by one, and moves on by two words a
cycle until it reaches the size it was built for. This module says how many cycles that takes, and
that they do no harm:

* **`Model.cycles_resize`** — the size a device is built for has no part in what it does while it
  runs, so the longer device does what the device of the right size does, as long as the program
  lasts;
* **`Model.idle_cycle`** and **`Model.idle_cycles`** — a cycle past the end, and a number of them,
  move the pointer and nothing else;
* **`Model.haltsAt_of_idle`** — so the device halts after one cycle for every two words that are
  left;
* **`Model.check_of_longer`** — the check of a longer device. -/

namespace ThreeBit

/-! ## Moving on, again and again -/

namespace Registers

/-- Moving on leaves the data registers alone, however often. -/
theorem data_advance_iterate (registers : Registers) (count : ℕ) :
    (advance^[count] registers).a = registers.a ∧ (advance^[count] registers).b = registers.b ∧
      (advance^[count] registers).c = registers.c := by
  induction count with
  | zero => exact ⟨rfl, rfl, rfl⟩
  | succ count ih =>
    rw [Function.iterate_succ_apply']
    exact ih

/-- **Moving on a number of times, in numbers.** The pointer stops at the last offset it can
hold. -/
theorem toNat_ip_advance_iterate (registers : Registers) (count : ℕ) :
    (advance^[count] registers).ip.toNat = min (registers.ip.toNat + 2 * count) (2 ^ 64 - 1) := by
  induction count with
  | zero =>
    have hbound := registers.ip.toNat_lt
    rw [Function.iterate_zero_apply]
    omega
  | succ count ih =>
    rw [Function.iterate_succ_apply', toNat_ip_advance, ih]
    omega

end Registers

/-- **The default instruction does nothing** but move on: it divides `A` by one. -/
theorem Instruction.execute_default (registers : Registers) :
    (default : Instruction).execute registers = { registers := registers.advance } := by
  have hquotient : divide registers.a 0 = registers.a := by
    rw [divide_eq, if_pos (by decide), UInt64.shiftRight_zero]
  show ({ registers := { registers.advance with a := divide registers.a 0 } } : Transition) = _
  rw [hquotient]
  rfl

/-- Past the end of a program a device is fed the default instruction. -/
theorem Program.feed_of_isPast {program : Program} {ip : UInt64}
    (hpast : program.isPast ip = true) : program.feed ip = default := by
  rw [feed, (fetch_eq_none_iff program ip).mpr hpast]
  rfl

namespace Model

variable {model : Model} {program : Program} {size bits : ℕ}

/-! ## Devices of another size -/

/-- The device that is like a given one and was built for a program of another **size**: whether it
has halted is the only thing that can be different on its outside. -/
def resize (size : ℕ) (model : Model) : Model :=
  { model with
    programSize := size
    status := { model.status with
      flags := { model.status.flags with
        halted := decide (size ≤ model.registers.ip.toNat) } } }

/-- The sample of a device, as it shows itself. -/
def sampled (model : Model) : Model × Status := (model, model.status)

/-- A cycle of the model device shows the status that it leaves. -/
theorem cycle_sampled (program : Program) (model : Model) :
    device.cycle program model.sampled
      = (model.clock (program.feed model.status.ip)).1.sampled :=
  Prod.ext rfl (clock_snd _ _)

/-- Every sample of a run of the model device shows the status of the device. -/
theorem cycles_sampled (program : Program) (model : Model) (count : ℕ) :
    device.cycles program model.sampled count
      = (device.cycles program model.sampled count).1.sampled := by
  induction count with
  | zero => rfl
  | succ count ih =>
    rw [Device.cycles_succ, ih, cycle_sampled]
    rfl

/-- **One clock edge has no regard for the size**, if both devices run. -/
theorem clock_resize (hrun : model.status.flags.halted = false)
    (hip : model.registers.ip.toNat < size) (instruction : Instruction) :
    ((model.resize size).clock instruction).1 = (model.clock instruction).1.resize size := by
  have hrun' : (model.resize size).status.flags.halted = false :=
    decide_eq_false (not_le.mpr hip)
  rw [clock, clock, hrun, hrun', if_neg Bool.false_ne_true, if_neg Bool.false_ne_true]
  rfl

/-- **A longer device does the same**, as long as the shorter one runs. -/
theorem cycles_resize {count : ℕ} (hrun : device.RunsFor program model.sampled count)
    (hip : ∀ earlier < count,
      (device.cycles program model.sampled earlier).1.registers.ip.toNat < size) :
    device.cycles program (model.resize size).sampled count
      = ((device.cycles program model.sampled count).1.resize size).sampled := by
  induction count with
  | zero => rfl
  | succ count ih =>
    obtain ⟨hbefore, hlast⟩ := Device.runsFor_succ_iff.mp hrun
    have hsame := ih hbefore fun earlier hlt => hip earlier (by omega)
    rw [cycles_sampled] at hlast
    rw [Device.cycles_succ, hsame, cycle_sampled, Device.cycles_succ, cycles_sampled, cycle_sampled]
    show (((device.cycles program model.sampled count).1.resize size).clock _).1.sampled = _
    rw [clock_resize hlast (hip count (Nat.lt_succ_self count))]
    rfl

/-- A longer device emits the same, as long as the shorter one runs. -/
theorem emitted_resize {count : ℕ} (hrun : device.RunsFor program model.sampled count)
    (hip : ∀ earlier < count,
      (device.cycles program model.sampled earlier).1.registers.ip.toNat < size) :
    device.emitted program (model.resize size).sampled count
      = device.emitted program model.sampled count := by
  induction count with
  | zero => rfl
  | succ count ih =>
    have hbefore := (Device.runsFor_succ_iff.mp hrun).1
    rw [Device.emitted_succ, Device.emitted_succ,
      ih hbefore fun earlier hlt => hip earlier (by omega), cycles_resize hrun hip,
      cycles_sampled program model (count + 1)]
    rfl

/-- A longer device runs as long as the shorter one does, and longer. -/
theorem runsFor_resize {count : ℕ} (hrun : device.RunsFor program model.sampled count)
    (hip : ∀ earlier < count,
      (device.cycles program model.sampled earlier).1.registers.ip.toNat < size) :
    device.RunsFor program (model.resize size).sampled count := by
  intro earlier hlt
  rw [cycles_resize (hrun.mono hlt.le) fun before hbefore => hip before (hbefore.trans hlt)]
  exact decide_eq_false (not_le.mpr (hip earlier hlt))

/-! ## Idle cycles -/

/-- **An idle cycle.** Past the end of the program a running device is fed the default instruction.
It moves its pointer on, keeps its data registers, emits nothing, and stays past the end. -/
theorem idle_cycle (h : Invariant size bits model) (hrun : model.status.flags.halted = false)
    (hpast : program.isPast model.status.ip = true) :
    let next := device.cycle program model.sampled
    next = model.clock default ∧ next.1.registers = model.registers.advance ∧
      next.2.value? = none ∧ program.isPast next.2.ip = true := by
  intro next
  have hnext : next = model.clock default := by
    rw [← Program.feed_of_isPast hpast]
    rfl
  -- the mask takes nothing from registers that fit the width already
  have hkeep : model.truncate model.registers.advance = model.registers.advance :=
    truncate_of_fitsIn h.mask (h.fits.advance.mono (min_le_left _ _))
  refine ⟨hnext, ?_⟩
  rw [hnext, clock, hrun, if_neg Bool.false_ne_true, Instruction.execute_default]
  refine ⟨hkeep, rfl, ?_⟩
  show program.isPast (model.truncate model.registers.advance).ip = true
  rw [Program.isPast, decide_eq_true_iff, h.ip] at hpast
  have hbound := model.registers.ip.toNat_lt
  rw [Program.isPast, decide_eq_true_iff, hkeep, Registers.toNat_ip_advance]
  omega

/-- The invariant of the model device holds on every cycle. -/
theorem Invariant.cycles (h : Invariant size bits model) (program : Program) (count : ℕ) :
    Invariant size bits (device.cycles program model.sampled count).1 := by
  induction count with
  | zero => exact h
  | succ count ih =>
    rw [Device.cycles_succ]
    exact ih.clock _

/-- An idle cycle in the course of a run. -/
theorem idle_cycles_succ (h : Invariant size bits model) {count : ℕ}
    (hrun : (device.cycles program model.sampled count).2.flags.halted = false)
    (hpast : program.isPast (device.cycles program model.sampled count).2.ip = true) :
    let before := device.cycles program model.sampled count
    let next := device.cycles program model.sampled (count + 1)
    next = before.1.clock default ∧ next.1.registers = before.1.registers.advance ∧
      next.2.value? = none ∧ program.isPast next.2.ip = true := by
  intro before next
  have hnext : next = device.cycle program before.1.sampled := by
    rw [← cycles_sampled]
    exact Device.cycles_succ _ _ _ _
  rw [cycles_sampled] at hrun hpast
  rw [hnext]
  exact idle_cycle (h.cycles program count) hrun hpast

/-- **A number of idle cycles** is that number of moves, and nothing is emitted on them. -/
theorem idle_cycles (h : Invariant size bits model) (hpast : program.isPast model.status.ip = true)
    {count : ℕ} (hrun : device.RunsFor program model.sampled count) :
    (device.cycles program model.sampled count).1.registers
        = Registers.advance^[count] model.registers ∧
      program.isPast (device.cycles program model.sampled count).2.ip = true ∧
      device.emitted program model.sampled count = [] := by
  induction count with
  | zero => exact ⟨rfl, hpast, rfl⟩
  | succ count ih =>
    obtain ⟨hbefore, hlast⟩ := Device.runsFor_succ_iff.mp hrun
    obtain ⟨hregisters, hstill, hsilent⟩ := ih hbefore
    obtain ⟨-, hmoved, hvalue, hstill'⟩ := idle_cycles_succ h hlast hstill
    refine ⟨?_, hstill', ?_⟩
    · rw [hmoved, hregisters, Function.iterate_succ_apply']
    · rw [Device.emitted_succ, hsilent, hvalue]
      rfl

/-- **Idling ends** after one cycle for every two words up to the size of the device, rounded up. -/
theorem haltsAt_of_idle (h : Invariant size bits model) (hsize : size < 2 ^ 64)
    (hpast : program.isPast model.status.ip = true) :
    device.HaltsAt program model.sampled ((size - model.registers.ip.toNat + 1) / 2) := by
  -- where the pointer stands after a number of idle cycles says whether the device has halted there
  have hhalted : ∀ count, device.RunsFor program model.sampled count →
      ((device.cycles program model.sampled count).2.flags.halted = true ↔
        size ≤ model.registers.ip.toNat + 2 * count) := by
    intro count hrun
    rw [cycles_sampled]
    refine (h.cycles program count).halted.trans ?_
    rw [(idle_cycles h hpast hrun).1, Registers.toNat_ip_advance_iterate]
    omega
  have hrun : ∀ count ≤ (size - model.registers.ip.toNat + 1) / 2,
      device.RunsFor program model.sampled count := by
    intro count
    induction count with
    | zero => exact fun _ _ hlt => absurd hlt (Nat.not_lt_zero _)
    | succ count ih =>
      intro hle
      have hbefore := ih (by omega)
      refine Device.runsFor_succ_iff.mpr ⟨hbefore, ?_⟩
      rw [← Bool.not_eq_true, hhalted count hbefore]
      omega
  refine ⟨hrun _ le_rfl, ?_⟩
  rw [hhalted _ (hrun _ le_rfl)]
  omega

/-! ## Beside the machine -/

section Machine

variable {machine : Machine} (hlock : Lockstep bits machine model.sampled)
  (hlonger : machine.program.size < size)
include hlock hlonger

/-- **As long as the program lasts**, a longer device has the registers and emits the stream of the
machine. -/
theorem longer_cycles {count : ℕ} (hrun : machine.RunsFor count) :
    let sample := (model.resize size).sampled
    (device.cycles machine.program sample count).1.registers = (machine.after count).registers ∧
      device.RunsFor machine.program sample count ∧
      (machine.after count).output.toList
        = machine.output.toList ++ device.emitted machine.program sample count := by
  intro sample
  have hshort := hlock.runsFor_iff.mpr hrun
  -- while the machine runs, the pointer is within the program, and so below the larger size
  have hip : ∀ earlier < count,
      (device.cycles machine.program model.sampled earlier).1.registers.ip.toNat < size := by
    intro earlier hlt
    have hwithin := Machine.ip_lt_size (hrun earlier hlt)
    rw [Machine.program_after] at hwithin
    rw [(hlock.cycles earlier).registers]
    omega
  refine ⟨?_, runsFor_resize hshort hip, ?_⟩
  · rw [cycles_resize hshort hip]
    exact (hlock.cycles count).registers
  · rw [emitted_resize hshort hip]
    exact hlock.output_after hrun

/-- **A longer device halts late**, by one cycle for every two words between the pointer of the
halted machine and the size of the device. It emits nothing more on the way, and has the data
registers of the machine at the end. -/
theorem longer_haltsAt (hsize : size < 2 ^ 64)
    (hinvariant : Invariant size bits (model.resize size)) {count : ℕ}
    (hhalts : machine.HaltsAt count) :
    let sample := (model.resize size).sampled
    let left := (size - (machine.after count).registers.ip.toNat + 1) / 2
    let last := (device.cycles machine.program sample (count + left)).1.registers
    device.HaltsAt machine.program sample (count + left) ∧
      device.emitted machine.program sample (count + left)
        = device.emitted machine.program sample count ∧
      last.a = (machine.after count).registers.a ∧ last.b = (machine.after count).registers.b ∧
      last.c = (machine.after count).registers.c := by
  intro sample left last
  obtain ⟨hsame, hruns, -⟩ := longer_cycles hlock hlonger hhalts.1
  -- from where the machine has halted the device is on its own
  let reached := (device.cycles machine.program sample count).1
  have hreached : device.cycles machine.program sample count = reached.sampled :=
    cycles_sampled _ _ _
  have hregisters : reached.registers = (machine.after count).registers := hsame
  have hinvariant' : Invariant size bits reached := hinvariant.cycles machine.program count
  have hpast : machine.program.isPast reached.status.ip = true := by
    have hhalted := hhalts.2
    rwa [(machine.after count).coherent, Machine.program_after, ← hregisters,
      ← hinvariant'.ip] at hhalted
  have hends : device.HaltsAt machine.program reached.sampled left := by
    have hidle := haltsAt_of_idle hinvariant' hsize hpast
    rwa [hregisters] at hidle
  obtain ⟨hmoved, -, hsilent⟩ := idle_cycles hinvariant' hpast hends.1
  rw [← hreached] at hends hmoved hsilent
  rw [← Device.cycles_add] at hmoved
  refine ⟨.add hruns hends, ?_, ?_⟩
  · rw [Device.emitted_add, hsilent, List.append_nil]
  · rw [← hregisters, show last = _ from hmoved]
    exact reached.registers.data_advance_iterate left

end Machine

/-! ## The check of a longer device -/

variable {config : Config} {listing : Listing} {outcome : Outcome}

/-- A device **loaded** with the registers of a listing. -/
def loadedWith (listing : Listing) (model : Model) : Model :=
  model.reset.loadRegisters listing.a listing.b listing.c

/-- A device is loaded alike for every size. -/
theorem loaded_eq_resize (listing : Listing) (model : Model) (size : ℕ) :
    device.loaded listing model
      = ((loadedWith listing { model with programSize := size }).resize
          model.programSize).sampled :=
  rfl

/-- A loaded device satisfies the invariant, whatever state it was in. -/
theorem invariant_loadedWith (hmask : model.mask = registerMask bits) (listing : Listing) :
    Invariant model.programSize bits (loadedWith listing model) := by
  have hload := (invariant_new model.programSize bits).call (.load listing.a listing.b listing.c)
  rw [← reset_eq_new rfl hmask] at hload
  exact hload

/-- **The check of a longer device.** Take a device that was built for a longer program than that of
the listing, in any state, whose registers are at least as wide as configured and hold the words of
the program, and a listing with a reference outcome. Beyond the reference steps the device takes one
cycle for every two words from where the reference stands to the size of the device, rounded up. If
the cycle budget covers them all, the check passes with the reference outputs and that many cycles,
and leaves the reference data registers; if not, it times out. On every cycle past the end of the
program the device is fed the default instruction, which emits nothing, changes no data register and
takes no jump. -/
theorem check_of_longer (config : Config) (listing : Listing) (model : Model) (bits : ℕ)
    (outcome : Outcome) (hlonger : listing.program.size < model.programSize)
    (hsize : model.programSize < 2 ^ 64) (hmask : model.mask = registerMask bits)
    (hbits : config.registerBits ≤ bits)
    (hwords : ∀ word ∈ listing.program.words, word.toNat < 2 ^ min bits 64)
    (hexpected : config.expected listing = .ok outcome) :
    let checked := device.check config listing model
    let total := outcome.steps.toNat + (model.programSize - outcome.registers.ip.toNat + 1) / 2
    let sampleAt := device.cycles listing.program (device.loaded listing model)
    (total ≤ config.maxCycles.toNat →
      checked.2 = .ok { outputs := outcome.outputs, cycles := UInt64.ofNat total,
                        steps := outcome.steps } ∧
        (UInt64.ofNat total).toNat = total ∧
        checked.1.registers.a = outcome.registers.a ∧
        checked.1.registers.b = outcome.registers.b ∧
        checked.1.registers.c = outcome.registers.c) ∧
    (config.maxCycles.toNat < total → checked.2 = .error (.timeout config.maxCycles)) ∧
    ∀ count < total, listing.program.fetch (sampleAt count).2.ip = none →
      let fed : Instruction := { opcode := 0, operand := 0 }
      let before := (sampleAt count).1.registers
      let next := (sampleAt (count + 1)).1.registers
      sampleAt (count + 1) = (sampleAt count).1.clock fed ∧
        (fed.execute before).output = none ∧ (fed.execute before).jumped = false ∧
        (sampleAt (count + 1)).2.value? = none ∧
        next.a = before.a ∧ next.b = before.b ∧ next.c = before.c := by
  intro checked total sampleAt
  have hfits : listing.program.FitsIn bits := Program.FitsIn.mono hwords (min_le_left _ _)
  -- the device of the right size is in lockstep with the machine
  have hlock : Lockstep bits listing.machine
      (loadedWith listing { model with programSize := listing.program.size }).sampled :=
    lockstep_of_expected hexpected rfl hmask hbits hfits
  obtain ⟨hrun, hhalt, heq⟩ := Config.exists_after_of_expected hexpected
  have hregisters : (listing.machine.after outcome.steps.toNat).registers = outcome.registers :=
    (congrArg Outcome.registers heq).symm
  have hinvariant := invariant_loadedWith hmask listing
  obtain ⟨hends, hquiet, hdata⟩ := longer_haltsAt hlock hlonger hsize hinvariant ⟨hrun, hhalt⟩
  rw [hregisters, ← loaded_eq_resize] at hends hquiet hdata
  have hends' : device.HaltsAt listing.program (device.loaded listing model) total := hends
  have hstream : device.emitted listing.program (device.loaded listing model) total
      = outcome.outputs.toList := by
    have hwhole := (longer_cycles hlock hlonger hrun).2.2
    have houtputs : outcome.outputs = (listing.machine.after outcome.steps.toNat).output :=
      congrArg Outcome.outputs heq
    rw [houtputs, hwhole]
    exact hquiet
  refine ⟨fun hle => ?_, fun hlt => ?_, fun count hlt hnone => ?_⟩
  · have hcheck := Device.check_of_verdict hexpected (.matched hends' hle hstream)
    have hbound := config.maxCycles.toNat_lt
    rw [show checked = _ from hcheck]
    exact ⟨rfl, UInt64.toNat_ofNat_of_lt' (lt_of_le_of_lt hle hbound), hdata⟩
  · -- the device still runs, and has emitted a part of the stream
    have hrunning := hends'.1.mono (show config.maxCycles.toNat + 1 ≤ total from hlt)
    have hpart := hstream ▸ Device.emitted_mono hlt.le
    rw [show checked = _ from Device.check_of_verdict hexpected (.timeout hrunning hpart)]
    rfl
  · intro fed before next
    obtain ⟨hclock, hmoved, hvalue, -⟩ := idle_cycles_succ hinvariant (hends'.1 count hlt)
      ((Program.fetch_eq_none_iff _ _).mp hnone)
    have hmoved' : next = before.advance := hmoved
    have hdefault : fed.execute before = { registers := before.advance } :=
      Instruction.execute_default before
    rw [hdefault, hmoved']
    exact ⟨hclock, rfl, rfl, hvalue, rfl, rfl, rfl⟩

/-- The program ends by a jump to three words past its end, which is an odd offset, and the device
was built for ten words: two idle cycles follow, the second with half of its words outside, and the
last of the budget. -/
theorem check_of_longer_odd_end :
    let config : Config := { maxCycles := 4, registerBits := 3 }
    let listing : Listing := { a := 1, b := 0, c := 0, program := ⟨#[5, 4, 3, 7], rfl⟩ }
    let model : Model := {
      programSize := 10
      mask := registerMask 3
      registers := { a := 7, b := 7, c := 7, ip := 10 }
      status := { ip := 10, output := 7, flags := { outputValid := true, halted := true } } }
    config.expected listing
        = .ok { registers := { a := 1, ip := 7 }, outputs := #[1], steps := 2 } ∧
      (device.check config listing model).2 = .ok { outputs := #[1], cycles := 4, steps := 2 } ∧
      (device.check config listing model).1.registers.a = 1 := by
  intro config listing model
  have hexpected : config.expected listing
      = .ok { registers := { a := 1, ip := 7 }, outputs := #[1], steps := 2 } := by decide +kernel
  have hcheck := check_of_longer config listing model 3 _ (by decide) (by decide) rfl (by decide)
    (by simp [listing]) hexpected
  obtain ⟨hpass, -, ha, -⟩ := hcheck.1 (by decide)
  exact ⟨hexpected, hpass.trans (by decide), ha⟩

end Model

end ThreeBit
