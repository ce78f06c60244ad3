import Mathlib
import ThreeBit.Proofs.Lockstep
import ThreeBit.Proofs.Reference
import ThreeBit.Proofs.Verdict

/-! # The check of the model device

The model device passes the check that it is the model for. It is in lockstep with the machine of
the listing, so of the verdicts only a match and a timeout are left, and the number of cycles is the
number of reference steps (`Model.check_of_expected`). The reset makes this independent of how the
device was left by an earlier use. -/

namespace ThreeBit

namespace Model

variable {config : Config} {listing : Listing} {outcome : Outcome} {model : Model} {bits : ℕ}

/-- A device that is wide enough for the configured width starts a check in lockstep with the
machine of the listing. -/
theorem lockstep_of_expected (hexpected : config.expected listing = .ok outcome)
    (hsize : model.programSize = listing.program.size) (hmask : model.mask = registerMask bits)
    (hbits : config.registerBits ≤ bits) (hwords : listing.program.FitsIn bits) :
    Lockstep bits listing.machine (device.loaded listing model) := by
  obtain ⟨⟨hmin, -⟩, hfits⟩ :=
    Config.checkWidths_eq_ok_iff.mp (Config.expected_eq_ok_iff.mp hexpected).1
  exact lockstep_loaded model hsize hmask (le_trans hmin hbits) hwords (hfits.mono hbits)

section Verdicts

variable (hlock : Lockstep bits listing.machine (device.loaded listing model))
  (hexpected : config.expected listing = .ok outcome)
include hlock

/-- The reference and the device have the same stream after a number of cycles of the run. -/
theorem emitted_eq_output {count : ℕ} (hrun : listing.machine.RunsFor count) :
    device.emitted listing.program (device.loaded listing model) count
      = (listing.machine.after count).output.toList := by
  have hstream := hlock.output_after hrun
  rw [hstream]
  rfl

include hexpected

/-- **A device with budget enough matches**, on the cycle of the last reference step. -/
theorem verdict_matched (hle : outcome.steps ≤ config.maxCycles) :
    device.Verdict listing.program (device.loaded listing model) outcome.outputs config.maxCycles
      outcome.steps.toNat (.ok outcome.steps) := by
  obtain ⟨hrun, hhalt, heq⟩ := Config.exists_after_of_expected hexpected
  have hhalts : device.HaltsAt listing.program (device.loaded listing model)
      outcome.steps.toNat :=
    ⟨hlock.runsFor_iff.mpr hrun, (hlock.cycles outcome.steps.toNat).halted.trans hhalt⟩
  have hall : device.emitted listing.program (device.loaded listing model) outcome.steps.toNat
      = outcome.outputs.toList := by
    rw [emitted_eq_output hlock hrun]
    exact (congrArg (fun outcome => outcome.outputs.toList) heq).symm
  have hverdict := Device.Verdict.matched hhalts (UInt64.le_iff_toNat_le.mp hle) hall
  rwa [UInt64.ofNat_toNat] at hverdict

/-- **A device with too small a budget times out**: it follows the reference stream and is still
running after the last cycle. -/
theorem verdict_timeout (hlt : config.maxCycles < outcome.steps) :
    device.Verdict listing.program (device.loaded listing model) outcome.outputs config.maxCycles
      config.maxCycles.toNat (.error (.timeout config.maxCycles)) := by
  obtain ⟨hrun, -, heq⟩ := Config.exists_after_of_expected hexpected
  have hlt' : config.maxCycles.toNat < outcome.steps.toNat := UInt64.lt_iff_toNat_lt.mp hlt
  have hbudget : listing.machine.RunsFor (config.maxCycles.toNat + 1) := hrun.mono hlt'
  have houtputs : outcome.outputs = (listing.machine.after outcome.steps.toNat).output :=
    congrArg Outcome.outputs heq
  -- what was emitted within the budget begins what is emitted up to the halt
  refine .timeout (hlock.runsFor_iff.mpr hbudget) ?_
  rw [emitted_eq_output hlock (hbudget.mono (Nat.le_succ _)), houtputs]
  exact Machine.output_after_prefix (le_of_lt hlt')

/-- With budget enough the check passes and leaves the reference registers. -/
theorem check_of_steps_le (hle : outcome.steps ≤ config.maxCycles) :
    (device.check config listing model).2
        = .ok { outputs := outcome.outputs, cycles := outcome.steps, steps := outcome.steps } ∧
      (device.check config listing model).1.registers = outcome.registers := by
  rw [Device.check_of_verdict hexpected (verdict_matched hlock hexpected hle)]
  refine ⟨rfl, (hlock.cycles outcome.steps.toNat).registers.trans ?_⟩
  exact congrArg Outcome.registers (Config.exists_after_of_expected hexpected).2.2.symm

/-- With too small a budget the check times out and leaves the registers of the last cycle. -/
theorem check_of_lt_steps (hlt : config.maxCycles < outcome.steps) :
    (device.check config listing model).2 = .error (.timeout config.maxCycles) ∧
      (device.check config listing model).1.registers
        = (listing.machine.after config.maxCycles.toNat).registers := by
  rw [Device.check_of_verdict hexpected (verdict_timeout hlock hexpected hlt)]
  exact ⟨rfl, (hlock.cycles config.maxCycles.toNat).registers⟩

end Verdicts

/-- **The check never rejects the model device.** Take a device for the size of the program, in any
state, whose registers are at least as wide as configured and hold the words of the program, and a
listing with a reference outcome. If the cycle budget covers the reference steps, the check passes
with the reference outputs and as many cycles as steps, and leaves the reference registers; if not,
it times out, with the registers of the machine after as many steps as there were cycles. -/
theorem check_of_expected (config : Config) (listing : Listing) (model : Model) (bits : ℕ)
    (outcome : Outcome) (hsize : model.programSize = listing.program.size)
    (hmask : model.mask = registerMask bits) (hbits : config.registerBits ≤ bits)
    (hwords : ∀ word ∈ listing.program.words, word.toNat < 2 ^ min bits 64)
    (hexpected : config.expected listing = .ok outcome) :
    let checked := device.check config listing model
    (outcome.steps ≤ config.maxCycles →
      checked.2 = .ok { outputs := outcome.outputs, cycles := outcome.steps,
                        steps := outcome.steps } ∧
        checked.1.registers = outcome.registers) ∧
    (config.maxCycles < outcome.steps →
      checked.2 = .error (.timeout config.maxCycles) ∧
        checked.1.registers = (listing.machine.after config.maxCycles.toNat).registers) ∧
    (∀ index expected actual, checked.2 ≠ .error (.outputMismatch index expected actual)) ∧
    (∀ index actual, checked.2 ≠ .error (.unexpectedOutput index actual)) ∧
    (∀ expected actual, checked.2 ≠ .error (.missingOutputs expected actual)) := by
  intro checked
  have hfits : listing.program.FitsIn bits := Program.FitsIn.mono hwords (min_le_left _ _)
  have hlock := lockstep_of_expected hexpected hsize hmask hbits hfits
  have hpass := check_of_steps_le hlock hexpected
  have hfail := check_of_lt_steps hlock hexpected
  -- the two cases are all there are, so no other failure is left
  have hnever : ∀ failure, checked.2 = .error failure → failure = .timeout config.maxCycles := by
    intro failure hfailure
    by_cases hle : outcome.steps ≤ config.maxCycles
    · exact absurd ((hpass hle).1.symm.trans hfailure) (by simp)
    · have htimeout := (hfail (UInt64.not_le.mp hle)).1.symm.trans hfailure
      exact (Except.error.inj htimeout).symm
  refine ⟨hpass, hfail, ?_, ?_, ?_⟩
  · intro index expected actual h
    exact Failure.noConfusion (hnever _ h)
  · intro index actual h
    exact Failure.noConfusion (hnever _ h)
  · intro expected actual h
    exact Failure.noConfusion (hnever _ h)

/-- A loop of two rounds on a device that an earlier use left halted, with a value on its outside
and its registers full: it passes on the very last cycle of the budget. -/
theorem check_of_expected_used_device :
    let config : Config := { maxCycles := 6, registerBits := 3 }
    let listing : Listing := { a := 3, b := 0, c := 0, program := ⟨#[0, 1, 5, 4, 3, 0], rfl⟩ }
    let model : Model := {
      programSize := 6
      mask := registerMask 3
      registers := { a := 7, b := 7, c := 7, ip := 9 }
      status := { ip := 9, output := 7, flags := { outputValid := true, halted := true } } }
    config.expected listing = .ok { registers := { ip := 6 }, outputs := #[1, 0], steps := 6 } ∧
      (device.check config listing model).2
        = .ok { outputs := #[1, 0], cycles := 6, steps := 6 } := by
  intro config listing model
  have hexpected : config.expected listing
      = .ok { registers := { ip := 6 }, outputs := #[1, 0], steps := 6 } := by decide +kernel
  have hcheck := check_of_expected config listing model 3 _ rfl rfl (by decide)
    (by simp [listing]) hexpected
  exact ⟨hexpected, (hcheck.1 (by decide)).1⟩

end Model

end ThreeBit
