import Mathlib
import ThreeBit.Proofs.Steps
import ThreeBit.Proofs.Success
import ThreeBit.Proofs.Width
import ThreeBit.Reference

/-! # Reference outcomes, in steps

A listing has a reference outcome when its registers fit a supported width and its machine halts
within the step budget. `Config.checkWidths_eq_ok_iff` puts the first condition in numbers, and
`Config.exists_after_of_expected` reads the second off the sequence of states of the machine. -/

namespace ThreeBit

namespace Config

variable {config : Config} {listing : Listing}

/-- The width test passes exactly for widths from three to 64. -/
theorem validate_eq_ok_iff :
    config.validate = .ok () ↔ 3 ≤ config.registerBits ∧ config.registerBits ≤ 64 := by
  rw [validate, widthSupported]
  split <;> simp_all

/-- A register passes its test exactly when it fits. -/
theorem checkWidth_eq_ok_iff {name : RegisterName} {value : Register} :
    config.checkWidth name value = .ok () ↔ value.toNat < 2 ^ config.registerBits := by
  rw [checkWidth, ← fits_iff]
  split <;> simp_all

/-- **The widths of a listing, in numbers.** -/
theorem checkWidths_eq_ok_iff :
    config.checkWidths listing = .ok () ↔
      (3 ≤ config.registerBits ∧ config.registerBits ≤ 64) ∧
        listing.registers.FitsIn config.registerBits := by
  simp only [checkWidths, bind_eq_ok_iff, Unique.exists_iff, PUnit.default_eq_unit,
    validate_eq_ok_iff, checkWidth_eq_ok_iff]
  exact and_congr_right fun _ => ⟨fun ⟨ha, hb, hc⟩ => ⟨ha, hb, hc⟩, fun h => ⟨h.a, h.b, h.c⟩⟩

/-- A reference outcome is the result of a bounded run of a listing whose widths are allowed. -/
theorem expected_eq_ok_iff {outcome : Outcome} :
    config.expected listing = .ok outcome ↔
      config.checkWidths listing = .ok () ∧
        listing.machine.runWithLimit config.maxSteps = .ok outcome := by
  rw [expected, expectedLogged_snd]
  cases config.checkWidths listing with
  | error failure => simp
  | ok _ => cases listing.machine.runWithLimit config.maxSteps <;> simp [Except.mapError]

/-- **A reference outcome, in steps.** It is read off the first halted state of the machine, whose
number is the reported number of steps. -/
theorem exists_after_of_expected {outcome : Outcome}
    (h : config.expected listing = .ok outcome) :
    listing.machine.RunsFor outcome.steps.toNat ∧
      (listing.machine.after outcome.steps.toNat).halted = true ∧
      outcome = (listing.machine.after outcome.steps.toNat).outcome := by
  obtain ⟨count, hle, hrun, hhalt, heq⟩ :=
    Machine.exists_after_of_runWithLimit (expected_eq_ok_iff.mp h).2
  -- the counter starts at zero and the limit keeps it from wrapping around
  have hsteps : outcome.steps.toNat = count := by
    have hlt : count < UInt64.size :=
      lt_of_le_of_lt (le_trans hle (Nat.sub_le _ _)) config.maxSteps.toNat_lt
    have hcount : (listing.machine.after count).steps = 0 + UInt64.ofNat count :=
      Machine.steps_after hrun
    rw [heq]
    show (listing.machine.after count).steps.toNat = count
    rw [hcount, UInt64.zero_add, UInt64.toNat_ofNat_of_lt' hlt]
  rw [hsteps]
  exact ⟨hrun, hhalt, heq⟩

end Config

end ThreeBit
