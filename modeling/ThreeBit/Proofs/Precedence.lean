import Mathlib
import ThreeBit.Proofs.Halting
import ThreeBit.Proofs.Reference

/-! # Which result a listing gets

A listing can be refused for more than one reason at once: the width is not supported, several
registers do not fit, and the program would not halt within the limit either. `Config.expected`
makes its tests one after the other. This module says which result comes of them, by what each of
them is about:

* **`Listing.FirstTooWide`** — the first register, in order, that needs more bits than there are;
* **`Config.checkWidths_eq_error_iff`** — the width itself comes before the registers, and these
  come in order;
* **`Machine.runWithLimit_of_fresh`** — a bounded run of a machine that has not counted a step yet
  is read off its state after as many steps as the limit allows;
* **`Config.Settles`** — the result in four rules, one for each kind of it;
* **`Config.expected_settled`** — these rules are what is computed, and an outcome owes nothing to
  the limits that admit it. -/

namespace ThreeBit

/-! ## Registers in order -/

/-- The data registers in their order. -/
def RegisterName.all : List RegisterName := [.a, .b, .c]

namespace Listing

/-- The initial **value** of a register, by its name. -/
def value (listing : Listing) : RegisterName → Register
  | .a => listing.a
  | .b => listing.b
  | .c => listing.c

/-- The **first register that is too wide**: it needs more bits than there are, and none before it
does. -/
def FirstTooWide (listing : Listing) (bits : ℕ) (name : RegisterName) : Prop :=
  ∃ before after, RegisterName.all = before ++ name :: after ∧
    (∀ earlier ∈ before, (listing.value earlier).toNat < 2 ^ bits) ∧
    2 ^ bits ≤ (listing.value name).toNat

end Listing

namespace Config

variable {config : Config} {listing : Listing} {failure : Failure}

/-- The width test fails by the width. -/
theorem validate_eq_error_iff :
    config.validate = .error failure ↔
      ¬(3 ≤ config.registerBits ∧ config.registerBits ≤ 64) ∧
        failure = .unsupportedWidth config.registerBits := by
  rw [validate, test_eq_error_iff, widthSupported, decide_eq_true_iff]

/-- The test of a register fails by its value. -/
theorem checkWidth_eq_error_iff {name : RegisterName} {value : Register} :
    config.checkWidth name value = .error failure ↔
      2 ^ config.registerBits ≤ value.toNat ∧
        failure = .registerTooWide name value config.registerBits := by
  rw [checkWidth, test_eq_error_iff, fits_iff, not_lt]

/-- The tests of a listing are the test of the width and then those of the registers, in order. -/
theorem checkWidths_eq_bind (config : Config) (listing : Listing) :
    config.checkWidths listing =
      (do config.validate
          let _ ← RegisterName.all.mapM fun name => config.checkWidth name (listing.value name)
          return ()) := by
  simp only [RegisterName.all, List.mapM_cons, List.mapM_nil, Listing.value]
  rw [checkWidths]
  cases config.validate <;> cases config.checkWidth .a listing.a <;>
    cases config.checkWidth .b listing.b <;> cases config.checkWidth .c listing.c <;> rfl

/-- **The widths of a listing are refused** by the width itself, or else by the first register that
is too wide. -/
theorem checkWidths_eq_error_iff :
    config.checkWidths listing = .error failure ↔
      (¬(3 ≤ config.registerBits ∧ config.registerBits ≤ 64) ∧
        failure = .unsupportedWidth config.registerBits) ∨
      ((3 ≤ config.registerBits ∧ config.registerBits ≤ 64) ∧
        ∃ name, listing.FirstTooWide config.registerBits name ∧
          failure = .registerTooWide name (listing.value name) config.registerBits) := by
  rw [checkWidths_eq_bind, bind_eq_error_iff, validate_eq_error_iff]
  refine or_congr_right ?_
  simp only [Unique.exists_iff, PUnit.default_eq_unit, validate_eq_ok_iff]
  refine and_congr_right fun _ => ?_
  rw [bind_eq_error_iff, mapM_eq_error_iff]
  simp only [Unique.exists_iff, PUnit.default_eq_unit, checkWidth_eq_ok_iff,
    checkWidth_eq_error_iff]
  constructor
  · rintro (⟨before, name, after, hall, hbefore, hwide, rfl⟩ | ⟨_, -, hpure⟩)
    · exact ⟨name, ⟨before, after, hall, hbefore, hwide⟩, rfl⟩
    · cases hpure
  · rintro ⟨name, ⟨before, after, hall, hbefore, hwide⟩, rfl⟩
    exact Or.inl ⟨before, name, after, hall, hbefore, hwide, rfl⟩

end Config

/-! ## Machines that have not counted a step -/

namespace Machine

variable {machine : Machine} {limit : UInt64}

/-- A machine that has halted after a number of steps halts at one of them. -/
theorem exists_haltsAt_of_halted {count : ℕ} (hhalt : (machine.after count).halted = true) :
    ∃ first ≤ count, machine.HaltsAt first := by
  have hsome : ∃ first, (machine.after first).halted = true := ⟨count, hhalt⟩
  refine ⟨Nat.find hsome, Nat.find_le hhalt, fun earlier hlt => ?_, Nat.find_spec hsome⟩
  exact Bool.eq_false_iff.mpr (Nat.find_min hsome hlt)

/-- **A bounded run from the start.** It has the outcome of the state after as many steps as the
limit allows, if that has halted, and fails otherwise. -/
theorem runWithLimit_of_fresh (hfresh : machine.steps = 0) (limit : UInt64) :
    machine.runWithLimit limit =
      if (machine.after limit.toNat).halted then .ok (machine.after limit.toNat).outcome
      else .error (.stepLimitExceeded limit) := by
  have hzero : machine.steps.toNat = 0 := by rw [hfresh, UInt64.toNat_zero]
  split
  · next hhalt =>
    obtain ⟨count, hle, hhalts⟩ := exists_haltsAt_of_halted hhalt
    rw [hhalts.runWithLimit_eq, if_pos (Or.inr (by omega)), hhalts.after_eq hle]
  · next hrun =>
    refine runWithLimit_eq_error_iff.mpr fun count ⟨hhalts, hwithin⟩ => hrun ?_
    -- a halt within the limit would last up to the limit
    rw [hhalts.after_eq (by omega)]
    exact hhalts.2

/-- A run has the outcome of every bounded run that has one. -/
theorem run_of_runWithLimit {outcome : Outcome} (h : machine.runWithLimit limit = .ok outcome) :
    machine.run = some outcome := by
  have hle : limit ≤ lastStep := UInt64.le_iff_toNat_le.mpr (Nat.le_of_lt_succ limit.toNat_lt)
  exact run_eq_some_iff_runWithLimit.mpr (runWithLimit_mono hle h)

/-- A run from the start has the outcome of every later state that has halted, if a limit can tell
its steps. -/
theorem run_of_fresh (hfresh : machine.steps = 0)
    (hhalt : (machine.after limit.toNat).halted = true) :
    machine.run = some (machine.after limit.toNat).outcome := by
  have hbounded : machine.runWithLimit limit = .ok (machine.after limit.toNat).outcome := by
    rw [runWithLimit_of_fresh hfresh, if_pos hhalt]
  exact run_of_runWithLimit hbounded

end Machine

/-! ## The result -/

namespace Config

variable {config : Config} {listing : Listing} {outcome : Outcome}

/-- **The reference result** of a listing within some limits, by what decides it. Only the initial
values are held against the width: the run is on full registers. -/
inductive Settles (config : Config) (listing : Listing) : Except Failure Outcome → Prop
  /-- The width is not between three and 64. -/
  | unsupported :
      ¬(3 ≤ config.registerBits ∧ config.registerBits ≤ 64) →
      Settles config listing (.error (.unsupportedWidth config.registerBits))
  /-- The width is, and a register is too wide for it: the first of these is named. -/
  | tooWide {name : RegisterName} :
      3 ≤ config.registerBits ∧ config.registerBits ≤ 64 →
      listing.FirstTooWide config.registerBits name →
      Settles config listing
        (.error (.registerTooWide name (listing.value name) config.registerBits))
  /-- All registers fit, and the machine is still running after as many steps as are allowed. -/
  | unfinished :
      3 ≤ config.registerBits ∧ config.registerBits ≤ 64 →
      listing.registers.FitsIn config.registerBits →
      (listing.machine.after config.maxSteps.toNat).halted = false →
      Settles config listing (.error (.reference (.stepLimitExceeded config.maxSteps)))
  /-- All registers fit, and the machine has halted by then: the outcome is that of the run without
  a limit. -/
  | finished {outcome : Outcome} :
      3 ≤ config.registerBits ∧ config.registerBits ≤ 64 →
      listing.registers.FitsIn config.registerBits →
      (listing.machine.after config.maxSteps.toNat).halted = true →
      listing.machine.run = some outcome →
      Settles config listing (.ok outcome)

/-- The reference result of a listing whose widths are refused. -/
theorem expected_of_refused {failure : Failure} (h : config.checkWidths listing = .error failure) :
    config.expected listing = .error failure := by
  rw [expected, expectedLogged_snd, h]

/-- The reference result of a listing whose widths are allowed. -/
theorem expected_of_allowed
    (hbits : 3 ≤ config.registerBits ∧ config.registerBits ≤ 64)
    (hfits : listing.registers.FitsIn config.registerBits) :
    config.expected listing =
      if (listing.machine.after config.maxSteps.toNat).halted then
        .ok (listing.machine.after config.maxSteps.toNat).outcome
      else .error (.reference (.stepLimitExceeded config.maxSteps)) := by
  have hfresh : listing.machine.steps = 0 := rfl
  rw [expected, expectedLogged_snd, checkWidths_eq_ok_iff.mpr ⟨hbits, hfits⟩]
  simp only [Machine.runWithLimit_of_fresh hfresh]
  split <;> rfl

/-- **What is computed keeps to the rules.** -/
theorem settles_expected (config : Config) (listing : Listing) :
    config.Settles listing (config.expected listing) := by
  cases hwidths : config.checkWidths listing with
  | error failure =>
    rw [expected_of_refused hwidths]
    obtain ⟨hbits, rfl⟩ | ⟨hbits, name, hwide, rfl⟩ := checkWidths_eq_error_iff.mp hwidths
    · exact .unsupported hbits
    · exact .tooWide hbits hwide
  | ok _ =>
    obtain ⟨hbits, hfits⟩ := checkWidths_eq_ok_iff.mp hwidths
    rw [expected_of_allowed hbits hfits]
    split
    · next hhalt => exact .finished hbits hfits hhalt (Machine.run_of_fresh rfl hhalt)
    · next hrun => exact .unfinished hbits hfits (Bool.eq_false_iff.mpr hrun)

/-- **What the rules allow is computed.** -/
theorem Settles.expected_eq {result : Except Failure Outcome} (h : config.Settles listing result) :
    config.expected listing = result := by
  cases h with
  | unsupported hbits =>
    exact expected_of_refused (checkWidths_eq_error_iff.mpr (Or.inl ⟨hbits, rfl⟩))
  | tooWide hbits hwide =>
    exact expected_of_refused (checkWidths_eq_error_iff.mpr (Or.inr ⟨hbits, _, hwide, rfl⟩))
  | unfinished hbits hfits hrun =>
    rw [expected_of_allowed hbits hfits, if_neg (Bool.eq_false_iff.mp hrun)]
  | finished hbits hfits hhalt houtcome =>
    rw [expected_of_allowed hbits hfits, if_pos hhalt]
    have hrun := Machine.run_of_fresh rfl hhalt
    exact congrArg Except.ok (Option.some.inj (hrun.symm.trans houtcome))

/-- A machine with an outcome has halted by a number of steps exactly if that is no smaller than the
number in the outcome. -/
theorem halted_after_iff_steps_le (h : config.expected listing = .ok outcome) (limit : UInt64) :
    (listing.machine.after limit.toNat).halted = true ↔ outcome.steps ≤ limit := by
  obtain ⟨hrun, hhalt, -⟩ := exists_after_of_expected h
  rw [UInt64.le_iff_toNat_le]
  constructor
  · intro hhalted
    exact hrun.le_of_halted hhalted
  · intro hle
    rw [Machine.HaltsAt.after_eq ⟨hrun, hhalt⟩ hle]
    exact hhalt

/-- An outcome is the one of the run without a limit. -/
theorem run_of_expected (h : config.expected listing = .ok outcome) :
    listing.machine.run = some outcome :=
  Machine.run_of_runWithLimit (expected_eq_ok_iff.mp h).2

/-- **Which result a listing gets.** For all limits and all listings the reference result is the one
that the rules give: a width outside of three to 64 is refused before anything else; then the first
register, in the order of their names, whose value does not fit; then a machine that has not halted
after as many steps as are allowed; and if nothing is refused, there is an outcome, that of the run
without a limit. So an outcome is the same for all widths that hold the initial values and for all
limits that allow its steps, and for these only. -/
theorem expected_settled (config : Config) (listing : Listing) :
    (∀ result, config.expected listing = result ↔ config.Settles listing result) ∧
    ∀ outcome, config.expected listing = .ok outcome → ∀ other : Config,
      (other.expected listing = .ok outcome ↔
        (3 ≤ other.registerBits ∧ other.registerBits ≤ 64) ∧
          listing.registers.FitsIn other.registerBits ∧ outcome.steps ≤ other.maxSteps) ∧
      ∀ second, other.expected listing = .ok second → second = outcome := by
  refine ⟨fun result => ⟨?_, Settles.expected_eq⟩, fun outcome houtcome other => ⟨⟨?_, ?_⟩, ?_⟩⟩
  · rintro rfl
    exact settles_expected config listing
  · intro hother
    obtain ⟨hbits, hfits⟩ := checkWidths_eq_ok_iff.mp (expected_eq_ok_iff.mp hother).1
    refine ⟨hbits, hfits, (halted_after_iff_steps_le houtcome _).mp ?_⟩
    -- a machine that is still running would have been refused
    by_contra hrun
    rw [expected_of_allowed hbits hfits, if_neg hrun] at hother
    cases hother
  · rintro ⟨hbits, hfits, hle⟩
    exact (Settles.finished hbits hfits ((halted_after_iff_steps_le houtcome _).mpr hle)
      (run_of_expected houtcome)).expected_eq
  · intro second hsecond
    exact Option.some.inj ((run_of_expected hsecond).symm.trans (run_of_expected houtcome))

/-- A loop of two rounds takes six steps, and two of its registers need four bits. With four bits
and six steps there is an outcome, and it is that of the largest limits as well, but not of one step
less; with three bits and no step at all it is the second register that is named. -/
theorem expected_settled_exact_limits :
    let listing : Listing := { a := 3, b := 8, c := 9, program := ⟨#[0, 1, 5, 4, 3, 0], rfl⟩ }
    let outcome : Outcome :=
      { registers := { a := 0, b := 8, c := 9, ip := 6 }, outputs := #[1, 0], steps := 6 }
    let exact : Config := { maxSteps := 6, registerBits := 4 }
    exact.expected listing = .ok outcome ∧
      ({ maxSteps := Machine.lastStep, registerBits := 64 } : Config).expected listing
        = .ok outcome ∧
      ({ maxSteps := 5, registerBits := 64 } : Config).expected listing ≠ .ok outcome ∧
      ({ maxSteps := 0, registerBits := 3 } : Config).expected listing
        = .error (.registerTooWide .b 8 3) := by
  intro listing outcome exact
  have houtcome : exact.expected listing = .ok outcome := by decide +kernel
  have hsame := (expected_settled exact listing).2 outcome houtcome
  refine ⟨houtcome, (hsame _).1.mpr ⟨by decide, ⟨by decide, by decide, by decide⟩, by decide⟩,
    ?_, ?_⟩
  · intro hless
    exact absurd ((hsame _).1.mp hless).2.2 (by decide)
  · refine ((expected_settled _ listing).1 _).mpr (.tooWide (by decide) ?_)
    exact ⟨[.a], [.c], rfl, by decide, by decide⟩

end Config

end ThreeBit
