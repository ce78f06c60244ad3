import ThreeBit.Machine.Basic

/-! # Runs

`Machine.advance` steps a machine until it halts or has executed as many instructions as a limit
allows, and tells an observer every event on the way. The runs are read off the machine it stops at.

The limit counts all instructions since the machine was built, those of earlier calls included, and
a machine that has halted is beyond the reach of any limit. -/

namespace ThreeBit

/-- **Outcome.** What is left of a machine that ran to its halt. -/
structure Outcome where
  /-- The register file at the halt. -/
  registers : Registers
  /-- Every emitted value. -/
  outputs : Array Word
  /-- The number of instructions executed. -/
  steps : UInt64
  deriving DecidableEq, Repr, Inhabited

/-- Why a run has no outcome. -/
inductive Machine.Error where
  /-- The machine was still running when it had executed this many instructions. -/
  | stepLimitExceeded (limit : UInt64)
  deriving DecidableEq, Repr

/-- The wording of a failed run. -/
def Machine.Error.message : Machine.Error → String
  | stepLimitExceeded limit => s!"program did not halt within {limit} steps"

namespace Machine

/-- The largest number of instructions a machine can count. -/
def lastStep : UInt64 := 18446744073709551615

/-- Counting one more step below a limit does not wrap around, so the distance to the limit
shrinks. -/
theorem sub_steps_step_lt {machine : Machine} {limit : UInt64} (hrun : machine.halted = false)
    (hbelow : machine.steps < limit) :
    limit.toNat - machine.step.1.steps.toNat < limit.toNat - machine.steps.toNat := by
  have hlt : machine.steps.toNat < limit.toNat := UInt64.lt_iff_toNat_lt.1 hbelow
  have hbound := limit.toNat_lt
  rw [steps_step hrun, UInt64.toNat_add]
  simp
  omega

/-! ### The stepping loop

Termination is by the number of steps left below the limit. -/

/-- Step a machine until it halts or has counted up to the limit, telling an observer what
happens. -/
def advance {σ : Type} (observe : σ → Event → σ) (limit : UInt64) (state : σ) (machine : Machine) :
    σ × Machine :=
  if _hrun : machine.halted = false ∧ machine.steps < limit then
    advance observe limit (machine.events.foldl observe state) machine.step.1
  else (state, machine)
termination_by limit.toNat - machine.steps.toNat
decreasing_by exact sub_steps_step_lt _hrun.1 _hrun.2

/-- The machine a loop stops at does not depend on the observer. -/
theorem advance_snd {σ : Type} (observe : σ → Event → σ) (limit : UInt64) (state : σ)
    (machine : Machine) :
    (machine.advance observe limit state).2 = (machine.advance (fun _ _ => ()) limit ()).2 := by
  fun_induction advance observe limit state machine with
  | case1 state machine hrun ih => rw [ih, advance.eq_def _ _ _ machine, dif_pos hrun]
  | case2 state machine hstop => rw [advance, dif_neg hstop]

/-- The final state of a machine, of interest once it has halted. -/
def outcome (machine : Machine) : Outcome where
  registers := machine.registers
  outputs := machine.output
  steps := machine.steps

/-- The outcome of a machine that has halted. -/
def outcome? (machine : Machine) : Option Outcome :=
  if machine.halted then some machine.outcome else none

/-- Run to the halt within a limit on all steps of the machine, with an observer. -/
def runWithLimitTraced {σ : Type} (observe : σ → Event → σ) (limit : UInt64) (state : σ)
    (machine : Machine) : σ × Except Machine.Error Outcome :=
  let (state, machine) := machine.advance observe limit state
  (state, machine.outcome?.elim (.error (.stepLimitExceeded limit)) .ok)

/-- Run to the halt within a limit on all steps of the machine. -/
def runWithLimit (limit : UInt64) (machine : Machine) : Except Machine.Error Outcome :=
  (machine.runWithLimitTraced (fun _ _ => ()) limit ()).2

/-- The result of a bounded run does not depend on the observer. -/
theorem runWithLimitTraced_snd {σ : Type} (observe : σ → Event → σ) (limit : UInt64) (state : σ)
    (machine : Machine) :
    (machine.runWithLimitTraced observe limit state).2 = machine.runWithLimit limit := by
  simp only [runWithLimit, runWithLimitTraced, advance_snd observe]

/-- Run to the halt with an observer. There is no outcome if the machine counts to its last step
without halting, as one that loops for ever does. -/
def runTraced {σ : Type} (observe : σ → Event → σ) (state : σ) (machine : Machine) :
    σ × Option Outcome :=
  let (state, machine) := machine.advance observe lastStep state
  (state, machine.outcome?)

/-- Run to the halt, without an outcome if the machine counts to its last step before. -/
def run (machine : Machine) : Option Outcome :=
  (machine.runTraced (fun _ _ => ()) ()).2

/-- The result of a run does not depend on the observer. -/
theorem runTraced_snd {σ : Type} (observe : σ → Event → σ) (state : σ) (machine : Machine) :
    (machine.runTraced observe state).2 = machine.run := by
  simp only [run, runTraced, advance_snd observe]

end Machine

end ThreeBit
