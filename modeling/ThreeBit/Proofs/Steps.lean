import Mathlib
import ThreeBit.Machine.Run

/-! # Iterated stepping

`machine.after count` is a machine after a number of steps. Stepping a machine that has halted
changes nothing, so `after` runs through the states of the machine up to its halt and then stays
there.

* **`Machine.step_of_fetch`** — what a step of a running machine does, in terms of the instruction
  it fetches;
* **`Machine.steps_after`** and **`Machine.output_after_prefix`** — the counter and the output
  stream along a run;
* **`Machine.exists_after_of_runWithLimit`** — a bounded run that succeeds has stopped at the first
  halted state of that sequence. -/

namespace ThreeBit

/-- A counter below a limit has room for one more. -/
theorem toNat_add_one_of_lt {counter limit : UInt64} (h : counter < limit) :
    (counter + 1).toNat = counter.toNat + 1 := by
  have hlt := UInt64.lt_iff_toNat_lt.mp h
  have hbound := limit.toNat_lt
  rw [UInt64.toNat_add, UInt64.toNat_one]
  omega

namespace Machine

/-- Loading the words of a program gives the machine at its start. -/
theorem ofWords_program (program : Program) (a b c : Register) :
    ofWords program.words a b c = .ok { program, registers := { a, b, c } } := by
  rw [ofWords, Program.ofWords, dif_pos program.even_size]
  rfl

/-! ## One step -/

/-- A running machine has an instruction to fetch. -/
theorem exists_fetch_of_running {machine : Machine} (hrun : machine.halted = false) :
    ∃ instruction, machine.program.fetch machine.registers.ip = some instruction := by
  rw [← Option.ne_none_iff_exists', Ne, fetch_eq_none_iff_halted, hrun]
  exact Bool.false_ne_true

/-- A machine with an instruction to fetch is running. -/
theorem running_of_fetch {machine : Machine} {instruction : Instruction}
    (hfetch : machine.program.fetch machine.registers.ip = some instruction) :
    machine.halted = false := by
  rw [← Bool.not_eq_true, ← fetch_eq_none_iff_halted, hfetch]
  exact Option.some_ne_none _

/-- The machine **after an instruction** with the given effect. Its halt bit is read off the new
instruction pointer. -/
def apply (machine : Machine) (transition : Transition) : Machine :=
  { machine.toState.apply transition with
    halted := machine.program.isPast transition.registers.ip
    coherent := rfl }

@[simp] theorem registers_apply (machine : Machine) (transition : Transition) :
    (machine.apply transition).registers = transition.registers := rfl

/-- A value that is emitted comes behind those emitted before. -/
theorem output_apply (machine : Machine) (transition : Transition) :
    (machine.apply transition).output.toList
      = machine.output.toList ++ transition.output.toList := by
  cases hout : transition.output <;> simp [apply, State.apply, hout]

/-- The bit of a running machine is clear, so it has only to be set where the pointer asks for
it. -/
theorem toState_apply {machine : Machine} (hrun : machine.halted = false)
    (transition : Transition) :
    (machine.apply transition).toState = machine.toState.apply transition := by
  show ({ machine.toState.apply transition with
    halted := machine.program.isPast transition.registers.ip } : State) = _
  rw [← State.halted_apply hrun transition]

/-- **A step of a running machine.** It executes the fetched instruction and reports the emitted
value, the jump and whether the new instruction pointer lies past the end. -/
theorem step_of_fetch {machine : Machine} {instruction : Instruction}
    (hfetch : machine.program.fetch machine.registers.ip = some instruction) :
    machine.step =
      (machine.apply (instruction.execute machine.registers),
        { output := (instruction.execute machine.registers).output.getD 0
          flags := {
            outputValid := (instruction.execute machine.registers).output.isSome
            jumped := (instruction.execute machine.registers).jumped
            halted := machine.program.isPast
              (instruction.execute machine.registers).registers.ip } }) := by
  have hrun : machine.halted = false := running_of_fetch hfetch
  have hstate : machine.toState.fetch = some instruction :=
    State.fetch_eq_some_iff.mpr ⟨hrun, hfetch⟩
  refine Prod.ext (eq_of_toState_eq ?_) ?_
  · show machine.toState.step.1 = (machine.apply _).toState
    rw [toState_apply hrun, State.step, hstate]
  · show machine.toState.step.2 = _
    rw [State.step, hstate]

/-- The program never changes. -/
@[simp] theorem program_step (machine : Machine) : machine.step.1.program = machine.program := by
  show machine.toState.step.1.program = machine.program
  unfold State.step
  split <;> rfl

/-- The reported halt is the halt of the machine after the step. -/
theorem halted_step (machine : Machine) :
    machine.step.2.flags.halted = machine.step.1.halted := by
  cases hhalt : machine.halted with
  | true => rw [step_of_halted hhalt, hhalt]
  | false =>
    obtain ⟨instruction, hfetch⟩ := exists_fetch_of_running hhalt
    rw [step_of_fetch hfetch]
    rfl

/-- A step appends the value it reports, if any, to the output stream. -/
theorem output_step {machine : Machine} (hrun : machine.halted = false) :
    machine.step.1.output.toList = machine.output.toList ++ machine.step.2.value?.toList := by
  obtain ⟨instruction, hfetch⟩ := exists_fetch_of_running hrun
  rw [step_of_fetch hfetch]
  show (machine.apply (instruction.execute machine.registers)).output.toList = _
  rw [output_apply, StepReport.value?, Flags.value?]
  cases (instruction.execute machine.registers).output <;> rfl

/-- A step keeps what was emitted before it. -/
theorem output_step_grows (machine : Machine) :
    machine.output.toList <+: machine.step.1.output.toList := by
  cases hhalt : machine.halted with
  | true => rw [step_of_halted hhalt]
  | false =>
    rw [output_step hhalt]
    exact List.prefix_append _ _

/-! ## Many steps -/

/-- The machine **after** a number of steps. -/
def after (machine : Machine) (count : ℕ) : Machine :=
  (fun machine => machine.step.1)^[count] machine

@[simp] theorem after_zero (machine : Machine) : machine.after 0 = machine := rfl

/-- The last step read off `after`. -/
theorem after_succ (machine : Machine) (count : ℕ) :
    machine.after (count + 1) = (machine.after count).step.1 :=
  Function.iterate_succ_apply' _ _ _

/-- The first step read off `after`. -/
theorem after_succ_step (machine : Machine) (count : ℕ) :
    machine.after (count + 1) = machine.step.1.after count :=
  Function.iterate_succ_apply _ _ _

@[simp] theorem program_after (machine : Machine) (count : ℕ) :
    (machine.after count).program = machine.program := by
  induction count with
  | zero => rfl
  | succ count ih => rw [after_succ, program_step, ih]

/-- A machine **runs for** a number of steps when it has not halted before any of them. -/
def RunsFor (machine : Machine) (count : ℕ) : Prop :=
  ∀ earlier < count, (machine.after earlier).halted = false

/-- A machine that runs for a number of steps runs for any smaller number. -/
theorem RunsFor.mono {machine : Machine} {first second : ℕ} (h : machine.RunsFor second)
    (hle : first ≤ second) : machine.RunsFor first :=
  fun earlier hlt => h earlier (lt_of_lt_of_le hlt hle)

/-- Running for one more step, read off its end. -/
theorem runsFor_succ_iff {machine : Machine} {count : ℕ} :
    machine.RunsFor (count + 1) ↔
      machine.RunsFor count ∧ (machine.after count).halted = false :=
  Nat.forall_lt_succ_right

/-- Running for one more step, read off its front. -/
theorem runsFor_succ_step {machine : Machine} {count : ℕ} (hrun : machine.halted = false)
    (h : machine.step.1.RunsFor count) : machine.RunsFor (count + 1) := by
  intro earlier hlt
  cases earlier with
  | zero => exact hrun
  | succ earlier =>
    rw [after_succ_step]
    exact h earlier (by omega)

/-- Every step of a run is counted. -/
theorem steps_after {machine : Machine} {count : ℕ} (h : machine.RunsFor count) :
    (machine.after count).steps = machine.steps + UInt64.ofNat count := by
  induction count with
  | zero => exact (UInt64.add_zero machine.steps).symm
  | succ count ih =>
    rw [after_succ, steps_step (h count (Nat.lt_succ_self count)), ih (h.mono (Nat.le_succ count)),
      UInt64.ofNat_add, UInt64.add_assoc]
    rfl

/-- **Outputs only grow.** The stream emitted up to some number of steps begins that of every larger
number. -/
theorem output_after_prefix {machine : Machine} {first second : ℕ} (hle : first ≤ second) :
    (machine.after first).output.toList <+: (machine.after second).output.toList := by
  induction second, hle using Nat.le_induction with
  | base => exact List.prefix_rfl
  | succ second _ ih =>
    rw [after_succ]
    exact ih.trans (output_step_grows (machine.after second))

/-! ## Bounded runs -/

/-- **The stepping loop, in steps.** It stops after some number of steps, all of them taken by a
running machine below the limit, and stops early only at the halt. -/
theorem exists_advance_eq_after {σ : Type} (observe : σ → Event → σ) (limit : UInt64) (state : σ)
    (machine : Machine) :
    ∃ count, (machine.advance observe limit state).2 = machine.after count ∧
      machine.RunsFor count ∧ count ≤ limit.toNat - machine.steps.toNat ∧
      ((machine.after count).halted = false → limit ≤ (machine.after count).steps) := by
  fun_induction advance observe limit state machine with
  | case1 state machine hbelow ih =>
    -- one step, and then the steps of the rest of the loop, which starts closer to the limit
    obtain ⟨count, heq, hrun, hle, hstop⟩ := ih
    have hlt := sub_steps_step_lt hbelow.1 hbelow.2
    refine ⟨count + 1, by rw [heq, after_succ_step], runsFor_succ_step hbelow.1 hrun,
      by omega, ?_⟩
    rw [after_succ_step]
    exact hstop
  | case2 state machine hstop =>
    refine ⟨0, rfl, fun earlier hlt => absurd hlt (Nat.not_lt_zero _), Nat.zero_le _, ?_⟩
    -- the loop stops for one of two reasons, and the halt is excluded here
    intro hrun
    exact UInt64.not_lt.mp fun hlt => hstop ⟨hrun, hlt⟩

/-- **A successful bounded run, in steps.** Its outcome is that of the first halted state, reached
within the limit. -/
theorem exists_after_of_runWithLimit {machine : Machine} {limit : UInt64} {outcome : Outcome}
    (h : machine.runWithLimit limit = .ok outcome) :
    ∃ count ≤ limit.toNat - machine.steps.toNat, machine.RunsFor count ∧
      (machine.after count).halted = true ∧ outcome = (machine.after count).outcome := by
  -- the loop may also have stopped at the limit, but then there is no outcome
  obtain ⟨count, heq, hrun, hle, -⟩ := exists_advance_eq_after (fun _ _ => ()) limit () machine
  refine ⟨count, hle, hrun, ?_⟩
  rw [runWithLimit, runWithLimitTraced] at h
  simp only [heq, outcome?] at h
  cases hhalt : (machine.after count).halted with
  | true =>
    rw [hhalt] at h
    exact ⟨rfl, (Except.ok.inj h).symm⟩
  | false =>
    rw [hhalt] at h
    exact absurd h (by simp)

end Machine

end ThreeBit
