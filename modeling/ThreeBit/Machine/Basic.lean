import ThreeBit.Flags
import ThreeBit.Program.Basic
import ThreeBit.Trace

/-! # Machines

A machine is a program together with a register file, the values emitted so far, a count of the
instructions executed, and a bit that says whether it has halted. The bit is written when a machine
is built and when a step leaves the program; after that it is the bit that is read, and not the
instruction pointer. `Machine.State` is that record, `Machine.State.step` executes one instruction
on it, and a `Machine` is a state whose bit agrees with its pointer.

* `Machine.State.Coherent.step` keeps the bit and the pointer in agreement, so that `Machine.step`
  leads from machines to machines;
* `Machine.State.events` is what an observer of a step is told, in order;
* `Machine.steps_step` gives the progress of a running machine. -/

namespace ThreeBit

/-- **Step report.** What one step did. -/
structure StepReport where
  /-- The emitted value, zero if there is none. -/
  output : Word := 0
  /-- What happened. -/
  flags : Flags := {}
  deriving DecidableEq, Repr, Inhabited

/-- The value emitted by the reported step. -/
def StepReport.value? (report : StepReport) : Option Word :=
  report.flags.value? report.output

/-- **State.** All that is kept of a program in execution. -/
structure Machine.State where
  /-- The program, which never changes. -/
  program : Program
  /-- The register file. -/
  registers : Registers := {}
  /-- The values emitted so far. -/
  output : Array Word := #[]
  /-- The number of instructions executed so far. -/
  steps : UInt64 := 0
  /-- Whether the instruction pointer has left the program, as far as it has been noticed. -/
  halted : Bool
  deriving DecidableEq, Repr, Inhabited

namespace Machine.State

/-- The state before the first step of a program, from any register file. -/
def new (program : Program) (registers : Registers) : State where
  program := program
  registers := registers
  halted := program.isPast registers.ip

/-- The instruction to execute next, if the state is not marked as halted. -/
def fetch (state : State) : Option Instruction :=
  if state.halted then none else state.program.fetch state.registers.ip

/-- The state after an instruction with the given effect. The halt bit is set where the effect leads
out of the program, and never cleared. -/
def apply (state : State) (transition : Transition) : State where
  program := state.program
  registers := transition.registers
  output := match transition.output with
    | some value => state.output.push value
    | none => state.output
  steps := state.steps + 1
  halted := if state.program.isPast transition.registers.ip then true else state.halted

/-- Execute one instruction. Where there is none to fetch, the state stays as it is and the halt is
reported. -/
def step (state : State) : State × StepReport :=
  match state.fetch with
  | none => (state, { flags := { halted := true } })
  | some instruction =>
    let transition := instruction.execute state.registers
    (state.apply transition,
      { output := transition.output.getD 0
        flags := {
          outputValid := transition.output.isSome
          jumped := transition.jumped
          halted := state.program.isPast transition.registers.ip } })

/-- What an observer of the next step is told: the instruction, then the value it emits, then the
halt it causes. Nothing happens in a step of a machine that has halted. -/
def events (state : State) : List Event :=
  match state.fetch with
  | none => []
  | some instruction =>
    let transition := instruction.execute state.registers
    -- the step is named by the count before it, the halt by the count after it
    let executed := Event.instruction state.steps instruction transition.registers
    let emitted := match transition.output with
      | some value => [Event.output state.output.size value]
      | none => []
    let halt := if state.program.isPast transition.registers.ip then
      [Event.halt (state.steps + 1) transition.registers] else []
    executed :: (emitted ++ halt)

/-! ### The halt bit -/

/-- A state is **coherent** when it is marked as halted exactly if its instruction pointer has left
the program. -/
abbrev Coherent (state : State) : Prop :=
  state.halted = state.program.isPast state.registers.ip

/-- An instruction is fetched only where no halt is marked. -/
theorem fetch_eq_some_iff {state : State} {instruction : Instruction} :
    state.fetch = some instruction ↔
      state.halted = false ∧ state.program.fetch state.registers.ip = some instruction := by
  unfold fetch
  cases state.halted <;> simp

/-- Stepping a state that is marked as halted changes nothing. -/
theorem step_of_halted {state : State} (hhalt : state.halted = true) :
    state.step = (state, { flags := { halted := true } }) := by
  rw [step, fetch, if_pos hhalt]

/-- Where no halt was marked before, the bit says after an instruction what the new pointer says. -/
theorem halted_apply {state : State} (hrun : state.halted = false) (transition : Transition) :
    (state.apply transition).halted = state.program.isPast transition.registers.ip := by
  rw [apply, hrun]
  cases state.program.isPast transition.registers.ip <;> rfl

/-- **A step keeps a state coherent.** An instruction is executed only where no halt was marked;
where none is executed, the bit and the pointer both stay. -/
theorem Coherent.step {state : State} (h : state.Coherent) : state.step.1.Coherent := by
  unfold State.step
  split
  · exact h
  · next instruction hfetch => exact halted_apply (fetch_eq_some_iff.1 hfetch).1 _

end Machine.State

/-- **Machine.** A program in execution, with a halt bit that can be trusted. Built from a program
and a register file alone, it is the state before the first step. -/
structure Machine extends Machine.State where
  halted := program.isPast registers.ip
  /-- The halt bit agrees with the instruction pointer. -/
  coherent : toState.Coherent := by rfl
  deriving DecidableEq, Repr

namespace Machine

instance : Inhabited Machine := ⟨{ program := default }⟩

/-- A machine at the start of its program, loaded with three register values. The words are refused
if they are no program. -/
def ofWords (words : Array Word) (a b c : Register) : Except Program.Error Machine := do
  let program ← Program.ofWords words
  return { program, registers := { a, b, c } }

/-- Execute one instruction. A machine that has halted stays as it is and reports the halt. -/
def step (machine : Machine) : Machine × StepReport :=
  let after := machine.toState.step
  (⟨after.1, machine.coherent.step⟩, after.2)

/-! ### Progress -/

/-- Machines differ in what they keep. -/
theorem eq_of_toState_eq {first second : Machine} (h : first.toState = second.toState) :
    first = second := by
  obtain ⟨state, _⟩ := first
  obtain ⟨_, _⟩ := second
  obtain rfl : state = _ := h
  rfl

/-- A machine has halted exactly when there is nothing to fetch. -/
theorem fetch_eq_none_iff_halted (machine : Machine) :
    machine.program.fetch machine.registers.ip = none ↔ machine.halted = true := by
  rw [Program.fetch_eq_none_iff, machine.coherent]

/-- Stepping a machine that has halted changes nothing. -/
theorem step_of_halted {machine : Machine} (hhalt : machine.halted = true) :
    machine.step = (machine, { flags := { halted := true } }) := by
  have hstep := State.step_of_halted hhalt
  refine Prod.ext (eq_of_toState_eq ?_) ?_
  · exact congrArg Prod.fst hstep
  · show machine.toState.step.2 = _
    rw [hstep]

/-- Every step of a running machine executes one instruction. -/
theorem steps_step {machine : Machine} (hrun : machine.halted = false) :
    machine.step.1.steps = machine.steps + 1 := by
  show machine.toState.step.1.steps = machine.steps + 1
  unfold State.step State.fetch
  rw [hrun, if_neg Bool.false_ne_true]
  split
  · next hnone =>
    rw [(fetch_eq_none_iff_halted machine).1 hnone] at hrun
    contradiction
  · rfl

end Machine

end ThreeBit
