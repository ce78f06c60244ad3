import Mathlib
import ThreeBit.Proofs.Halting
import ThreeBit.Proofs.Transitions

/-! # The invariant of a machine in use

A state that is built over any program and any register file, and then stepped, keeps an invariant:
the halt bit agrees with the pointer, what was emitted and counted fits together, and the pointer
stays in bounds (`Machine.State.Invariant`). The bit is what a step reads, so it is by the invariant
that a step which finds the bit clear has an instruction to execute, exactly one, and that the
report says what it did (`Machine.State.Executes`). Where the bit is set, a step does nothing.

* **`Machine.State.Coherent.exists_executes`** — a running state makes progress;
* **`Machine.State.Invariant.step`**, **`Machine.State.invariant_after`** — the invariant is kept by
  a step, and so by any number of steps;
* **`Machine.State.reachable_sound`** — both, for every state that can be reached. -/

namespace ThreeBit

namespace Machine

variable {machine : Machine}

/-! ## One step -/

/-- The halt, in numbers. -/
theorem halted_iff : machine.halted = true ↔ machine.program.size ≤ machine.registers.ip.toNat := by
  rw [machine.coherent, Program.isPast, decide_eq_true_iff]

/-- A running machine has its pointer within the program. -/
theorem ip_lt_size (hrun : machine.halted = false) :
    machine.registers.ip.toNat < machine.program.size := by
  rw [← Bool.not_eq_true, halted_iff] at hrun
  omega

/-- Below a limit, a step of a running machine is counted exactly. -/
theorem toNat_steps_step {limit : UInt64} (hrun : machine.halted = false)
    (hbelow : machine.steps < limit) :
    machine.step.1.steps.toNat = machine.steps.toNat + 1 := by
  rw [steps_step hrun, toNat_add_one_of_lt hbelow]

/-- The value reported of a step is the one emitted by the instruction. -/
theorem value_step_of_fetch {instruction : Instruction}
    (hfetch : machine.program.fetch machine.registers.ip = some instruction) :
    machine.step.2.value? = (instruction.execute machine.registers).output := by
  rw [step_of_fetch hfetch, StepReport.value?, Flags.value?]
  cases (instruction.execute machine.registers).output <;> rfl

/-- No value is reported after the halt. -/
theorem value_step_of_halted (hhalt : machine.halted = true) : machine.step.2.value? = none := by
  rw [step_of_halted hhalt]
  rfl

/-- A reported value has three bits. -/
theorem value_step_le {value : Word} (h : machine.step.2.value? = some value) :
    value.toNat ≤ 7 := by
  cases hhalt : machine.halted with
  | true =>
    rw [value_step_of_halted hhalt] at h
    contradiction
  | false =>
    obtain ⟨instruction, hfetch⟩ := exists_fetch_of_running hhalt
    rw [value_step_of_fetch hfetch] at h
    exact Instruction.output_execute_le h

/-- **The pointer after a step** lies at most one word past the end, or where a word can point
to. -/
theorem ip_step_le (hrun : machine.halted = false) :
    machine.step.1.registers.ip.toNat ≤ max (machine.program.size + 1) 255 := by
  obtain ⟨instruction, hfetch⟩ := exists_fetch_of_running hrun
  have hip := ip_lt_size hrun
  rw [step_of_fetch hfetch]
  show (instruction.execute machine.registers).registers.ip.toNat ≤ _
  cases hjump : (instruction.execute machine.registers).jumped with
  | true =>
    have hword := instruction.operand.toNat_lt
    rw [Instruction.ip_execute_of_jumped hjump, UInt8.toNat_toUInt64]
    omega
  | false =>
    rw [Instruction.ip_execute_of_not_jumped hjump, Registers.toNat_ip_advance]
    omega

/-- **Without a jump the pointer moves by exactly two.** There is an even number of words, so the
last offset is free for a pointer that moves past the end. -/
theorem toNat_ip_step_of_not_jumped (hsize : machine.program.size < 2 ^ 64)
    (hrun : machine.halted = false) (hjump : machine.step.2.flags.jumped = false) :
    machine.step.1.registers.ip.toNat = machine.registers.ip.toNat + 2 := by
  obtain ⟨instruction, hfetch⟩ := exists_fetch_of_running hrun
  have hip := ip_lt_size hrun
  have heven : machine.program.size % 2 = 0 := machine.program.even_size
  rw [step_of_fetch hfetch] at hjump ⊢
  show (instruction.execute machine.registers).registers.ip.toNat = _
  rw [Instruction.ip_execute_of_not_jumped hjump, Registers.toNat_ip_advance_of_lt (by omega)]

/-! ## States -/

namespace State

variable {start state : State}

/-- The halt bit of a coherent state, in numbers. -/
theorem coherent_iff :
    state.Coherent ↔
      (state.halted = true ↔ state.program.size ≤ state.registers.ip.toNat) := by
  rw [Coherent, Bool.eq_iff_iff, Program.isPast, decide_eq_true_iff]

/-- Coherent states are those of machines. -/
theorem Coherent.exists_machine (h : state.Coherent) :
    ∃ machine : Machine, machine.toState = state :=
  ⟨⟨state, h⟩, rfl⟩

/-- **Executing an instruction.** What a step of a running state does and reports. -/
structure Executes (before : State) (instruction : Instruction) : Prop where
  /-- The instruction is the one at the pointer. -/
  fetched : before.program.fetch before.registers.ip = some instruction
  /-- It is counted. -/
  steps : before.step.1.steps.toNat = before.steps.toNat + 1
  /-- The register file is the one that it leaves. -/
  registers : before.step.1.registers = (instruction.execute before.registers).registers
  /-- Unless it jumps, the pointer moves by exactly two. -/
  ip : before.step.2.flags.jumped = false →
    before.step.1.registers.ip.toNat = before.registers.ip.toNat + 2
  /-- The value that it emits is reported. -/
  value : before.step.2.value? = (instruction.execute before.registers).output
  /-- A reported value is appended to the output stream. -/
  emitted : before.step.2.flags.outputValid = true →
    before.step.1.output = before.output.push before.step.2.output
  /-- Where none is reported, the stream stays as it is. -/
  silent : before.step.2.flags.outputValid = false → before.step.1.output = before.output
  /-- A jump is reported exactly if one is taken. -/
  jumped : before.step.2.flags.jumped = true ↔
    instruction.operation = .jnz ∧ before.registers.a ≠ 0
  /-- The halt is reported exactly if the halt bit is set after the step. -/
  halted : before.step.2.flags.halted = true ↔ before.step.1.halted = true

/-- **Progress.** A coherent state whose halt bit is clear executes an instruction, as long as its
program is no larger than programs can be and its counter is below its last step. -/
theorem Coherent.exists_executes (h : state.Coherent) (hrun : state.halted = false)
    (hsize : state.program.size < 2 ^ 63) (hsteps : state.steps < lastStep) :
    ∃ instruction, state.Executes instruction := by
  obtain ⟨machine, rfl⟩ := h.exists_machine
  obtain ⟨instruction, hfetch⟩ := exists_fetch_of_running hrun
  have hstep := step_of_fetch hfetch
  refine ⟨instruction, ?_⟩
  constructor
  case fetched => exact hfetch
  case steps => exact toNat_steps_step hrun hsteps
  case registers =>
    show machine.step.1.registers = _
    rw [hstep]
    rfl
  case ip => exact toNat_ip_step_of_not_jumped (by omega) hrun
  case value => exact value_step_of_fetch hfetch
  case emitted =>
    show machine.step.2.flags.outputValid = true →
      machine.step.1.output = machine.output.push machine.step.2.output
    rw [hstep]
    intro hvalid
    obtain ⟨value, hvalue⟩ := Option.isSome_iff_exists.mp hvalid
    simp only [Machine.apply, State.apply, hvalue, Option.getD_some]
  case silent =>
    show machine.step.2.flags.outputValid = false → machine.step.1.output = machine.output
    rw [hstep]
    intro hvalid
    have hnone : (instruction.execute machine.registers).output = none :=
      Option.isSome_eq_false_iff.mp hvalid |> Option.isNone_iff_eq_none.mp
    simp only [Machine.apply, State.apply, hnone]
  case jumped =>
    show machine.step.2.flags.jumped = true ↔ _
    rw [hstep]
    exact Instruction.jumped_execute_iff
  case halted =>
    show machine.step.2.flags.halted = true ↔ machine.step.1.halted = true
    rw [halted_step]

/-! ## The invariant -/

/-- **The invariant** of the states that are reached from a start. -/
structure Invariant (start state : State) : Prop where
  /-- The program is that of the start. -/
  program : state.program = start.program
  /-- The halt bit is set exactly if the pointer has left the program. -/
  halted : state.halted = true ↔ start.program.size ≤ state.registers.ip.toNat
  /-- Every emitted word has three bits. -/
  output_le : ∀ word ∈ state.output, word.toNat ≤ 7
  /-- No more words are emitted than instructions executed. -/
  output_size : state.output.size ≤ state.steps.toNat
  /-- The pointer is where it was at the start, or at most one word past the end, or where a word
  can point to. -/
  ip_le : state.registers.ip.toNat ≤
    max start.registers.ip.toNat (max (start.program.size + 1) 255)

/-- The halt bit can be trusted. -/
theorem Invariant.coherent (h : Invariant start state) : state.Coherent := by
  rw [coherent_iff, h.program]
  exact h.halted

/-- A state that has just been built satisfies the invariant, wherever its pointer stands. -/
theorem invariant_new (program : Program) (registers : Registers) :
    Invariant (new program registers) (new program registers) where
  program := rfl
  halted := coherent_iff.mp rfl
  output_le := by simp [new]
  output_size := Nat.zero_le _
  ip_le := le_max_left _ _

/-- **A step keeps the invariant**, below the last step that can be counted. -/
theorem Invariant.step (h : Invariant start state)
    (hsteps : state.halted = false → state.steps < lastStep) :
    Invariant start state.step.1 := by
  cases hhalt : state.halted with
  | true =>
    rw [State.step_of_halted hhalt]
    exact h
  | false =>
    obtain ⟨machine, rfl⟩ := h.coherent.exists_machine
    have hprogram : machine.step.1.program = start.program := (program_step machine).trans h.program
    have hcounted := toNat_steps_step hhalt (hsteps hhalt)
    have hstream := output_step hhalt
    constructor
    case program => exact hprogram
    case halted =>
      -- the step has written the bit anew, by the pointer that it leaves
      rw [← hprogram]
      exact coherent_iff.mp h.coherent.step
    case output_le =>
      -- a word of the longer stream was there before, or is the one reported now
      intro word hmem
      replace hmem : word ∈ machine.step.1.output := hmem
      rw [← Array.mem_toList_iff, hstream, List.mem_append, Array.mem_toList_iff,
        Option.mem_toList] at hmem
      rcases hmem with hbefore | hnow
      · exact h.output_le word hbefore
      · exact value_step_le hnow
    case output_size =>
      have hone : machine.step.2.value?.toList.length ≤ 1 := Option.length_toList_le
      have hsize := h.output_size
      show machine.step.1.output.size ≤ machine.step.1.steps.toNat
      rw [← Array.length_toList, hstream, List.length_append, hcounted, Array.length_toList]
      omega
    case ip_le =>
      have hip := ip_step_le hhalt
      rw [h.program] at hip
      exact le_trans hip (le_max_right _ _)

/-! ## Whole runs -/

/-- The state **after** a number of steps. -/
def after (state : State) (count : ℕ) : State :=
  (fun state => state.step.1)^[count] state

/-- The last step read off `after`. -/
theorem after_succ (state : State) (count : ℕ) :
    state.after (count + 1) = (state.after count).step.1 :=
  Function.iterate_succ_apply' _ _ _

/-- The states of a machine after a number of steps. -/
theorem toState_after (machine : Machine) (count : ℕ) :
    (machine.after count).toState = machine.toState.after count := by
  induction count with
  | zero => rfl
  | succ count ih =>
    rw [Machine.after_succ, after_succ, ← ih]
    rfl

/-- The number of instructions **executed** in a number of steps: a step counts if the halt bit is
clear before it. -/
def executed (state : State) (count : ℕ) : ℕ :=
  Nat.count (fun earlier => (state.after earlier).halted = false) count

theorem executed_succ (state : State) (count : ℕ) :
    state.executed (count + 1) =
      state.executed count + if (state.after count).halted = false then 1 else 0 :=
  Nat.count_succ _ _

/-- The counter of a machine counts what is executed. -/
theorem steps_after_eq_executed (machine : Machine) (count : ℕ) :
    (machine.after count).steps = machine.steps + UInt64.ofNat (machine.executed count) := by
  induction count with
  | zero => exact (UInt64.add_zero machine.steps).symm
  | succ count ih =>
    rw [Machine.after_succ, executed_succ, ← toState_after]
    cases hhalt : (machine.after count).halted with
    | true =>
      rw [Machine.step_of_halted hhalt, ih]
      rfl
    | false =>
      rw [steps_step hhalt, ih, if_pos rfl, UInt64.ofNat_add, UInt64.add_assoc]
      rfl

/-- A state that has just been built counts exactly, up to the last step that can be counted. -/
theorem toNat_steps_eq_executed {program : Program} {registers : Registers} {count : ℕ}
    (h : (new program registers).executed count < 2 ^ 64) :
    ((new program registers).after count).steps.toNat = (new program registers).executed count := by
  have hsteps : ((new program registers).after count).steps
      = 0 + UInt64.ofNat ((new program registers).executed count) := by
    have hmachine := steps_after_eq_executed { program, registers } count
    rwa [toState_after] at hmachine
  rw [hsteps, UInt64.zero_add, UInt64.toNat_ofNat_of_lt' h]

/-- **Every reachable state satisfies the invariant.** -/
theorem invariant_after {program : Program} {registers : Registers} {count : ℕ}
    (h : (new program registers).executed count < 2 ^ 64 - 1) :
    Invariant (new program registers) ((new program registers).after count) := by
  induction count with
  | zero => exact invariant_new program registers
  | succ count ih =>
    rw [executed_succ] at h
    have hbefore : (new program registers).executed count < 2 ^ 64 - 1 := by omega
    rw [after_succ]
    refine (ih hbefore).step fun _ => UInt64.lt_iff_toNat_lt.mpr ?_
    rw [toNat_steps_eq_executed (by omega)]
    exact hbefore

/-- **The halt is remembered.** A machine has halted exactly if it was built so, or if one of its
steps has reported the halt. -/
theorem halted_after_iff (machine : Machine) (count : ℕ) :
    (machine.after count).halted = true ↔
      machine.halted = true ∨
        ∃ earlier < count, (machine.after earlier).step.2.flags.halted = true := by
  constructor
  · intro hhalt
    cases count with
    | zero => exact Or.inl hhalt
    | succ count =>
      refine Or.inr ⟨count, Nat.lt_succ_self count, ?_⟩
      rwa [halted_step, ← Machine.after_succ]
  · -- nothing changes once there is a halted state
    have hstays : ∀ first ≤ count, (machine.after first).halted = true →
        (machine.after count).halted = true := by
      intro first hle hhalt
      obtain ⟨more, rfl⟩ := Nat.exists_eq_add_of_le hle
      rwa [after_add, after_of_halted hhalt]
    rintro (hhalt | ⟨earlier, hlt, hreport⟩)
    · exact hstays 0 (Nat.zero_le count) hhalt
    · rw [halted_step, ← Machine.after_succ] at hreport
      exact hstays (earlier + 1) hlt hreport

/-- **Soundness of reachable states.** Build a state over any program and any register file, and
step it any number of times, of which fewer execute an instruction than can be counted. The state
satisfies the invariant, its halt bit is set by the halt that was reported, and its counter is
exact. If the bit is clear, the next step executes the instruction at the pointer; if it is set, the
next step changes nothing and reports the halt. -/
theorem reachable_sound (program : Program) (registers : Registers) (count : ℕ)
    (hsize : program.size < 2 ^ 63)
    (hcount : (new program registers).executed count < 2 ^ 64 - 1) :
    let start := new program registers
    let state := start.after count
    Invariant start state ∧
      (state.halted = true ↔
        start.halted = true ∨
          ∃ earlier < count, (start.after earlier).step.2.flags.halted = true) ∧
      state.steps.toNat = start.executed count ∧
      (state.halted = false → ∃ instruction, state.Executes instruction) ∧
      (state.halted = true →
        state.step = (state, { output := 0, flags := { halted := true } })) := by
  intro start state
  have hinvariant : Invariant start state := invariant_after hcount
  have hsteps : state.steps.toNat = start.executed count := toNat_steps_eq_executed (by omega)
  have hremembered := halted_after_iff { program, registers } count
  simp only [Machine.step, toState_after] at hremembered
  refine ⟨hinvariant, hremembered, hsteps, fun hrun => ?_, State.step_of_halted⟩
  refine hinvariant.coherent.exists_executes hrun ?_ (UInt64.lt_iff_toNat_lt.mpr ?_)
  · rw [hinvariant.program]
    exact hsize
  · rw [hsteps]
    exact hcount

/-- A jump to an odd offset and an emission there: the pointer then stands on the last word of the
program, the halt bit is clear, and there still is an instruction to execute. -/
theorem reachable_sound_last_word :
    let start := new ⟨#[3, 3, 0, 5, 4, 0], rfl⟩ { a := 6 }
    start.executed 2 < 2 ^ 64 - 1 ∧ (start.after 2).registers.ip = 5 ∧
      (start.after 2).halted = false ∧ Invariant start (start.after 2) ∧
      ∃ instruction, (start.after 2).Executes instruction := by
  intro start
  have hcount : start.executed 2 < 2 ^ 64 - 1 := by decide
  have hsound := reachable_sound ⟨#[3, 3, 0, 5, 4, 0], rfl⟩ { a := 6 } 2 (by decide) hcount
  exact ⟨hcount, by decide, by decide, hsound.1, hsound.2.2.2.1 (by decide)⟩

end State

end Machine

end ThreeBit
