import Mathlib
import ThreeBit.Proofs.Alignment

/-! # Straight stretches

A stretch of a program in which no instruction jumps is executed in one go: the machine comes out
behind it after one step for every instruction, and what it does on the way is the fold of these
steps over the list of instructions. Neither the pointer nor the fetch has a part in that fold.

* **`Registers.executeAll`** and **`Registers.effects`** — the register file that a list of
  instructions leaves, and the effects of each of them;
* **`Machine.applyAll`** — the same for a machine, with its output stream
  (`Machine.registers_applyAll`, `Machine.output_applyAll`);
* **`Machine.after_straight`** — a straight stretch ahead of the pointer is executed as that fold;
* **`Machine.straight_run`** — so a program without jumps is the fold of its instructions. -/

namespace ThreeBit

/-- An instruction that is no jump takes none. -/
theorem Instruction.jumped_execute_of_ne {instruction : Instruction} (h : instruction.opcode ≠ 3)
    (registers : Registers) : (instruction.execute registers).jumped = false := by
  rw [← Bool.not_eq_true, jumped_execute_iff, operation_eq_iff (by simp)]
  exact fun hjump => h hjump.1

/-! ## Lists of instructions -/

namespace Registers

/-- The register file that a list of instructions **leaves**, executed one after the other. -/
def executeAll (registers : Registers) (block : List Instruction) : Registers :=
  block.foldl (fun registers instruction => (instruction.execute registers).registers) registers

@[simp] theorem executeAll_nil (registers : Registers) : registers.executeAll [] = registers := rfl

@[simp] theorem executeAll_cons (registers : Registers) (instruction : Instruction)
    (block : List Instruction) :
    registers.executeAll (instruction :: block)
      = (instruction.execute registers).registers.executeAll block := rfl

/-- The **effects** of a list of instructions, each on the register file that those before it
leave. -/
def effects : Registers → List Instruction → List Transition
  | _, [] => []
  | registers, instruction :: block =>
    instruction.execute registers :: effects (instruction.execute registers).registers block

@[simp] theorem effects_nil (registers : Registers) : registers.effects [] = [] := rfl

@[simp] theorem effects_cons (registers : Registers) (instruction : Instruction)
    (block : List Instruction) :
    registers.effects (instruction :: block) =
      instruction.execute registers ::
        (instruction.execute registers).registers.effects block := rfl

/-- **Every emission belongs to an `out`**, and every `out` has one. -/
theorem forall₂_effects (registers : Registers) (block : List Instruction) :
    List.Forall₂ (fun instruction effect => effect.output.isSome = true ↔ instruction.opcode = 5)
      block (registers.effects block) := by
  induction block generalizing registers with
  | nil => exact .nil
  | cons instruction block ih =>
    refine .cons ?_ (ih _)
    rw [Instruction.output_execute]
    have hword : instruction.operation = .out ↔ instruction.opcode = 5 :=
      Instruction.operation_eq_iff (by simp)
    by_cases hout : instruction.operation = .out <;> simp [hout, ← hword]

end Registers

namespace Machine

variable {machine : Machine} {block : List Instruction}

/-- The machine after a list of instructions, executed **one after the other** whatever its program
holds. -/
def applyAll (machine : Machine) (block : List Instruction) : Machine :=
  block.foldl
    (fun machine instruction => machine.apply (instruction.execute machine.registers)) machine

@[simp] theorem applyAll_nil (machine : Machine) : machine.applyAll [] = machine := rfl

@[simp] theorem applyAll_cons (machine : Machine) (instruction : Instruction)
    (block : List Instruction) :
    machine.applyAll (instruction :: block)
      = (machine.apply (instruction.execute machine.registers)).applyAll block := rfl

/-- The registers are those that the list leaves. -/
theorem registers_applyAll (machine : Machine) (block : List Instruction) :
    (machine.applyAll block).registers = machine.registers.executeAll block := by
  induction block generalizing machine with
  | nil => rfl
  | cons instruction block ih =>
    rw [applyAll_cons, ih]
    rfl

/-- The words emitted by the list come behind those emitted before. -/
theorem output_applyAll (machine : Machine) (block : List Instruction) :
    (machine.applyAll block).output.toList
      = machine.output.toList ++ (machine.registers.effects block).filterMap Transition.output := by
  induction block generalizing machine with
  | nil => simp
  | cons instruction block ih =>
    rw [applyAll_cons, ih, Registers.effects_cons]
    rw [output_apply, registers_apply]
    cases hout : (instruction.execute machine.registers).output <;> simp [hout]

/-! ## Straight stretches of a program -/

/-- **A straight stretch ahead is executed in one go.** The list goes through the instructions from
the pointer on. The machine runs for one step on each of them, these steps are the fold over the
list, and the pointer comes out behind it. -/
theorem after_straight (hsize : machine.program.size < 2 ^ 64)
    (heven : machine.registers.ip.toNat % 2 = 0)
    (hahead : block <+: machine.program.instructions.drop (machine.registers.ip.toNat / 2))
    (hstraight : ∀ instruction ∈ block, instruction.opcode ≠ 3) :
    machine.RunsFor block.length ∧ machine.after block.length = machine.applyAll block ∧
      (machine.after block.length).registers.ip.toNat
        = machine.registers.ip.toNat + 2 * block.length := by
  induction block generalizing machine with
  | nil => exact ⟨fun _ hlt => absurd hlt (Nat.not_lt_zero _), rfl, rfl⟩
  | cons instruction block ih =>
    obtain ⟨rest, hrest⟩ := hahead
    have hfetch : machine.program.fetch machine.registers.ip = some instruction := by
      rw [Program.fetch_of_even _ heven, ← Nat.add_zero (_ / 2), ← List.getElem?_drop, ← hrest]
      rfl
    have hrun : machine.halted = false := running_of_fetch hfetch
    have hstep : machine.step.1 = machine.apply (instruction.execute machine.registers) := by
      rw [step_of_fetch hfetch]
    have hjump : machine.step.2.flags.jumped = false := by
      rw [step_of_fetch hfetch]
      exact Instruction.jumped_execute_of_ne (hstraight instruction (by simp)) _
    have hip := toNat_ip_step_of_not_jumped hsize hrun hjump
    -- the rest of the list goes through the instructions from the next pointer on
    have hnext : block <+: machine.step.1.program.instructions.drop
        (machine.step.1.registers.ip.toNat / 2) := by
      refine ⟨rest, ?_⟩
      rw [program_step, hip, Nat.add_div_right _ two_pos, ← List.tail_drop, ← hrest]
      rfl
    obtain ⟨hruns, hafter, hend⟩ := ih (by rwa [program_step]) (by omega) hnext
      fun other hmem => hstraight other (by simp [hmem])
    rw [List.length_cons, after_succ_step]
    refine ⟨runsFor_succ_step hrun hruns, by rw [hafter, hstep, applyAll_cons], ?_⟩
    rw [hend, hip]
    omega

/-- A straight stretch at the start of a program. -/
theorem after_straight_start (hsize : machine.program.size < 2 ^ 64)
    (hstart : machine.registers.ip = 0) (hahead : block <+: machine.program.instructions)
    (hstraight : ∀ instruction ∈ block, instruction.opcode ≠ 3) :
    machine.RunsFor block.length ∧ machine.after block.length = machine.applyAll block ∧
      (machine.after block.length).registers.ip.toNat = 2 * block.length := by
  have hzero : machine.registers.ip.toNat = 0 := by rw [hstart, UInt64.toNat_zero]
  have hstretch := after_straight hsize (by rw [hzero]) (by rwa [hzero]) hstraight
  rwa [hzero, Nat.zero_add] at hstretch

/-! ## Programs without jumps -/

/-- **A program without jumps is the fold of its instructions.** Loaded with any three values, it
halts after exactly one step for every two words, behind its last word, with the register file that
its instructions leave when they are folded over the initial one. Its output is what is emitted
along that fold, in order, one word by every `out` and none by anything else. A bounded run gives
this outcome if its limit allows that many steps, and fails otherwise. The program is no larger than
its pointer can tell. -/
theorem straight_run (program : Program) (hsize : program.size < 2 ^ 64)
    (hstraight : ∀ instruction ∈ program.instructions, instruction.opcode ≠ 3) (a b c : Register) :
    let start : Registers := { a, b, c }
    let machine : Machine := { program, registers := start }
    let effects := start.effects program.instructions
    ∃ outcome,
      machine.HaltsAt (program.size / 2) ∧ machine.run = some outcome ∧
      outcome.steps.toNat = program.size / 2 ∧ outcome.registers.ip.toNat = program.size ∧
      outcome.registers = program.instructions.foldl
        (fun registers instruction => (instruction.execute registers).registers) start ∧
      outcome.outputs.toList = effects.filterMap Transition.output ∧
      List.Forall₂ (fun instruction effect => effect.output.isSome = true ↔ instruction.opcode = 5)
        program.instructions effects ∧
      ∀ limit, machine.runWithLimit limit =
        if program.size / 2 ≤ limit.toNat then .ok outcome
        else .error (.stepLimitExceeded limit) := by
  intro start machine effects
  have hwords := program.two_mul_length_instructions
  have hlength : program.size / 2 = program.instructions.length := by omega
  obtain ⟨hruns, hafter, hend⟩ :=
    @after_straight_start machine program.instructions hsize rfl List.prefix_rfl hstraight
  rw [← hlength] at hruns hafter hend
  have hip : (machine.after (program.size / 2)).registers.ip.toNat = program.size := by omega
  have hhalts : machine.HaltsAt (program.size / 2) := by
    refine ⟨hruns, ?_⟩
    rw [halted_iff, program_after, hip]
  have hcounted : machine.steps.toNat + program.size / 2 = program.size / 2 := Nat.zero_add _
  refine ⟨(machine.after (program.size / 2)).outcome, hhalts, ?_, ?_, hip, ?_, ?_, ?_, ?_⟩
  · have hlast : lastStep.toNat = 2 ^ 64 - 1 := rfl
    exact run_eq_some_iff.mpr ⟨program.size / 2, ⟨hhalts, Or.inr (by omega)⟩, rfl⟩
  · exact (toNat_steps_after hruns (by omega)).trans hcounted
  · show (machine.after (program.size / 2)).registers = _
    rw [hafter, registers_applyAll]
    rfl
  · show (machine.after (program.size / 2)).output.toList = _
    rw [hafter, output_applyAll]
    rfl
  · exact start.forall₂_effects program.instructions
  · intro limit
    rw [hhalts.runWithLimit_eq, hcounted]
    exact if_congr ⟨fun h => by omega, Or.inr⟩ rfl rfl

/-- Three instructions with a three as an operand and none as an operation: a division by eight, an
emission and a word that selects no operation. Three steps are enough, and two are not. -/
theorem straight_run_operand_three :
    let program : Program := ⟨#[0, 3, 5, 4, 9, 3], rfl⟩
    let machine : Machine := { program, registers := { a := 729, b := 0, c := 0 } }
    program.size < 2 ^ 64 ∧ (∀ instruction ∈ program.instructions, instruction.opcode ≠ 3) ∧
      machine.HaltsAt 3 ∧ machine.runWithLimit 2 = .error (.stepLimitExceeded 2) ∧
      ∃ outcome, machine.runWithLimit 3 = .ok outcome ∧
        outcome.registers = { a := 91, ip := 6 } ∧ outcome.outputs.toList = [3] := by
  intro program machine
  have hsize : program.size < 2 ^ 64 := by decide
  have hstraight : ∀ instruction ∈ program.instructions, instruction.opcode ≠ 3 := by decide
  have hcount : program.size / 2 = 3 := by decide
  obtain ⟨outcome, hhalts, -, -, -, hregisters, houtputs, -, hlimit⟩ :=
    straight_run program hsize hstraight 729 0 0
  rw [hcount] at hhalts hlimit
  refine ⟨hsize, hstraight, hhalts, (hlimit 2).trans (if_neg (by decide)), outcome,
    (hlimit 3).trans (if_pos (by decide)), ?_, ?_⟩
  · rw [hregisters]
    decide
  · rw [houtputs]
    decide

end Machine

end ThreeBit
