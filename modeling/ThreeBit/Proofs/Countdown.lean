import Mathlib
import ThreeBit.Proofs.Straight

/-! # Countdown loops

A countdown loop is a straight stretch of instructions closed by a jump back to the start, in which
`A` is divided at least once by two, four or eight. What else the stretch does, to the other
registers and to `A` itself, has no part in its halting: a round takes one step for every
instruction and leaves at most half of `A`, and the loop is left when `A` is zero.

* **`Program.IsCountdown`** — the programs in question;
* **`Registers.a_executeAll_le_half`** — the body of the loop, by induction over its instructions;
* **`Machine.round`** — one round;
* **`Machine.exists_rounds`** — all rounds, by induction over the bits of `A`;
* **`Machine.countdown_halts`** — so a budget of one round for every bit of `A` is enough. -/

namespace ThreeBit

/-! ## The body of the loop -/

/-- An instruction that **divides** `A` by two, four or eight, whatever the registers hold. -/
def Instruction.Divides (instruction : Instruction) : Prop :=
  instruction.opcode = 0 ∧
    (instruction.operand = 1 ∨ instruction.operand = 2 ∨ instruction.operand = 3)

/-- Such a division leaves at most half of `A`. -/
theorem Instruction.Divides.a_execute_le_half {instruction : Instruction} (h : instruction.Divides)
    (registers : Registers) :
    (instruction.execute registers).registers.a.toNat ≤ registers.a.toNat / 2 := by
  obtain ⟨opcode, operand⟩ := instruction
  obtain ⟨rfl, hoperand⟩ := h
  rw [(prescribes_execute _ registers).a, if_pos rfl]
  rcases hoperand with rfl | rfl | rfl
  · exact le_rfl
  · exact Nat.div_le_div_left (show 2 ≤ 2 ^ 2 by norm_num) two_pos
  · exact Nat.div_le_div_left (show 2 ≤ 2 ^ 3 by norm_num) two_pos

namespace Registers

/-- No list of instructions increases `A`. -/
theorem a_executeAll_le (registers : Registers) (block : List Instruction) :
    (registers.executeAll block).a.toNat ≤ registers.a.toNat := by
  induction block generalizing registers with
  | nil => exact le_rfl
  | cons instruction block ih =>
    rw [executeAll_cons]
    refine (ih _).trans ?_
    rcases instruction.a_execute_eq_or_le_half registers with heq | hhalf
    · rw [heq]
    · omega

/-- **One division is enough**: a list of instructions with one of them leaves at most half of
`A`. -/
theorem a_executeAll_le_half (registers : Registers) {block : List Instruction}
    (h : ∃ instruction ∈ block, instruction.Divides) :
    (registers.executeAll block).a.toNat ≤ registers.a.toNat / 2 := by
  induction block generalizing registers with
  | nil => simp at h
  | cons instruction block ih =>
    rw [executeAll_cons]
    by_cases hnow : instruction.Divides
    · exact (a_executeAll_le _ block).trans (hnow.a_execute_le_half registers)
    · have hlater : ∃ other ∈ block, other.Divides := by simpa [hnow] using h
      refine (ih _ hlater).trans (Nat.div_le_div_right ?_)
      exact a_executeAll_le registers [instruction]

end Registers

/-- **Countdown loop.** A program that jumps back to its start at its end and nowhere else, and
divides `A` on the way, so it has at least two instructions. -/
structure Program.IsCountdown (program : Program) : Prop where
  /-- The last instruction jumps to the start. -/
  closed : program.instructions.getLast? = some { opcode := 3, operand := 0 }
  /-- No other instruction jumps. -/
  straight : ∀ instruction ∈ program.instructions.dropLast, instruction.opcode ≠ 3
  /-- One of the instructions divides `A`. -/
  divides : ∃ instruction ∈ program.instructions, instruction.Divides

/-- A countdown loop is its body and the jump back. -/
theorem Program.IsCountdown.exists_body {program : Program} (h : program.IsCountdown) :
    ∃ body, program.instructions = body ++ [{ opcode := 3, operand := 0 }] ∧
      (∀ instruction ∈ body, instruction.opcode ≠ 3) ∧
      ∃ instruction ∈ body, instruction.Divides := by
  have hinstructions := List.dropLast_append_getLast? _ h.closed
  obtain ⟨instruction, hmem, hdivides⟩ := h.divides
  refine ⟨program.instructions.dropLast, hinstructions.symm, h.straight, instruction, ?_, hdivides⟩
  -- the jump itself divides nothing
  rw [← hinstructions, List.mem_append, List.mem_singleton] at hmem
  refine hmem.resolve_right ?_
  rintro rfl
  exact absurd hdivides.1 (by decide)

namespace Machine

variable {machine : Machine}

/-! ## Rounds -/

/-- **The jump back** keeps `A`, and goes to the start unless `A` is zero. -/
theorem step_jump_back (hsize : machine.program.size < 2 ^ 64)
    (hfetch : machine.program.fetch machine.registers.ip = some { opcode := 3, operand := 0 }) :
    machine.step.1.registers.a = machine.registers.a ∧
      (machine.registers.a = 0 →
        machine.step.1.registers.ip.toNat = machine.registers.ip.toNat + 2) ∧
      (machine.registers.a ≠ 0 → machine.step.1.registers.ip = 0) := by
  refine ⟨?_, fun hzero => ?_, fun hne => ?_⟩
  · rw [step_of_fetch hfetch, registers_apply, Instruction.a_execute, if_neg (by decide)]
  · exact toNat_ip_step_of_a_eq_zero hsize hzero (running_of_fetch hfetch)
  · have hjumps : machine.Jumps 0 := ⟨hfetch, hne⟩
    exact UInt64.toNat_inj.mp hjumps.ip_step

/-- **A round of a countdown loop.** From the start of the program the machine runs through all of
it. That leaves at most half of `A`, and the pointer stands behind the program if `A` is zero, and
at the start again otherwise. -/
theorem round (hcountdown : machine.program.IsCountdown) (hsize : machine.program.size < 2 ^ 64)
    (hstart : machine.registers.ip = 0) :
    let length := machine.program.instructions.length
    machine.RunsFor length ∧
      (machine.after length).registers.a.toNat ≤ machine.registers.a.toNat / 2 ∧
      ((machine.after length).registers.a = 0 →
        (machine.after length).registers.ip.toNat = machine.program.size) ∧
      ((machine.after length).registers.a ≠ 0 → (machine.after length).registers.ip = 0) := by
  intro length
  obtain ⟨body, hbody, hstraight, hdivides⟩ := hcountdown.exists_body
  have hlength : length = body.length + 1 := by simp [length, hbody]
  have hwords : 2 * length = machine.program.size := machine.program.two_mul_length_instructions
  obtain ⟨hruns, hafter, hip⟩ :=
    after_straight_start hsize hstart (hbody ▸ List.prefix_append _ _) hstraight
  rw [hlength, after_succ]
  -- the state before the jump back
  set last := machine.after body.length
  have hprogram : last.program = machine.program := program_after machine body.length
  have hfetch : last.program.fetch last.registers.ip = some { opcode := 3, operand := 0 } := by
    rw [Program.fetch_of_even _ (by omega), hip, hprogram, hbody]
    simp
  have hhalf : last.registers.a.toNat ≤ machine.registers.a.toNat / 2 := by
    rw [hafter, registers_applyAll]
    exact machine.registers.a_executeAll_le_half hdivides
  obtain ⟨ha, hleave, hagain⟩ := step_jump_back (by rwa [hprogram]) hfetch
  rw [ha]
  refine ⟨runsFor_succ_iff.mpr ⟨hruns, running_of_fetch hfetch⟩, hhalf, fun hzero => ?_, hagain⟩
  rw [hleave hzero, hip]
  omega

/-- **All rounds of a countdown loop.** The loop is left after at most one round for every bit of
`A`, and after one round if `A` is zero from the start. -/
theorem exists_rounds (hcountdown : machine.program.IsCountdown)
    (hsize : machine.program.size < 2 ^ 64) (hstart : machine.registers.ip = 0) :
    ∃ rounds ≤ max 1 machine.registers.a.toNat.size,
      let final := machine.after (rounds * machine.program.instructions.length)
      machine.HaltsAt (rounds * machine.program.instructions.length) ∧
        final.registers.a = 0 ∧ final.registers.ip.toNat = machine.program.size := by
  induction hbits : machine.registers.a.toNat.size using Nat.strong_induction_on
    generalizing machine with
  | _ bits ih =>
    obtain ⟨hruns, hhalf, hleave, hagain⟩ := round hcountdown hsize hstart
    set next := machine.after machine.program.instructions.length
    have hprogram : next.program = machine.program := program_after machine _
    by_cases hzero : next.registers.a = 0
    · refine ⟨1, le_max_left _ _, ?_⟩
      rw [Nat.one_mul]
      refine ⟨⟨hruns, ?_⟩, hzero, hleave hzero⟩
      rw [halted_iff, program_after, hleave hzero]
    · -- what is left of `A` has fewer bits, but at least one
      have hpos : 0 < next.registers.a.toNat := by
        rw [Nat.pos_iff_ne_zero]
        exact fun hnat => hzero (UInt64.toNat_inj.mp hnat)
      have hfewer : next.registers.a.toNat.size < bits := by
        rw [← hbits]
        exact size_lt_of_le_half hhalf (by omega)
      obtain ⟨rounds, hle, hhalts, ha, hip⟩ :=
        ih _ hfewer (by rwa [hprogram]) (by rwa [hprogram]) (hagain hzero) rfl
      rw [hprogram] at hhalts ha hip
      rw [max_eq_right (Nat.size_pos.mpr hpos)] at hle
      refine ⟨1 + rounds, (by omega : _ ≤ bits).trans (le_max_right _ _), ?_⟩
      rw [Nat.add_mul, Nat.one_mul]
      refine ⟨hruns.haltsAt_add hhalts, ?_⟩
      rw [after_add]
      exact ⟨ha, hip⟩

/-- **Countdown loops halt within a budget.** Load a countdown loop, of fewer than `2 ^ 58`
instructions, with any three values. A run limited to one round for every bit of `A`, or to one
round if `A` is zero, has an outcome: `A` is zero, the pointer stands directly behind the program,
and the number of steps is a whole number of rounds. As `A` has at most 64 bits, the limit of 64
rounds gives the same outcome for all values. -/
theorem countdown_halts (program : Program) (hcountdown : program.IsCountdown)
    (hlength : program.instructions.length < 2 ^ 58) (a b c : Register) :
    let length := program.instructions.length
    ∃ machine outcome, ofWords program.words a b c = .ok machine ∧
      machine.runWithLimit (UInt64.ofNat (max 1 a.toNat.size * length)) = .ok outcome ∧
      outcome.registers.a = 0 ∧ outcome.registers.ip.toNat = program.size ∧
      length ∣ outcome.steps.toNat ∧
      machine.runWithLimit (UInt64.ofNat (64 * length)) = .ok outcome := by
  intro length
  have hwords := program.two_mul_length_instructions
  let machine : Machine := { program, registers := { a, b, c } }
  obtain ⟨rounds, hrounds, hhalts, ha, hip⟩ : ∃ rounds ≤ max 1 a.toNat.size,
      machine.HaltsAt (rounds * length) ∧ (machine.after (rounds * length)).registers.a = 0 ∧
        (machine.after (rounds * length)).registers.ip.toNat = program.size :=
    @exists_rounds machine hcountdown (show program.size < 2 ^ 64 by omega) rfl
  have hbits : max 1 a.toNat.size ≤ 64 := max_le (by norm_num) (Nat.size_le.mpr a.toNat_lt)
  -- no budget of up to 64 rounds is too large for a limit, and none of these rounds or more is
  -- too small
  have hbudget : ∀ budget ≤ 64, rounds ≤ budget →
      machine.runWithLimit (UInt64.ofNat (budget * length))
        = .ok (machine.after (rounds * length)).outcome := by
    intro budget hle hroom
    have hlimit : budget * length ≤ 64 * length := Nat.mul_le_mul_right length hle
    have hsteps : rounds * length ≤ budget * length := Nat.mul_le_mul_right length hroom
    rw [hhalts.runWithLimit_eq, if_pos]
    rw [UInt64.toNat_ofNat_of_lt' (by show _ < 2 ^ 64; omega)]
    exact Or.inr ((Nat.zero_add _).trans_le hsteps)
  have hcounted : (machine.after (rounds * length)).steps.toNat = rounds * length := by
    have hsteps : rounds * length ≤ 64 * length := Nat.mul_le_mul_right length (hrounds.trans hbits)
    have hzero : machine.steps.toNat = 0 := rfl
    rw [toNat_steps_after hhalts.1 (by omega), hzero, Nat.zero_add]
  refine ⟨machine, _, ofWords_program program a b c, hbudget _ hbits hrounds, ha, hip, ?_,
    hbudget 64 le_rfl (hrounds.trans hbits)⟩
  show length ∣ (machine.after (rounds * length)).steps.toNat
  rw [hcounted]
  exact Nat.dvd_mul_left length rounds

/-- A loop of seven instructions that shifts `C` by what is in `B`, rewrites both on every round,
and takes three bits of `A` at a time: for a number of seven bits, 49 steps are enough. -/
theorem countdown_halts_three_bits :
    let program : Program := ⟨#[2, 4, 1, 5, 7, 5, 0, 3, 4, 1, 5, 5, 3, 0], rfl⟩
    program.IsCountdown ∧ program.instructions.length < 2 ^ 58 ∧
      ∃ machine outcome, ofWords program.words 100 0 0 = .ok machine ∧
        machine.runWithLimit 49 = .ok outcome ∧ outcome.registers.a = 0 ∧
        outcome.registers.ip.toNat = 14 ∧ 7 ∣ outcome.steps.toNat := by
  intro program
  have hcountdown : program.IsCountdown :=
    ⟨by decide, by decide, { opcode := 0, operand := 3 }, by decide, rfl, Or.inr (Or.inr rfl)⟩
  have hlength : program.instructions.length < 2 ^ 58 := by decide
  have hbits : (100 : Register).toNat.size = 7 :=
    le_antisymm (Nat.size_le.mpr (by decide)) (Nat.lt_size.mpr (by decide))
  obtain ⟨machine, outcome, hload, hrun, ha, hip, hsteps, -⟩ :=
    countdown_halts program hcountdown hlength 100 0 0
  rw [hbits] at hrun
  exact ⟨hcountdown, hlength, machine, outcome, hload, hrun, ha, hip, hsteps⟩

end Machine

end ThreeBit
