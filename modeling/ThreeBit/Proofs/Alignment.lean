import Mathlib
import ThreeBit.Proofs.Table

/-! # Alignment

The instructions of a program as it is written stand at its even offsets. A pointer that moves on by
two words stays on them, or beside them; only a jump can change from one to the other. So whether a
machine reads the instructions as they are written depends on its jumps alone.

* **`Program.fetch_of_even`** — at an even offset the fetched instruction is one of the written
  ones;
* **`Machine.Jumps`** — a machine is about to take a jump, with `Machine.jumped_step_iff` for the
  report of it;
* **`Machine.parity_step`** and **`Machine.parity_after`** — without a jump one step, and so any
  number of them, keeps the parity of the pointer;
* **`Machine.even_ip_after`** — jumps to even offsets keep a pointer even;
* **`Machine.alignment_of_jumps`** — the parity of the pointer is that of the last jump. -/

namespace ThreeBit

/-! ## The written instructions -/

namespace Program

/-- An element of the pairs of a sequence of words, as a fetch would read it. -/
theorem getElem?_pairs {words : List Word} (heven : words.length % 2 = 0) (index : ℕ) :
    (pairs words)[index]? =
      words[2 * index]?.map fun opcode =>
        { opcode, operand := words[2 * index + 1]?.getD 0 } := by
  induction words using pairs.induct generalizing index with
  | case1 opcode operand rest ih =>
    cases index with
    | zero => rfl
    | succ index =>
      have hrest : rest.length % 2 = 0 := by
        simp only [List.length_cons] at heven
        omega
      simpa [pairs, Nat.mul_succ] using ih hrest index
  | case2 words hshort =>
    match words with
    | [] => simp [pairs]
    | [word] => simp at heven
    | opcode :: operand :: rest => exact absurd rfl (hshort opcode operand rest)

/-- There are half as many pairs as words. -/
theorem length_pairs (words : List Word) : (pairs words).length = words.length / 2 := by
  induction words using pairs.induct with
  | case1 opcode operand rest ih => simp [pairs, ih]; omega
  | case2 words hshort =>
    match words with
    | [] => rfl
    | [word] => simp [pairs]
    | opcode :: operand :: rest => exact absurd rfl (hshort opcode operand rest)

/-- A program has two words for every instruction. -/
theorem two_mul_length_instructions (program : Program) :
    2 * program.instructions.length = program.size := by
  have heven : program.size % 2 = 0 := program.even_size
  rw [instructions, length_pairs, Array.length_toList]
  exact Nat.mul_div_cancel' (Nat.dvd_of_mod_eq_zero heven)

/-- **At an even offset stands a written instruction**: the element at half the offset. -/
theorem fetch_of_even (program : Program) {ip : UInt64} (heven : ip.toNat % 2 = 0) :
    program.fetch ip = program.instructions[ip.toNat / 2]? := by
  have hip : 2 * (ip.toNat / 2) = ip.toNat := by omega
  rw [instructions, getElem?_pairs (by simpa using program.even_size), hip, fetch]
  simp

end Program

namespace Machine

variable {machine : Machine} {target : Word} {count : ℕ}

/-! ## Jumps -/

/-- A machine **jumps** to a target if its next step takes a jump there: the instruction at its
pointer is the jump, and `A` is not zero. -/
def Jumps (machine : Machine) (target : Word) : Prop :=
  machine.program.fetch machine.registers.ip = some { opcode := 3, operand := target } ∧
    machine.registers.a ≠ 0

/-- **A jump is reported exactly if one is taken.** -/
theorem jumped_step_iff : machine.step.2.flags.jumped = true ↔ ∃ target, machine.Jumps target := by
  cases hhalt : machine.halted with
  | true => simp [step_of_halted hhalt, Jumps, (fetch_eq_none_iff_halted machine).mpr hhalt]
  | false =>
    obtain ⟨⟨opcode, operand⟩, hfetch⟩ := exists_fetch_of_running hhalt
    rw [step_of_fetch hfetch]
    simp [Jumps, hfetch, Instruction.jumped_execute_iff, Instruction.operation_eq_iff, Opcode.word]

/-- A step that takes no jump reports none. -/
theorem jumped_step_eq_false (h : ∀ target, ¬machine.Jumps target) :
    machine.step.2.flags.jumped = false := by
  rw [← Bool.not_eq_true, jumped_step_iff]
  exact not_exists.mpr h

/-- A jump continues at its target. -/
theorem Jumps.ip_step (h : machine.Jumps target) :
    machine.step.1.registers.ip.toNat = target.toNat := by
  have hjumped := jumped_step_iff.mpr ⟨target, h⟩
  rw [step_of_fetch h.1] at hjumped ⊢
  show (Instruction.execute _ machine.registers).registers.ip.toNat = _
  rw [Instruction.ip_execute_of_jumped hjumped, UInt8.toNat_toUInt64]

/-! ## Parity -/

/-- **A step without a jump keeps the parity of the pointer.** -/
theorem parity_step (hsize : machine.program.size < 2 ^ 64) (h : ∀ target, ¬machine.Jumps target) :
    machine.step.1.registers.ip.toNat % 2 = machine.registers.ip.toNat % 2 := by
  cases hhalt : machine.halted with
  | true => rw [step_of_halted hhalt]
  | false =>
    rw [toNat_ip_step_of_not_jumped hsize hhalt (jumped_step_eq_false h)]
    omega

/-- **Steps without a jump keep the parity of the pointer.** -/
theorem parity_after (hsize : machine.program.size < 2 ^ 64)
    (h : ∀ index < count, ∀ target, ¬(machine.after index).Jumps target) :
    (machine.after count).registers.ip.toNat % 2 = machine.registers.ip.toNat % 2 := by
  induction count with
  | zero => rfl
  | succ count ih =>
    rw [after_succ, parity_step (by rwa [program_after]) (h count (Nat.lt_succ_self count))]
    exact ih fun index hlt => h index (Nat.lt_succ_of_lt hlt)

/-- **Jumps to even offsets keep the pointer even.** -/
theorem even_ip_after (hsize : machine.program.size < 2 ^ 64)
    (heven : machine.registers.ip.toNat % 2 = 0)
    (h : ∀ index < count, ∀ target, (machine.after index).Jumps target → target.toNat % 2 = 0) :
    (machine.after count).registers.ip.toNat % 2 = 0 := by
  induction count with
  | zero => exact heven
  | succ count ih =>
    rw [after_succ]
    by_cases hjumps : ∃ target, (machine.after count).Jumps target
    · obtain ⟨target, htarget⟩ := hjumps
      rw [htarget.ip_step]
      exact h count (Nat.lt_succ_self count) target htarget
    · rw [parity_step (by rwa [program_after]) (not_exists.mp hjumps)]
      exact ih fun index hlt => h index (Nat.lt_succ_of_lt hlt)

/-- The **last jump** in a number of steps: one of them jumps to the target, and none after it
jumps. -/
structure LastJump (machine : Machine) (count index : ℕ) (target : Word) : Prop where
  /-- The jump is one of the steps. -/
  index_lt : index < count
  /-- It is taken. -/
  jumps : (machine.after index).Jumps target
  /-- No later one is. -/
  latest : ∀ later, index < later → later < count → ∀ other, ¬(machine.after later).Jumps other

/-- After its last jump a run keeps the parity of the target. -/
theorem LastJump.parity {index : ℕ} (h : machine.LastJump count index target)
    (hsize : machine.program.size < 2 ^ 64) :
    (machine.after count).registers.ip.toNat % 2 = target.toNat % 2 := by
  obtain ⟨more, rfl⟩ := Nat.exists_eq_add_of_le (Nat.succ_le_of_lt h.index_lt)
  rw [after_add, parity_after (by rwa [program_after]), after_succ, h.jumps.ip_step]
  intro later hlt other
  rw [← after_add]
  exact h.latest _ (by omega) (by omega) other

/-! ## Aligned states -/

/-- A running machine with an even pointer executes the written instruction at half the pointer, and
if that moves the pointer past the end, then directly behind the last word. -/
theorem aligned_step (hsize : machine.program.size < 2 ^ 64)
    (heven : machine.registers.ip.toNat % 2 = 0) (hrun : machine.halted = false) :
    (∃ instruction,
      machine.program.instructions[machine.registers.ip.toNat / 2]? = some instruction ∧
      machine.step.1 = machine.apply (instruction.execute machine.registers)) ∧
    ((∀ target, ¬machine.Jumps target) → machine.step.1.halted = true →
      machine.step.1.registers.ip.toNat = machine.program.size) := by
  constructor
  · obtain ⟨instruction, hfetch⟩ := exists_fetch_of_running hrun
    rw [← machine.program.fetch_of_even heven]
    exact ⟨instruction, hfetch, by rw [step_of_fetch hfetch]⟩
  · intro hstay hhalt
    have hip := ip_lt_size hrun
    have hwords : machine.program.size % 2 = 0 := machine.program.even_size
    rw [halted_iff, program_step] at hhalt
    rw [toNat_ip_step_of_not_jumped hsize hrun (jumped_step_eq_false hstay)] at hhalt ⊢
    omega

/-- **Odd offsets come from odd jumps.** Take a run of any length from an even pointer. Its pointer
is even as long as no jump is taken, and then has the parity of the target of the last jump. So the
instruction at the last word, whose operand is missing, is executed only after a jump to an odd
offset; and as long as all jumps have been to even offsets, every executed instruction is the
written one at half the pointer, and a step that moves past the end without a jump ends directly
behind the last word. The program is no larger than its pointer can tell. -/
theorem alignment_of_jumps (machine : Machine) (hsize : machine.program.size < 2 ^ 64)
    (heven : machine.registers.ip.toNat % 2 = 0) (count : ℕ) :
    ((∀ index < count, ∀ target, ¬(machine.after index).Jumps target) →
      (machine.after count).registers.ip.toNat % 2 = 0) ∧
    (∀ index target, machine.LastJump count index target →
      (machine.after count).registers.ip.toNat % 2 = target.toNat % 2) ∧
    ((machine.after count).registers.ip.toNat + 1 = machine.program.size →
      ∃ index < count, ∃ target, (machine.after index).Jumps target ∧ target.toNat % 2 = 1) ∧
    ((∀ index < count, ∀ target, (machine.after index).Jumps target → target.toNat % 2 = 0) →
      ∀ index ≤ count, (machine.after index).halted = false →
        let state := machine.after index
        (∃ instruction,
          machine.program.instructions[state.registers.ip.toNat / 2]? = some instruction ∧
          state.step.1 = state.apply (instruction.execute state.registers)) ∧
        ((∀ target, ¬state.Jumps target) → state.step.1.halted = true →
          state.step.1.registers.ip.toNat = machine.program.size)) := by
  refine ⟨?_, ?_, ?_, ?_⟩
  · intro hnone
    rw [parity_after hsize hnone, heven]
  · intro index target hlast
    exact hlast.parity hsize
  · intro hlast
    have hwords : machine.program.size % 2 = 0 := machine.program.even_size
    by_contra hnone
    have haligned : (machine.after count).registers.ip.toNat % 2 = 0 := by
      refine even_ip_after hsize heven fun index hlt target hjumps => ?_
      by_contra hodd
      exact hnone ⟨index, hlt, target, hjumps, by omega⟩
    omega
  · intro hjumps index hle hrun state
    have haligned : state.registers.ip.toNat % 2 = 0 :=
      even_ip_after hsize heven fun earlier hlt => hjumps earlier (lt_of_lt_of_le hlt hle)
    have hstep := aligned_step (by rwa [program_after]) haligned hrun
    rwa [program_after] at hstep

/-- A jump to an odd offset, an emission there, and the pointer stands on the last word. -/
theorem alignment_of_jumps_last_word :
    let machine : Machine := { program := ⟨#[3, 3, 0, 5, 4, 0], rfl⟩, registers := { a := 6 } }
    machine.program.size < 2 ^ 64 ∧ machine.registers.ip.toNat % 2 = 0 ∧
      machine.LastJump 2 0 3 ∧ (machine.after 2).registers.ip.toNat % 2 = (3 : Word).toNat % 2 ∧
      (machine.after 2).registers.ip.toNat + 1 = machine.program.size ∧
      ∃ index < 2, ∃ target, (machine.after index).Jumps target ∧ target.toNat % 2 = 1 := by
  intro machine
  have hsize : machine.program.size < 2 ^ 64 := by decide
  have heven : machine.registers.ip.toNat % 2 = 0 := by decide
  have hlast : machine.LastJump 2 0 3 := by
    refine ⟨by decide, ⟨by decide, by decide⟩, ?_⟩
    intro later hlt hle other hjumps
    obtain rfl : later = 1 := by omega
    have hfetch : (machine.after 1).program.fetch (machine.after 1).registers.ip
        = some { opcode := 5, operand := 4 } := by decide
    simpa using hfetch.symm.trans hjumps.1
  have hword : (machine.after 2).registers.ip.toNat + 1 = machine.program.size := by decide
  obtain ⟨-, hparity, hodd, -⟩ := alignment_of_jumps machine hsize heven 2
  exact ⟨hsize, heven, hlast, hparity 0 3 hlast, hword, hodd hword⟩

end Machine

end ThreeBit
