import Mathlib
import ThreeBit.Proofs.Alignment

/-! # Replacing a program by one like it

The operand of `bxc` has no effect, so a program can be changed there, and what it does stays the
same. That is, as long as it is read at its even offsets: at an odd offset the operand is an
operation.

* **`Instruction.Alike`** — instructions with the same words, the operand of `bxc` apart, which have
  the same effect (`Instruction.Alike.execute_eq`);
* **`Program.Alike`** — programs of such instructions, with the same fetches at even offsets
  (`Program.Alike.exists_fetch`);
* **`Machine.step_withProgram`** and **`Machine.after_withProgram`** — one step at an even offset,
  and so any number of them, does not tell such programs apart;
* **`Machine.even_ip_after_of_evenJumps`** — jumps that are written to even offsets keep a pointer
  there;
* **`Machine.runWithLimit_withProgram`** — so a program with even jumps can be replaced. -/

namespace ThreeBit

/-! ## Instructions -/

namespace Instruction

variable {first second : Instruction}

/-- Two instructions are **alike** when they have the same operation and the same operand, unless
the operation is `bxc`, which has no use for one. -/
def Alike (first second : Instruction) : Prop :=
  first.opcode = second.opcode ∧ (first.opcode ≠ 4 → first.operand = second.operand)

/-- Instructions that are alike are the same, or both are `bxc`. -/
theorem Alike.eq_or_bxc (h : first.Alike second) :
    first = second ∨ first.operation = .bxc ∧ second.operation = .bxc := by
  obtain ⟨opcode, operand⟩ := first
  obtain ⟨opcode', operand'⟩ := second
  obtain ⟨rfl, hoperand⟩ := h
  by_cases hbxc : opcode = 4
  · subst hbxc
    exact Or.inr ⟨rfl, rfl⟩
  · obtain rfl := hoperand hbxc
    exact Or.inl rfl

/-- **Instructions that are alike have the same effect.** -/
theorem Alike.execute_eq (h : first.Alike second) (registers : Registers) :
    first.execute registers = second.execute registers := by
  rcases h.eq_or_bxc with rfl | ⟨hfirst, hsecond⟩
  · rfl
  · rw [Instruction.execute_eq, Instruction.execute_eq, hfirst, hsecond]

end Instruction

/-! ## Programs -/

namespace Program

variable {first second : Program}

/-- Two programs are **alike** when their instructions are, one by one. -/
def Alike (first second : Program) : Prop :=
  List.Forall₂ Instruction.Alike first.instructions second.instructions

namespace Alike

/-- Programs that are alike have the same size. -/
theorem size_eq (h : first.Alike second) : first.size = second.size := by
  rw [← two_mul_length_instructions, h.length_eq, two_mul_length_instructions]

/-- Programs that are alike end at the same offset. -/
theorem isPast_eq (h : first.Alike second) (ip : UInt64) : first.isPast ip = second.isPast ip := by
  rw [isPast, isPast, h.size_eq]

/-- **At an even offset alike instructions are fetched** from programs that are alike. -/
theorem exists_fetch (h : first.Alike second) {ip : UInt64} (heven : ip.toNat % 2 = 0)
    {instruction : Instruction} (hfetch : first.fetch ip = some instruction) :
    ∃ other, second.fetch ip = some other ∧ instruction.Alike other := by
  rw [fetch_of_even _ heven] at hfetch ⊢
  obtain ⟨hindex, rfl⟩ := List.getElem?_eq_some_iff.mp hfetch
  have hindex' : ip.toNat / 2 < second.instructions.length := h.length_eq ▸ hindex
  exact ⟨second.instructions[ip.toNat / 2], List.getElem?_eq_getElem hindex', h.get hindex hindex'⟩

end Alike

/-- A program has **even jumps** when every jump that is written in it goes to an even offset. -/
def EvenJumps (program : Program) : Prop :=
  ∀ instruction ∈ program.instructions, instruction.opcode = 3 → instruction.operand.toNat % 2 = 0

end Program

/-! ## Machines -/

namespace Machine

variable {machine : Machine} {other : Program}

/-- **Even jumps keep the pointer even**: at an even offset only a jump that is written can be
taken. -/
theorem even_ip_after_of_evenJumps (hjumps : machine.program.EvenJumps)
    (hsize : machine.program.size < 2 ^ 64) (heven : machine.registers.ip.toNat % 2 = 0)
    (count : ℕ) : (machine.after count).registers.ip.toNat % 2 = 0 := by
  induction count with
  | zero => exact heven
  | succ count ih =>
    rw [after_add]
    refine even_ip_after (by rwa [program_after]) ih fun index hlt target htarget => ?_
    obtain rfl : index = 0 := by omega
    have hfetch : machine.program.fetch (machine.after count).registers.ip
        = some { opcode := 3, operand := target } := by
      rw [← program_after machine count]
      exact htarget.1
    rw [Program.fetch_of_even _ ih] at hfetch
    exact hjumps _ (List.mem_of_getElem? hfetch) rfl

/-- The machine **with another program** in place of its own. All else is kept, but for the halt
bit, which goes by the new program. -/
def withProgram (machine : Machine) (other : Program) : Machine where
  program := other
  registers := machine.registers
  output := machine.output
  steps := machine.steps

/-- A program that is like the one it replaces halts at the same pointers. -/
theorem halted_withProgram (halike : machine.program.Alike other) :
    (machine.withProgram other).halted = machine.halted :=
  (halike.isPast_eq machine.registers.ip).symm.trans machine.coherent.symm

/-- **A step at an even offset** does not tell programs apart that are alike. -/
theorem step_withProgram (halike : machine.program.Alike other)
    (heven : machine.registers.ip.toNat % 2 = 0) :
    (machine.withProgram other).step.1 = machine.step.1.withProgram other := by
  cases hhalt : machine.halted with
  | true => rw [step_of_halted hhalt, step_of_halted (by rwa [halted_withProgram halike])]
  | false =>
    obtain ⟨instruction, hfetch⟩ := exists_fetch_of_running hhalt
    obtain ⟨instruction', hfetch', hinstruction⟩ := halike.exists_fetch heven hfetch
    have hother : (machine.withProgram other).program.fetch (machine.withProgram other).registers.ip
        = some instruction' := hfetch'
    rw [step_of_fetch hfetch, step_of_fetch hother]
    show (machine.withProgram other).apply (instruction'.execute machine.registers) = _
    rw [← hinstruction.execute_eq]
    rfl

/-- **Any number of steps at even offsets** does not tell programs apart that are alike. -/
theorem after_withProgram (halike : machine.program.Alike other) {count : ℕ}
    (heven : ∀ index < count, (machine.after index).registers.ip.toNat % 2 = 0) :
    (machine.withProgram other).after count = (machine.after count).withProgram other := by
  induction count with
  | zero => rfl
  | succ count ih =>
    rw [after_succ, after_succ, ih fun index hlt => heven index (Nat.lt_succ_of_lt hlt)]
    exact step_withProgram (by rwa [program_after]) (heven count (Nat.lt_succ_self count))

/-- **Bounded runs are the same** of machines that have halted after the same numbers of steps, and
with the same outcomes. -/
theorem runWithLimit_congr {first second : Machine} {limit : UInt64}
    (hhalted : ∀ count, (first.after count).halted = (second.after count).halted)
    (houtcome : ∀ count, (first.after count).outcome = (second.after count).outcome) :
    first.runWithLimit limit = second.runWithLimit limit := by
  have hsteps : first.steps = second.steps := congrArg Outcome.steps (houtcome 0)
  have hwithin (count : ℕ) : first.HaltsWithin limit count ↔ second.HaltsWithin limit count := by
    simp only [HaltsWithin, HaltsAt, RunsFor, hhalted, hsteps]
  rcases runWithLimit_ok_or_error second limit with ⟨outcome, hok⟩ | herror
  · obtain ⟨count, hcount, rfl⟩ := runWithLimit_eq_ok_iff.mp hok
    rw [hok, ← houtcome]
    exact runWithLimit_eq_ok_iff.mpr ⟨count, (hwithin count).mpr hcount, rfl⟩
  · rw [herror]
    refine runWithLimit_eq_error_iff.mpr fun count hcount => ?_
    exact runWithLimit_eq_error_iff.mp herror count ((hwithin count).mp hcount)

/-- **A program with even jumps can be replaced** by one that is like it, for runs from an even
pointer. -/
theorem runWithLimit_withProgram (halike : machine.program.Alike other)
    (hjumps : machine.program.EvenJumps) (hsize : machine.program.size < 2 ^ 64)
    (heven : machine.registers.ip.toNat % 2 = 0) (limit : UInt64) :
    (machine.withProgram other).runWithLimit limit = machine.runWithLimit limit := by
  have hafter (count : ℕ) :
      (machine.withProgram other).after count = (machine.after count).withProgram other :=
    after_withProgram halike fun index _ => even_ip_after_of_evenJumps hjumps hsize heven index
  refine runWithLimit_congr (fun count => ?_) fun count => ?_
  · rw [hafter, halted_withProgram (by rwa [program_after])]
  · rw [hafter]
    rfl

end Machine

end ThreeBit
