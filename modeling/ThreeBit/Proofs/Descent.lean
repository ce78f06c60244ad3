import Mathlib
import ThreeBit.Proofs.Invariant

/-! # Register `A` descends

Of the eight operations one writes `A`, and it divides it by a power of two. So `A` is a measure of
a run: it never grows, and a step that changes it takes away at least one of its bits.

* **`toNat_divide`** — the quotient by a power of two, for every exponent;
* **`Instruction.a_execute_eq_or_le_half`** and **`Machine.a_step_eq_or_le_half`** — one
  instruction, and so one step, keeps `A` or at least halves it;
* **`Machine.changes_add_size_le`** — each change is paid for by a bit of the initial value;
* **`Machine.haltsAt_of_a_eq_zero`** — with `A` at zero no jump is taken any more, and the run goes
  straight through to the end of the program. -/

namespace ThreeBit

/-! ## One instruction -/

/-- **Division is by a power of two**, also where the exponent is larger than a register has
bits. -/
theorem toNat_divide (dividend exponent : Register) :
    (divide dividend exponent).toNat = dividend.toNat / 2 ^ exponent.toNat := by
  have hbits : (64 : Register).toNat = 64 := rfl
  rw [divide_eq]
  split
  · next hlt =>
    rw [UInt64.lt_iff_toNat_lt, hbits] at hlt
    rw [UInt64.toNat_shiftRight, Nat.mod_eq_of_lt hlt, Nat.shiftRight_eq_div_pow]
  · next hge =>
    rw [UInt64.lt_iff_toNat_lt, hbits, not_lt] at hge
    have hpow : 2 ^ 64 ≤ 2 ^ exponent.toNat := Nat.pow_le_pow_right (by norm_num) hge
    exact (Nat.div_eq_of_lt (lt_of_lt_of_le dividend.toNat_lt hpow)).symm

/-- A division changes nothing, by the exponent zero, or takes away at least half. -/
theorem divide_eq_or_le_half (dividend exponent : Register) :
    divide dividend exponent = dividend ∨
      (divide dividend exponent).toNat ≤ dividend.toNat / 2 := by
  rw [← UInt64.toNat_inj, toNat_divide]
  rcases Nat.eq_zero_or_pos exponent.toNat with hzero | hpos
  · left
    rw [hzero, pow_zero, Nat.div_one]
  · right
    have hpow : 2 ^ 1 ≤ 2 ^ exponent.toNat := Nat.pow_le_pow_right (by norm_num) hpos
    exact Nat.div_le_div_left hpow (by norm_num)

/-- A number that is at least halved loses a bit. -/
theorem size_lt_of_le_half {value half : ℕ} (hhalf : half ≤ value / 2) (hne : half ≠ value) :
    half.size < value.size := by
  have hsize : value < 2 ^ value.size := Nat.lt_size_self value
  have hpos : 0 < value.size := Nat.size_pos.mpr (by omega)
  obtain ⟨bits, hbits⟩ := Nat.exists_eq_add_of_lt hpos
  rw [hbits, zero_add, pow_succ] at hsize
  have hlt : half < 2 ^ bits := by omega
  have hle := Nat.size_le.mpr hlt
  omega

/-- **One operation writes `A`.** -/
theorem Instruction.a_execute (instruction : Instruction) (registers : Registers) :
    (instruction.execute registers).registers.a =
      if instruction.operation = .adv then
        divide registers.a (registers.combo instruction.operand)
      else registers.a := by
  rw [execute_eq]
  cases instruction.operation with
  | jnz => by_cases hzero : registers.a = 0 <;> simp [hzero, Registers.advance]
  | _ => simp [Registers.advance]

/-- **An instruction keeps `A` or at least halves it.** -/
theorem Instruction.a_execute_eq_or_le_half (instruction : Instruction) (registers : Registers) :
    (instruction.execute registers).registers.a = registers.a ∨
      (instruction.execute registers).registers.a.toNat ≤ registers.a.toNat / 2 := by
  rw [a_execute]
  split
  · exact divide_eq_or_le_half _ _
  · exact Or.inl rfl

namespace Machine

variable {machine : Machine}

/-! ## Along a run -/

/-- **A step keeps `A` or at least halves it.** -/
theorem a_step_eq_or_le_half (machine : Machine) :
    machine.step.1.registers.a = machine.registers.a ∨
      machine.step.1.registers.a.toNat ≤ machine.registers.a.toNat / 2 := by
  cases hhalt : machine.halted with
  | true =>
    rw [step_of_halted hhalt]
    exact Or.inl rfl
  | false =>
    obtain ⟨instruction, hfetch⟩ := exists_fetch_of_running hhalt
    rw [step_of_fetch hfetch]
    exact instruction.a_execute_eq_or_le_half machine.registers

/-- A step does not increase `A`. -/
theorem a_step_le (machine : Machine) :
    machine.step.1.registers.a.toNat ≤ machine.registers.a.toNat := by
  rcases machine.a_step_eq_or_le_half with heq | hhalf
  · rw [heq]
  · omega

/-- **`A` never increases** along a run. -/
theorem antitone_a_after (machine : Machine) :
    Antitone fun count => (machine.after count).registers.a.toNat := by
  refine antitone_nat_of_succ_le fun count => ?_
  rw [after_succ]
  exact a_step_le _

/-- `A` comes to rest: from some step on it stays as it is. -/
theorem exists_a_after_eq (machine : Machine) :
    ∃ last, ∀ later ≥ last,
      (machine.after later).registers.a = (machine.after last).registers.a := by
  -- the step with the least value of all is one from which on nothing can change
  obtain ⟨last, -, hleast⟩ :=
    WellFounded.has_min (measure fun count => (machine.after count).registers.a.toNat).wf
      Set.univ Set.univ_nonempty
  refine ⟨last, fun later hle => UInt64.toNat_inj.mp (le_antisymm ?_ ?_)⟩
  · exact machine.antitone_a_after hle
  · exact not_lt.mp (hleast later (Set.mem_univ later))

/-! ## Counting the changes -/

/-- The number of steps, among the first ones of a run, that **change** `A`. -/
def changesOfA (machine : Machine) (count : ℕ) : ℕ :=
  Nat.count (fun earlier =>
    (machine.after (earlier + 1)).registers.a ≠ (machine.after earlier).registers.a) count

theorem changesOfA_succ (machine : Machine) (count : ℕ) :
    machine.changesOfA (count + 1) = machine.changesOfA count +
      if (machine.after (count + 1)).registers.a ≠ (machine.after count).registers.a then 1
      else 0 :=
  Nat.count_succ _ _

/-- **Every change costs a bit.** The changes so far and the bits that are left make no more than
the bits of the initial value. -/
theorem changes_add_size_le (machine : Machine) (count : ℕ) :
    machine.changesOfA count + (machine.after count).registers.a.toNat.size
      ≤ machine.registers.a.toNat.size := by
  induction count with
  | zero => exact (Nat.zero_add _).le
  | succ count ih =>
    rw [changesOfA_succ]
    rcases (machine.after count).a_step_eq_or_le_half with heq | hhalf
    · rw [← after_succ] at heq
      rw [heq, if_neg (not_not.mpr rfl)]
      exact ih
    · rw [← after_succ] at hhalf
      split
      · next hne =>
        have hbit := size_lt_of_le_half hhalf (mt UInt64.toNat_inj.mp hne)
        omega
      · next heq =>
        rw [not_not.mp heq]
        exact ih

/-! ## Straight to the end -/

/-- A step with `A` at zero reports no jump. -/
theorem jumped_step_of_a_eq_zero (hzero : machine.registers.a = 0) :
    machine.step.2.flags.jumped = false := by
  cases hhalt : machine.halted with
  | true => rw [step_of_halted hhalt]
  | false =>
    obtain ⟨instruction, hfetch⟩ := exists_fetch_of_running hhalt
    rw [step_of_fetch hfetch]
    exact Bool.eq_false_iff.mpr fun hjump => (Instruction.jumped_execute_iff.mp hjump).2 hzero

/-- **Zero stays zero.** -/
theorem a_after_eq_zero (hzero : machine.registers.a = 0) (count : ℕ) :
    (machine.after count).registers.a = 0 := by
  have hle := machine.antitone_a_after (Nat.zero_le count)
  simp only [after_zero, hzero, UInt64.toNat_zero, Nat.le_zero] at hle
  exact UInt64.toNat_inj.mp hle

/-- A running machine whose `A` is zero moves on by two words. -/
theorem toNat_ip_step_of_a_eq_zero (hsize : machine.program.size < 2 ^ 64)
    (hzero : machine.registers.a = 0) (hrun : machine.halted = false) :
    machine.step.1.registers.ip.toNat = machine.registers.ip.toNat + 2 :=
  toNat_ip_step_of_not_jumped hsize hrun (jumped_step_of_a_eq_zero hzero)

/-- **The pointer of a run with `A` at zero** goes through the program two words at a time. -/
theorem toNat_ip_after_of_a_eq_zero (hsize : machine.program.size < 2 ^ 64)
    (hzero : machine.registers.a = 0) {count : ℕ} (hrun : machine.RunsFor count) :
    (machine.after count).registers.ip.toNat = machine.registers.ip.toNat + 2 * count := by
  induction count with
  | zero => rfl
  | succ count ih =>
    obtain ⟨hbefore, hlast⟩ := runsFor_succ_iff.mp hrun
    rw [after_succ, toNat_ip_step_of_a_eq_zero (by rwa [program_after])
      (a_after_eq_zero hzero count) hlast, ih hbefore]
    omega

/-- A run with `A` at zero goes on as long as there are words ahead of it. -/
theorem runsFor_of_a_eq_zero (hsize : machine.program.size < 2 ^ 64)
    (hzero : machine.registers.a = 0) {count : ℕ}
    (hwords : machine.registers.ip.toNat + 2 * count < machine.program.size + 2) :
    machine.RunsFor count := by
  induction count with
  | zero => exact fun _ hlt => absurd hlt (Nat.not_lt_zero _)
  | succ count ih =>
    have hbefore := ih (by omega)
    refine runsFor_succ_iff.mpr ⟨hbefore, ?_⟩
    rw [← Bool.not_eq_true, halted_iff, program_after,
      toNat_ip_after_of_a_eq_zero hsize hzero hbefore]
    omega

/-- **With `A` at zero the run is over soon**: one step for every two words that are left, the last
of which may be half outside. The pointer then stands at the end of the program or one word behind
it. -/
theorem haltsAt_of_a_eq_zero (hsize : machine.program.size < 2 ^ 64)
    (hzero : machine.registers.a = 0) (hrun : machine.halted = false) :
    let left := (machine.program.size - machine.registers.ip.toNat + 1) / 2
    machine.HaltsAt left ∧
      ((machine.after left).registers.ip.toNat = machine.program.size ∨
        (machine.after left).registers.ip.toNat = machine.program.size + 1) := by
  intro left
  have hip := ip_lt_size hrun
  have hleft : machine.RunsFor left := runsFor_of_a_eq_zero hsize hzero (by omega)
  have hend := toNat_ip_after_of_a_eq_zero hsize hzero hleft
  refine ⟨⟨hleft, ?_⟩, by omega⟩
  rw [halted_iff, program_after, hend]
  omega

/-! ## The measure -/

/-- **Register `A` is a descending measure of every run.** It never increases, and a step that
changes it at least halves it, so no more steps change it than the initial value has bits, of which
there are at most 64. From a running state in which it is zero it stays zero, no jump is taken, and
the machine halts after one step for every two words ahead, rounded up, at the end of the program or
one word behind it. So in a run that never halts it is never zero, and it comes to rest. The program
is no larger than its pointer can tell. -/
theorem a_descends (machine : Machine) (hsize : machine.program.size < 2 ^ 64) :
    let a := fun count => (machine.after count).registers.a.toNat
    (∀ count, a (count + 1) ≤ a count) ∧
    (∀ count, a (count + 1) ≠ a count → a (count + 1) ≤ a count / 2) ∧
    (∀ count, machine.changesOfA count ≤ (a 0).size) ∧ (a 0).size ≤ 64 ∧
    (∀ count, (machine.after count).halted = false → a count = 0 →
      let state := machine.after count
      let left := (machine.program.size - state.registers.ip.toNat + 1) / 2
      (∀ more, a (count + more) = 0 ∧ (state.after more).step.2.flags.jumped = false) ∧
        state.HaltsAt left ∧
        ((state.after left).registers.ip.toNat = machine.program.size ∨
          (state.after left).registers.ip.toNat = machine.program.size + 1)) ∧
    ((∀ count, (machine.after count).halted = false) →
      (∀ count, a count ≠ 0) ∧ ∃ last, ∀ later ≥ last, a later = a last) := by
  intro a
  have hstraight : ∀ count, a count = 0 → (machine.after count).registers.a = 0 :=
    fun count hzero => UInt64.toNat_inj.mp hzero
  have hsize' : ∀ count, (machine.after count).program.size < 2 ^ 64 := fun count => by
    rwa [program_after]
  refine ⟨fun count => machine.antitone_a_after (Nat.le_succ count), ?_, ?_, ?_, ?_, ?_⟩
  · intro count hne
    have hstep := (machine.after count).a_step_eq_or_le_half
    rw [← after_succ] at hstep
    exact hstep.resolve_left fun heq => hne (congrArg UInt64.toNat heq)
  · intro count
    exact le_trans (Nat.le_add_right _ _) (machine.changes_add_size_le count)
  · exact Nat.size_le.mpr machine.registers.a.toNat_lt
  · intro count hrun hzero state left
    have hends := haltsAt_of_a_eq_zero (hsize' count) (hstraight count hzero) hrun
    rw [program_after] at hends
    refine ⟨fun more => ?_, hends⟩
    have hstays := a_after_eq_zero (hstraight count hzero) more
    refine ⟨?_, jumped_step_of_a_eq_zero hstays⟩
    show (machine.after (count + more)).registers.a.toNat = 0
    rw [after_add, hstays]
    rfl
  · intro hnever
    refine ⟨fun count hzero => ?_, ?_⟩
    · -- a run with `A` at zero would come to its end
      have hends := (haltsAt_of_a_eq_zero (hsize' count) (hstraight count hzero) (hnever count)).1.2
      rw [← after_add, hnever] at hends
      contradiction
    · obtain ⟨last, hrest⟩ := machine.exists_a_after_eq
      exact ⟨last, fun later hle => congrArg UInt64.toNat (hrest later hle)⟩

/-- A jump to an odd offset, where the only bit of `A` is shifted out: the last instruction is then
read at the last word, and the machine halts one word behind the end. -/
theorem a_descends_last_word :
    let machine : Machine := { program := ⟨#[3, 3, 0, 0, 1, 5], rfl⟩, registers := { a := 1 } }
    machine.program.size < 2 ^ 64 ∧ (machine.after 2).registers.ip = 5 ∧
      machine.changesOfA 2 = 1 ∧ machine.changesOfA 2 ≤ Nat.size 1 ∧
      (machine.after 2).HaltsAt 1 ∧ ((machine.after 2).after 1).registers.ip = 7 := by
  intro machine
  have hsize : machine.program.size < 2 ^ 64 := by decide
  obtain ⟨-, -, hchanges, -, hzero, -⟩ := a_descends machine hsize
  have hends := (hzero 2 (by decide) (by decide)).2.1
  have hleft : (machine.program.size - (machine.after 2).registers.ip.toNat + 1) / 2 = 1 := by
    decide
  rw [hleft] at hends
  exact ⟨hsize, by decide, by decide, hchanges 2, hends, by decide⟩

end Machine

end ThreeBit
