import Mathlib
import ThreeBit.Proofs.Steps

/-! # Runs to the halt

A run is a loop with a limit; the sequence `Machine.after` knows of neither. This module says when
the loop comes to an outcome, and which, in terms of the sequence alone:

* **`Machine.HaltsAt`** — the least number of steps that leave a machine halted;
* **`Machine.runWithLimit_eq_ok_iff`**, **`Machine.runWithLimit_eq_error_iff`**,
  **`Machine.run_eq_some_iff`** — a run has an outcome exactly if that number exists and its steps
  can be counted within the limit, and the outcome is read off the halted state;
* **`Machine.runWithLimit_after`**, **`Machine.run_after`** — a run can be entered at any later step
  without a change of its outcome. -/

namespace ThreeBit

namespace Machine

variable {machine : Machine} {limit : UInt64} {outcome : Outcome}

/-! ## The halting step -/

/-- A machine **halts at** the least number of steps that leave it halted. -/
def HaltsAt (machine : Machine) (count : ℕ) : Prop :=
  machine.RunsFor count ∧ (machine.after count).halted = true

/-- A machine does not run beyond a halted state. -/
theorem RunsFor.le_of_halted {first second : ℕ} (hrun : machine.RunsFor first)
    (hhalt : (machine.after second).halted = true) : first ≤ second := by
  by_contra hlt
  have hstill := hrun second (by omega)
  rw [hhalt] at hstill
  contradiction

/-- There is at most one halting step. -/
theorem HaltsAt.unique {first second : ℕ} (h : machine.HaltsAt first)
    (h' : machine.HaltsAt second) : first = second :=
  le_antisymm (h.1.le_of_halted h'.2) (h'.1.le_of_halted h.2)

theorem haltsAt_zero_iff : machine.HaltsAt 0 ↔ machine.halted = true :=
  ⟨fun h => h.2, fun h => ⟨fun _ hlt => absurd hlt (Nat.not_lt_zero _), h⟩⟩

/-! ## Later states -/

/-- Steps add up. -/
theorem after_add (machine : Machine) (first second : ℕ) :
    machine.after (first + second) = (machine.after first).after second := by
  rw [add_comm]
  exact Function.iterate_add_apply _ _ _ _

/-- A machine that has halted stays as it is. -/
theorem after_of_halted (hhalt : machine.halted = true) (count : ℕ) :
    machine.after count = machine := by
  induction count with
  | zero => rfl
  | succ count ih => rw [after_succ, ih, step_of_halted hhalt]

/-- From the halting step on, nothing changes. -/
theorem HaltsAt.after_eq {first second : ℕ} (h : machine.HaltsAt first) (hle : first ≤ second) :
    machine.after second = machine.after first := by
  obtain ⟨more, rfl⟩ := Nat.exists_eq_add_of_le hle
  rw [after_add, after_of_halted h.2]

/-- A machine on its way halts at what is left of its steps. -/
theorem HaltsAt.later {first more : ℕ} (h : machine.HaltsAt (first + more)) :
    (machine.after first).HaltsAt more := by
  refine ⟨fun earlier hlt => ?_, ?_⟩
  · rw [← after_add]
    exact h.1 (first + earlier) (by omega)
  · rw [← after_add]
    exact h.2

/-- Runs add up. -/
theorem RunsFor.add {first more : ℕ} (h : machine.RunsFor first)
    (hmore : (machine.after first).RunsFor more) : machine.RunsFor (first + more) := by
  intro earlier hlt
  by_cases hle : first ≤ earlier
  · obtain ⟨taken, rfl⟩ := Nat.exists_eq_add_of_le hle
    rw [after_add]
    exact hmore taken (by omega)
  · exact h earlier (by omega)

/-- A machine that runs to a later state halts where that state does. -/
theorem RunsFor.haltsAt_add {first more : ℕ} (h : machine.RunsFor first)
    (hmore : (machine.after first).HaltsAt more) : machine.HaltsAt (first + more) :=
  ⟨h.add hmore.1, by rw [after_add]; exact hmore.2⟩

/-- The counter of a run is exact as long as its steps can be counted at all. -/
theorem toNat_steps_after {count : ℕ} (h : machine.RunsFor count)
    (hlt : machine.steps.toNat + count < 2 ^ 64) :
    (machine.after count).steps.toNat = machine.steps.toNat + count := by
  rw [steps_after h, UInt64.toNat_add, UInt64.toNat_ofNat', Nat.add_mod_mod, Nat.mod_eq_of_lt hlt]

/-! ## Halting within a limit -/

/-- A machine **halts within** a limit when its counter does not pass the limit on the way to the
halting step. No limit stops a machine that has halted, whatever it has counted. -/
def HaltsWithin (machine : Machine) (limit : UInt64) (count : ℕ) : Prop :=
  machine.HaltsAt count ∧ (count = 0 ∨ machine.steps.toNat + count ≤ limit.toNat)

/-- What halts within a limit halts within every larger one. -/
theorem HaltsWithin.mono {larger : UInt64} {count : ℕ} (h : machine.HaltsWithin limit count)
    (hle : limit ≤ larger) : machine.HaltsWithin larger count :=
  ⟨h.1, h.2.imp_right fun hcount => le_trans hcount (UInt64.le_iff_toNat_le.mp hle)⟩

/-- **Halting within a limit is kept by further steps**, and so is the halted state that is
reached. -/
theorem HaltsWithin.exists_later {count : ℕ} (h : machine.HaltsWithin limit count) (taken : ℕ) :
    ∃ left, (machine.after taken).HaltsWithin limit left ∧
      (machine.after taken).after left = machine.after count := by
  obtain ⟨hhalts, hlimit⟩ := h
  rcases le_total count taken with hle | hle
  · -- the steps lead past the halt, where there is nothing left to do
    have hsame := hhalts.after_eq hle
    refine ⟨0, ⟨haltsAt_zero_iff.mpr ?_, Or.inl rfl⟩, hsame⟩
    rw [hsame]
    exact hhalts.2
  · obtain ⟨left, rfl⟩ := Nat.exists_eq_add_of_le hle
    refine ⟨left, ⟨hhalts.later, ?_⟩, (after_add machine taken left).symm⟩
    -- the steps taken so far have been counted, so the sum is the same
    have hbound := limit.toNat_lt
    have hrun : machine.RunsFor taken := hhalts.1.mono hle
    rcases hlimit with hzero | hlimit
    · exact Or.inl (by omega)
    · refine Or.inr ?_
      rw [toNat_steps_after hrun (by omega)]
      omega

/-! ## Bounded runs -/

/-- **The loop reaches the halt** of a machine that halts within the limit. -/
theorem advance_eq_after {σ : Type} (observe : σ → Event → σ) (state : σ) {count : ℕ}
    (h : machine.HaltsWithin limit count) :
    (machine.advance observe limit state).2 = machine.after count := by
  obtain ⟨hhalts, hlimit⟩ := h
  obtain ⟨taken, heq, hrun, hle, hstop⟩ := exists_advance_eq_after observe limit state machine
  have hbefore : taken ≤ count := hrun.le_of_halted hhalts.2
  cases hhalt : (machine.after taken).halted with
  | true => rw [heq, HaltsAt.unique ⟨hrun, hhalt⟩ hhalts]
  | false =>
    -- the loop has given up before the halt, so the counter is at a limit that allows all the steps
    have hbound := limit.toNat_lt
    have hmore : taken ≠ count := by
      rintro rfl
      rw [hhalts.2] at hhalt
      contradiction
    have hgiven := UInt64.le_iff_toNat_le.mp (hstop hhalt)
    rw [toNat_steps_after hrun (by omega)] at hgiven
    omega

/-- A bounded run, read off the machine at which the loop stops. -/
theorem runWithLimit_eq_elim (machine : Machine) (limit : UInt64) :
    machine.runWithLimit limit =
      (machine.advance (fun _ _ => ()) limit ()).2.outcome?.elim
        (.error (.stepLimitExceeded limit)) .ok := rfl

/-- **A bounded run succeeds** exactly if the machine halts within the limit, and its outcome is
that of the halted state. -/
theorem runWithLimit_eq_ok_iff :
    machine.runWithLimit limit = .ok outcome ↔
      ∃ count, machine.HaltsWithin limit count ∧ outcome = (machine.after count).outcome := by
  constructor
  · intro h
    obtain ⟨count, hle, hrun, hhalt, heq⟩ := exists_after_of_runWithLimit h
    exact ⟨count, ⟨⟨hrun, hhalt⟩, by omega⟩, heq⟩
  · rintro ⟨count, h, rfl⟩
    rw [runWithLimit_eq_elim, advance_eq_after _ _ h, outcome?, if_pos h.1.2]
    rfl

/-- A bounded run succeeds, or fails at its limit. -/
theorem runWithLimit_ok_or_error (machine : Machine) (limit : UInt64) :
    (∃ outcome, machine.runWithLimit limit = .ok outcome) ∨
      machine.runWithLimit limit = .error (.stepLimitExceeded limit) := by
  rw [runWithLimit_eq_elim]
  cases (machine.advance (fun _ _ => ()) limit ()).2.outcome? with
  | none => exact Or.inr rfl
  | some outcome => exact Or.inl ⟨outcome, rfl⟩

/-- **A bounded run fails** exactly if the machine does not halt within the limit. -/
theorem runWithLimit_eq_error_iff :
    machine.runWithLimit limit = .error (.stepLimitExceeded limit) ↔
      ∀ count, ¬machine.HaltsWithin limit count := by
  constructor
  · intro h count hwithin
    rw [runWithLimit_eq_ok_iff.mpr ⟨count, hwithin, rfl⟩] at h
    contradiction
  · intro h
    rcases runWithLimit_ok_or_error machine limit with ⟨outcome, hok⟩ | herror
    · obtain ⟨count, hwithin, -⟩ := runWithLimit_eq_ok_iff.mp hok
      exact absurd hwithin (h count)
    · exact herror

/-- **A bounded run of a machine that halts** is decided by its limit. -/
theorem HaltsAt.runWithLimit_eq {count : ℕ} (h : machine.HaltsAt count) (limit : UInt64) :
    machine.runWithLimit limit =
      if count = 0 ∨ machine.steps.toNat + count ≤ limit.toNat then
        .ok (machine.after count).outcome
      else .error (.stepLimitExceeded limit) := by
  split
  · next hlimit => exact runWithLimit_eq_ok_iff.mpr ⟨count, ⟨h, hlimit⟩, rfl⟩
  · next hbeyond =>
    refine runWithLimit_eq_error_iff.mpr fun other hwithin => hbeyond ?_
    obtain rfl := h.unique hwithin.1
    exact hwithin.2

/-- A larger limit keeps an outcome. -/
theorem runWithLimit_mono {larger : UInt64} (hle : limit ≤ larger)
    (h : machine.runWithLimit limit = .ok outcome) :
    machine.runWithLimit larger = .ok outcome := by
  obtain ⟨count, hwithin, heq⟩ := runWithLimit_eq_ok_iff.mp h
  exact runWithLimit_eq_ok_iff.mpr ⟨count, hwithin.mono hle, heq⟩

/-- **A bounded run entered later** has the same outcome. -/
theorem runWithLimit_after (h : machine.runWithLimit limit = .ok outcome) (taken : ℕ) :
    (machine.after taken).runWithLimit limit = .ok outcome := by
  obtain ⟨count, hwithin, rfl⟩ := runWithLimit_eq_ok_iff.mp h
  obtain ⟨left, hlater, heq⟩ := hwithin.exists_later taken
  exact runWithLimit_eq_ok_iff.mpr ⟨left, hlater, by rw [heq]⟩

/-! ## Unbounded runs -/

/-- A run has the outcomes of a run limited by what the counter can hold. -/
theorem run_eq_some_iff_runWithLimit :
    machine.run = some outcome ↔ machine.runWithLimit lastStep = .ok outcome := by
  show (machine.advance (fun _ _ => ()) lastStep ()).2.outcome? = some outcome ↔ _
  rw [runWithLimit_eq_elim]
  cases (machine.advance (fun _ _ => ()) lastStep ()).2.outcome? <;> simp

/-- **A run has an outcome** exactly if the machine halts and its steps can be counted. -/
theorem run_eq_some_iff :
    machine.run = some outcome ↔
      ∃ count, machine.HaltsWithin lastStep count ∧ outcome = (machine.after count).outcome := by
  rw [run_eq_some_iff_runWithLimit, runWithLimit_eq_ok_iff]

/-- **A run entered later** has the same outcome. -/
theorem run_after (h : machine.run = some outcome) (taken : ℕ) :
    (machine.after taken).run = some outcome := by
  rw [run_eq_some_iff_runWithLimit] at h ⊢
  exact runWithLimit_after h taken

/-! ## Agreement -/

/-- **The loop ends and counts right.** It takes no more steps than are left below the limit, each
of them from a running machine, and none of them wraps the counter around. -/
theorem exists_advance_counted {σ : Type} (observe : σ → Event → σ) (limit : UInt64) (state : σ)
    (machine : Machine) :
    ∃ taken ≤ limit.toNat - machine.steps.toNat,
      (machine.advance observe limit state).2 = machine.after taken ∧
      ∀ earlier < taken, (machine.after earlier).halted = false ∧
        (machine.after earlier).steps < limit ∧
        (machine.after (earlier + 1)).steps.toNat = (machine.after earlier).steps.toNat + 1 := by
  obtain ⟨taken, heq, hrun, hle, -⟩ := exists_advance_eq_after observe limit state machine
  refine ⟨taken, hle, heq, fun earlier hlt => ?_⟩
  have hbound := limit.toNat_lt
  have hnow := toNat_steps_after (hrun.mono (Nat.le_of_lt hlt)) (by omega)
  have hnext := toNat_steps_after (hrun.mono (show earlier + 1 ≤ taken from hlt)) (by omega)
  refine ⟨hrun earlier hlt, UInt64.lt_iff_toNat_lt.mpr ?_, ?_⟩
  · omega
  · omega

/-- **Runs agree with iterated stepping.** A bounded run gives the state after the least number of
steps that halts the machine, if that number is zero or keeps the counter within the limit, and
fails at the limit otherwise; an unbounded run gives the same state, if the counter can hold the
number, and nothing for a machine that never halts. So an outcome does not change under a larger
limit, a machine that has halted passes any limit, the loop ends after finitely many steps that are
all counted, and no observer has a part in any of this. -/
theorem runs_agree_with_steps (machine : Machine) (limit : UInt64) :
    (∀ count, machine.HaltsAt count →
      count = 0 ∨ machine.steps.toNat + count ≤ limit.toNat →
      machine.runWithLimit limit = .ok (machine.after count).outcome) ∧
    ((∀ count, machine.HaltsAt count →
        count ≠ 0 ∧ limit.toNat < machine.steps.toNat + count) →
      machine.runWithLimit limit = .error (.stepLimitExceeded limit)) ∧
    (∀ count, machine.HaltsAt count → machine.steps.toNat + count < 2 ^ 64 →
      machine.run = some (machine.after count).outcome) ∧
    ((∀ count, (machine.after count).halted = false) → machine.run = none) ∧
    (∀ larger outcome, limit ≤ larger → machine.runWithLimit limit = .ok outcome →
      machine.runWithLimit larger = .ok outcome) ∧
    (machine.halted = true → machine.runWithLimit limit = .ok machine.outcome) ∧
    (∃ taken ≤ limit.toNat - machine.steps.toNat,
      (machine.advance (fun _ _ => ()) limit ()).2 = machine.after taken ∧
      ∀ earlier < taken, (machine.after earlier).halted = false ∧
        (machine.after earlier).steps < limit ∧
        (machine.after (earlier + 1)).steps.toNat = (machine.after earlier).steps.toNat + 1) ∧
    (∀ (σ : Type) (observe : σ → Event → σ) (state : σ),
      (machine.runWithLimitTraced observe limit state).2 = machine.runWithLimit limit ∧
        (machine.runTraced observe state).2 = machine.run) := by
  refine ⟨?_, ?_, ?_, ?_, ?_, ?_, ?_, ?_⟩
  · intro count hhalts hlimit
    exact runWithLimit_eq_ok_iff.mpr ⟨count, ⟨hhalts, hlimit⟩, rfl⟩
  · intro hbeyond
    refine runWithLimit_eq_error_iff.mpr fun count hwithin => ?_
    have hcount := hbeyond count hwithin.1
    have hlimit := hwithin.2
    omega
  · intro count hhalts hrange
    have hlast : lastStep.toNat = 2 ^ 64 - 1 := rfl
    exact run_eq_some_iff.mpr ⟨count, ⟨hhalts, Or.inr (by omega)⟩, rfl⟩
  · intro hnever
    refine Option.eq_none_iff_forall_ne_some.mpr fun outcome hsome => ?_
    obtain ⟨count, hwithin, -⟩ := run_eq_some_iff.mp hsome
    exact absurd hwithin.1.2 (by simp [hnever count])
  · intro larger outcome hle hok
    exact runWithLimit_mono hle hok
  · intro hhalt
    exact runWithLimit_eq_ok_iff.mpr ⟨0, ⟨haltsAt_zero_iff.mpr hhalt, Or.inl rfl⟩, rfl⟩
  · exact exists_advance_counted _ limit () machine
  · intro σ observe state
    exact ⟨runWithLimitTraced_snd observe limit state machine, runTraced_snd observe state machine⟩

/-- A loop of two rounds, entered after two of its six steps: the limit counts those two as well, so
six is enough and five is not. -/
theorem runs_agree_with_steps_exact_limit :
    let start : Machine := { program := ⟨#[0, 1, 5, 4, 3, 0], rfl⟩, registers := { a := 3 } }
    let machine := start.after 2
    machine.HaltsAt 4 ∧
      machine.runWithLimit 6 = .ok { registers := { ip := 6 }, outputs := #[1, 0], steps := 6 } ∧
      machine.runWithLimit 5 = .error (.stepLimitExceeded 5) := by
  intro start machine
  have hhalts : machine.HaltsAt 4 := by
    refine ⟨fun earlier hlt => ?_, by decide⟩
    interval_cases earlier <;> decide
  have hlast : (machine.after 4).outcome
      = { registers := { ip := 6 }, outputs := #[1, 0], steps := 6 } := by decide
  refine ⟨hhalts, ?_, ?_⟩
  · rw [← hlast]
    exact (runs_agree_with_steps machine 6).1 4 hhalts (by decide)
  · refine (runs_agree_with_steps machine 5).2.1 fun count hcount => ?_
    rw [hcount.unique hhalts]
    decide

end Machine

end ThreeBit
