import Mathlib
import ThreeBit.Machine.Outputs
import ThreeBit.Proofs.Invariant

/-! # Driving a machine piece by piece

A machine can be stepped, asked for its next value, for a number of values or for all of them, and
these ways can be mixed. Each of them only moves the machine along its own run, and reports exactly
what is emitted on the way. `Machine.Yields` is that relation between two states and the values in
between:

* **`Machine.next_eq_value_iff`**, **`Machine.next_eq_halt_iff`** — where the next value is found,
  and when there is none;
* **`Machine.Yields.step`**, **`Machine.yields_of_next`**, **`Machine.collects_of_takeInto`**,
  **`Machine.collects_of_drainInto`** — each way of driving yields what it reports;
* **`Machine.yields_of_pull`** — and so does any mixture of them;
* **`Machine.pulls_agree_with_run`** — which therefore neither loses a value nor changes the
  outcome. -/

namespace ThreeBit

/-- **Pull.** One call that drives a machine. -/
inductive Pull where
  /-- Execute one instruction. -/
  | step
  /-- Ask for the next value. -/
  | next
  /-- Ask for a number of values. -/
  | take (count : ℕ)
  /-- Ask for all values that are left. -/
  | drain
  deriving DecidableEq, Repr

/-- What a call reports, in order, and the machine it leaves; nothing if it does not return. -/
def Pull.perform (machine : Machine) : Pull → Option (List Word × Machine)
  | step => some (machine.step.2.value?.toList, machine.step.1)
  | next => machine.next.map fun (value, later) => (value.toList, later)
  | take count => (machine.take count).map fun (values, later) => (values.toList, later)
  | drain => machine.drain.map fun (values, later) => (values.toList, later)

namespace Machine

/-- A sequence of calls, with all that they report and the machine they leave. -/
def pull (machine : Machine) : List Pull → Option (List Word × Machine)
  | [] => some ([], machine)
  | first :: rest => (first.perform machine).bind fun (values, middle) =>
      (middle.pull rest).map fun (more, later) => (values ++ more, later)

variable {machine later : Machine}

/-! ## Yielding -/

/-- A machine **yields** some values on its way to a later state: they are what is emitted in
between. -/
structure Yields (machine : Machine) (values : List Word) (later : Machine) : Prop where
  /-- The later state is one of the run. -/
  reached : ∃ count, later = machine.after count
  /-- The values are appended to the output stream, and nothing else is. -/
  output : later.output.toList = machine.output.toList ++ values

theorem Yields.refl (machine : Machine) : machine.Yields [] machine :=
  ⟨⟨0, rfl⟩, (List.append_nil _).symm⟩

/-- What is yielded on two stretches of a run is yielded one after the other. -/
theorem Yields.trans {middle : Machine} {values more : List Word} (h : machine.Yields values middle)
    (h' : middle.Yields more later) : machine.Yields (values ++ more) later := by
  obtain ⟨⟨first, rfl⟩, houtput⟩ := h
  obtain ⟨⟨second, rfl⟩, houtput'⟩ := h'
  refine ⟨⟨first + second, (after_add machine first second).symm⟩, ?_⟩
  rw [houtput', houtput, List.append_assoc]

/-- **A step yields the value it reports**, if any. -/
theorem Yields.step (machine : Machine) :
    machine.Yields machine.step.2.value?.toList machine.step.1 := by
  refine ⟨⟨1, rfl⟩, ?_⟩
  cases hhalt : machine.halted with
  | true =>
    rw [value_step_of_halted hhalt, step_of_halted hhalt]
    exact (List.append_nil _).symm
  | false => exact output_step hhalt

/-- A machine is **silent for** a number of steps when none of them reports a value. -/
def SilentFor (machine : Machine) (count : ℕ) : Prop :=
  ∀ earlier < count, (machine.after earlier).step.2.value? = none

theorem silentFor_zero (machine : Machine) : machine.SilentFor 0 :=
  fun _ hlt => absurd hlt (Nat.not_lt_zero _)

/-- Silence for one more step, read off its front. -/
theorem silentFor_succ_iff {count : ℕ} :
    machine.SilentFor (count + 1) ↔
      machine.step.2.value? = none ∧ machine.step.1.SilentFor count := by
  constructor
  · intro h
    refine ⟨h 0 (Nat.succ_pos count), fun earlier hlt => ?_⟩
    rw [← after_succ_step]
    exact h (earlier + 1) (by omega)
  · rintro ⟨hfirst, hrest⟩ earlier hlt
    cases earlier with
    | zero => exact hfirst
    | succ earlier =>
      rw [after_succ_step]
      exact hrest earlier (by omega)

/-- Nothing is yielded in silence. -/
theorem SilentFor.yields {count : ℕ} (h : machine.SilentFor count) :
    machine.Yields [] (machine.after count) := by
  induction count with
  | zero => exact Yields.refl machine
  | succ count ih =>
    have hlast := Yields.step (machine.after count)
    rw [h count (Nat.lt_succ_self count), ← after_succ] at hlast
    exact (ih fun earlier hlt => h earlier (by omega)).trans hlast

/-! ## The next value -/

/-- A running machine below a limit halts within it one step later than its successor. -/
theorem haltsWithin_succ_iff {limit : UInt64} {count : ℕ} (hrun : machine.halted = false)
    (hbelow : machine.steps < limit) :
    machine.HaltsWithin limit (count + 1) ↔ machine.step.1.HaltsWithin limit count := by
  have hlt := UInt64.lt_iff_toNat_lt.mp hbelow
  have hsteps := toNat_steps_step hrun hbelow
  constructor
  · rintro ⟨hhalts, hcount⟩
    rw [add_comm count 1] at hhalts
    exact ⟨hhalts.later, by omega⟩
  · rintro ⟨⟨hruns, hhalt⟩, hcount⟩
    refine ⟨⟨runsFor_succ_step hrun hruns, ?_⟩, by omega⟩
    rw [after_succ_step]
    exact hhalt

/-- **Where the next value is found.** A value is yielded exactly if some step reports it, after
silence; and the machine is left directly after that step. -/
theorem next_eq_value_iff {value : Word} :
    machine.next = some (some value, later) ↔
      ∃ count, machine.SilentFor count ∧ (machine.after count).step.2.value? = some value ∧
        later = machine.after (count + 1) ∧ machine.steps.toNat + (count + 1) < 2 ^ 64 := by
  fun_induction next machine with
  | case1 machine hhalt =>
    -- no step of a halted machine reports anything
    refine ⟨fun h => by simp at h, ?_⟩
    rintro ⟨count, -, hvalue, -⟩
    rw [after_of_halted hhalt, value_step_of_halted hhalt] at hvalue
    contradiction
  | case2 machine hrun hbelow first hfirst =>
    have hlt : machine.steps.toNat < 2 ^ 64 - 1 := UInt64.lt_iff_toNat_lt.mp hbelow
    constructor
    · intro h
      obtain ⟨rfl, rfl⟩ : first = value ∧ machine.step.1 = later := by simpa using h
      exact ⟨0, silentFor_zero machine, hfirst, rfl, by omega⟩
    · rintro ⟨count, hsilent, hvalue, rfl, -⟩
      -- the first step is not silent, so it is the one
      cases count with
      | zero =>
        rw [after_zero, hfirst] at hvalue
        rw [hvalue]
        rfl
      | succ count =>
        rw [(silentFor_succ_iff.mp hsilent).1] at hfirst
        contradiction
  | case3 machine hrun hbelow hquiet ih =>
    have hsteps := toNat_steps_step (by simpa using hrun) hbelow
    rw [ih, hsteps]
    constructor
    · rintro ⟨count, hsilent, hvalue, rfl, hrange⟩
      rw [← after_succ_step] at hvalue
      exact ⟨count + 1, silentFor_succ_iff.mpr ⟨hquiet, hsilent⟩, hvalue,
        (after_succ_step machine (count + 1)).symm, by omega⟩
    · rintro ⟨count, hsilent, hvalue, rfl, hrange⟩
      cases count with
      | zero =>
        rw [after_zero, hquiet] at hvalue
        contradiction
      | succ count =>
        rw [after_succ_step] at hvalue
        exact ⟨count, (silentFor_succ_iff.mp hsilent).2, hvalue,
          after_succ_step machine (count + 1), by omega⟩
  | case4 machine hrun hstop =>
    -- the counter is at its end, so there is no step left to report a value
    have hge : 2 ^ 64 - 1 ≤ machine.steps.toNat :=
      UInt64.le_iff_toNat_le.mp (UInt64.not_lt.mp hstop)
    refine ⟨fun h => by simp at h, ?_⟩
    rintro ⟨count, -, -, -, hrange⟩
    omega

/-- **When there is no next value.** None is yielded exactly if the machine halts in silence; and it
is left halted. -/
theorem next_eq_halt_iff :
    machine.next = some (none, later) ↔
      ∃ count, machine.HaltsWithin lastStep count ∧ machine.SilentFor count ∧
        later = machine.after count := by
  fun_induction next machine with
  | case1 machine hhalt =>
    have hzero := haltsAt_zero_iff.mpr hhalt
    constructor
    · intro h
      obtain rfl : machine = later := by simpa using h
      exact ⟨0, ⟨hzero, Or.inl rfl⟩, silentFor_zero machine, rfl⟩
    · rintro ⟨count, -, -, rfl⟩
      rw [after_of_halted hhalt]
  | case2 machine hrun hbelow first hfirst =>
    refine ⟨fun h => by simp at h, ?_⟩
    rintro ⟨count, ⟨hhalts, -⟩, hsilent, -⟩
    cases count with
    | zero => exact absurd (haltsAt_zero_iff.mp hhalts) hrun
    | succ count =>
      rw [(silentFor_succ_iff.mp hsilent).1] at hfirst
      contradiction
  | case3 machine hrun hbelow hquiet ih =>
    have hstill : machine.halted = false := by simpa using hrun
    rw [ih]
    constructor
    · rintro ⟨count, hwithin, hsilent, rfl⟩
      exact ⟨count + 1, (haltsWithin_succ_iff hstill hbelow).mpr hwithin,
        silentFor_succ_iff.mpr ⟨hquiet, hsilent⟩, (after_succ_step machine count).symm⟩
    · rintro ⟨count, hwithin, hsilent, rfl⟩
      cases count with
      | zero => exact absurd (haltsAt_zero_iff.mp hwithin.1) hrun
      | succ count =>
        exact ⟨count, (haltsWithin_succ_iff hstill hbelow).mp hwithin,
          (silentFor_succ_iff.mp hsilent).2, after_succ_step machine count⟩
  | case4 machine hrun hstop =>
    have hge := UInt64.le_iff_toNat_le.mp (UInt64.not_lt.mp hstop)
    refine ⟨fun h => by simp at h, ?_⟩
    rintro ⟨count, ⟨hhalts, hcount⟩, -, -⟩
    -- only a halted machine passes the limit here
    obtain rfl : count = 0 := by omega
    exact absurd (haltsAt_zero_iff.mp hhalts) hrun

/-- **Asking for the next value** yields that value, if there is one. -/
theorem yields_of_next {value : Option Word} (h : machine.next = some (value, later)) :
    machine.Yields value.toList later := by
  cases value with
  | none =>
    obtain ⟨count, -, hsilent, rfl⟩ := next_eq_halt_iff.mp h
    exact hsilent.yields
  | some value =>
    obtain ⟨count, hsilent, hvalue, rfl, -⟩ := next_eq_value_iff.mp h
    have hlast := Yields.step (machine.after count)
    rw [hvalue, ← after_succ] at hlast
    exact hsilent.yields.trans hlast

/-- Once there is no next value, the machine has halted. -/
theorem halted_of_next (h : machine.next = some (none, later)) : later.halted = true := by
  obtain ⟨count, hwithin, -, rfl⟩ := next_eq_halt_iff.mp h
  exact hwithin.1.2

/-- A halted machine has no next value and is left as it is. -/
theorem next_of_halted (hhalt : machine.halted = true) : machine.next = some (none, machine) := by
  rw [next, dif_pos hhalt]

/-! ## Several values -/

/-- A machine **collects** values on its way to a later state: what it yields is appended to what
was taken before. -/
def Collects (machine : Machine) (taken all : Array Word) (later : Machine) : Prop :=
  ∃ values, all.toList = taken.toList ++ values ∧ machine.Yields values later

/-- A collection that is over at once. -/
theorem collects_of_yields_nil {taken : Array Word} (h : machine.Yields [] later) :
    machine.Collects taken taken later :=
  ⟨[], (List.append_nil _).symm, h⟩

/-- A collection that goes on after the next value. -/
theorem collects_of_next {middle : Machine} {taken all : Array Word} {value : Word}
    (hnext : machine.next = some (some value, middle))
    (h : middle.Collects (taken.push value) all later) : machine.Collects taken all later := by
  obtain ⟨values, hall, hyields⟩ := h
  refine ⟨value :: values, ?_, (yields_of_next hnext).trans hyields⟩
  rw [hall, Array.toList_push, List.append_assoc]
  rfl

theorem collects_of_takeInto {taken all : Array Word} {count : ℕ}
    (h : machine.takeInto taken count = some (all, later)) :
    machine.Collects taken all later := by
  induction count generalizing taken machine with
  | zero =>
    obtain ⟨rfl, rfl⟩ : taken = all ∧ machine = later := by simpa [takeInto] using h
    exact collects_of_yields_nil (Yields.refl machine)
  | succ count ih =>
    rw [takeInto] at h
    split at h
    · contradiction
    · next middle hnext =>
      obtain ⟨rfl, rfl⟩ : taken = all ∧ middle = later := by simpa using h
      exact collects_of_yields_nil (yields_of_next hnext)
    · next value middle hnext => exact collects_of_next hnext (ih h)

theorem collects_of_drainInto {taken all : Array Word}
    (h : machine.drainInto taken = some (all, later)) : machine.Collects taken all later := by
  fun_induction drainInto taken machine with
  | case1 => simp at h
  | case2 taken machine middle hnext =>
    obtain ⟨rfl, rfl⟩ : taken = all ∧ middle = later := by simpa using h
    exact collects_of_yields_nil (yields_of_next hnext)
  | case3 taken machine value middle hnext ih => exact collects_of_next hnext (ih h)

/-- What is collected from nothing is what is yielded. -/
theorem Collects.yields {all : Array Word} (h : machine.Collects #[] all later) :
    machine.Yields all.toList later := by
  obtain ⟨values, hall, hyields⟩ := h
  rw [hall]
  exact hyields

/-! ## Any mixture -/

/-- **Every call yields what it reports.** -/
theorem yields_of_perform {call : Pull} {values : List Word}
    (h : call.perform machine = some (values, later)) : machine.Yields values later := by
  cases call with
  | step =>
    obtain ⟨rfl, rfl⟩ : machine.step.2.value?.toList = values ∧ machine.step.1 = later := by
      simpa [Pull.perform] using h
    exact Yields.step machine
  | next =>
    obtain ⟨⟨value, _⟩, hnext, heq⟩ := Option.map_eq_some_iff.mp h
    obtain ⟨rfl, rfl⟩ := Prod.mk.inj heq
    exact yields_of_next hnext
  | take count =>
    obtain ⟨⟨taken, _⟩, htake, heq⟩ := Option.map_eq_some_iff.mp h
    obtain ⟨rfl, rfl⟩ := Prod.mk.inj heq
    exact (collects_of_takeInto htake).yields
  | drain =>
    obtain ⟨⟨drained, _⟩, hdrain, heq⟩ := Option.map_eq_some_iff.mp h
    obtain ⟨rfl, rfl⟩ := Prod.mk.inj heq
    exact (collects_of_drainInto hdrain).yields

/-- **Every sequence of calls yields what it reports.** -/
theorem yields_of_pull {calls : List Pull} {values : List Word}
    (h : machine.pull calls = some (values, later)) : machine.Yields values later := by
  induction calls generalizing machine values with
  | nil =>
    obtain ⟨rfl, rfl⟩ : [] = values ∧ machine = later := by simpa [pull] using h
    exact Yields.refl machine
  | cons first rest ih =>
    obtain ⟨⟨reported, middle⟩, hfirst, hrest⟩ := Option.bind_eq_some_iff.mp h
    obtain ⟨⟨more, _⟩, hpull, heq⟩ := Option.map_eq_some_iff.mp hrest
    obtain ⟨rfl, rfl⟩ := Prod.mk.inj heq
    exact (yields_of_perform hfirst).trans (ih hpull)

/-- A halted machine can be asked for its next value again and again. -/
theorem pull_replicate_next (hhalt : machine.halted = true) (again : ℕ) :
    machine.pull (List.replicate again .next) = some ([], machine) := by
  induction again with
  | zero => rfl
  | succ again ih =>
    rw [List.replicate_succ, pull, Pull.perform, next_of_halted hhalt]
    simp [ih]

/-- **Piecewise driving agrees with the run.** Whatever sequence of calls drives a machine, as long
as all of them return: what they report is what is appended to the output stream, the machine they
leave is one of the run, and it still comes to the outcome of the run, within any limit that allows
it. Asking for the next value stops directly after the first step that emits; it yields nothing
exactly if the machine halts in silence, and then for ever; and asking for no values does
nothing. -/
theorem pulls_agree_with_run (machine : Machine) :
    (∀ calls values later, machine.pull calls = some (values, later) →
      later.output.toList = machine.output.toList ++ values ∧
      (∃ count, later = machine.after count) ∧
      (∀ outcome, machine.run = some outcome → later.run = some outcome) ∧
      (∀ limit outcome, machine.runWithLimit limit = .ok outcome →
        later.runWithLimit limit = .ok outcome)) ∧
    (∀ value later, machine.next = some (some value, later) ↔
      ∃ count, (∀ earlier < count, (machine.after earlier).step.2.value? = none) ∧
        (machine.after count).step.2.value? = some value ∧
        later = machine.after (count + 1) ∧ machine.steps.toNat + (count + 1) < 2 ^ 64) ∧
    (∀ later, machine.next = some (none, later) ↔
      ∃ count, machine.HaltsAt count ∧
        (∀ earlier < count, (machine.after earlier).step.2.value? = none) ∧
        later = machine.after count ∧ (count = 0 ∨ machine.steps.toNat + count < 2 ^ 64)) ∧
    (∀ later, machine.next = some (none, later) →
      ∀ again, later.pull (List.replicate again .next) = some ([], later)) ∧
    machine.pull [.take 0] = some ([], machine) := by
  refine ⟨fun calls values later hpull => ?_, fun value later => next_eq_value_iff,
    fun later => ?_, fun later hnext => pull_replicate_next (halted_of_next hnext), rfl⟩
  · obtain ⟨⟨count, rfl⟩, houtput⟩ := yields_of_pull hpull
    exact ⟨houtput, ⟨count, rfl⟩, fun outcome hrun => run_after hrun count,
      fun limit outcome hrun => runWithLimit_after hrun count⟩
  · have hlast : lastStep.toNat = 2 ^ 64 - 1 := rfl
    rw [next_eq_halt_iff]
    constructor
    · rintro ⟨count, ⟨hhalts, hcount⟩, hsilent, rfl⟩
      exact ⟨count, hhalts, hsilent, rfl, by omega⟩
    · rintro ⟨count, hhalts, hsilent, rfl, hcount⟩
      exact ⟨count, ⟨hhalts, by omega⟩, hsilent, rfl⟩

/-- A loop that emits three times, driven by four kinds of calls: the last of them finds nothing
left, and the run from there has the outcome of the whole run. -/
theorem pulls_agree_with_run_mixed :
    let machine : Machine := { program := ⟨#[0, 1, 5, 4, 3, 0], rfl⟩, registers := { a := 7 } }
    let outcome : Outcome := { registers := { ip := 6 }, outputs := #[3, 1, 0], steps := 9 }
    machine.run = some outcome ∧
      ∃ later, machine.pull [.next, .step, .take 1, .drain, .next] = some ([3, 1, 0], later) ∧
        later.run = some outcome := by
  intro machine outcome
  have hrun : machine.run = some outcome := by decide +kernel
  have hpull : machine.pull [.next, .step, .take 1, .drain, .next]
      = some ([3, 1, 0], { program := ⟨#[0, 1, 5, 4, 3, 0], rfl⟩, registers := { ip := 6 },
                           output := #[3, 1, 0], steps := 9 }) := by decide +kernel
  exact ⟨hrun, _, hpull, ((pulls_agree_with_run machine).1 _ _ _ hpull).2.2.1 outcome hrun⟩

end Machine

end ThreeBit
