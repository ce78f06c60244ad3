import Mathlib
import ThreeBit.Proofs.Halting

/-! # The trace of a run

An observer of a run is told of every instruction, every emitted value and the halt. The same can be
found without a machine: from a program and a register file, by fetching at the pointer and
executing, again and again. This module says that the two agree, event by event, so a trace is a
complete record of its run that can be replayed.

* **`Program.replay`** — the register files of a replay, with the instructions (`Program.replayed`)
  and the values (`Program.emissions`) that go with them;
* **`Machine.account`** — the events of a number of instructions, read off the replay;
* **`Machine.events_after`** — one step tells its account, and the halt if it causes it;
* **`Machine.told_eq_account`** — so a run tells the accounts of its instructions and the halt at
  most once;
* **`Machine.trace_replays`** — what every observer of a run is told, and what a recording of it
  holds. -/

namespace ThreeBit

/-! ## Replays -/

namespace Program

variable (program : Program) (registers : Registers)

/-- The register file after a number of instructions of a **replay**: each is fetched at the pointer
of the file before it, and executed on that file. -/
def replay : ℕ → Registers
  | 0 => registers
  | count + 1 => ((program.feed (replay count).ip).execute (replay count)).registers

/-- The instruction with the given index in a replay. -/
def replayed (index : ℕ) : Instruction :=
  program.feed (program.replay registers index).ip

/-- The effect of the instruction with the given index in a replay. -/
def effect (index : ℕ) : Transition :=
  (program.replayed registers index).execute (program.replay registers index)

/-- The values **emitted** by the first instructions of a replay, in order. -/
def emissions (count : ℕ) : List Word :=
  (List.range count).filterMap fun index => (program.effect registers index).output

theorem emissions_succ (count : ℕ) :
    program.emissions registers (count + 1)
      = program.emissions registers count ++ (program.effect registers count).output.toList := by
  rw [emissions, emissions, List.range_succ, List.filterMap_append]
  cases hout : (program.effect registers count).output <;> simp [hout]

/-- Where there is an instruction to fetch, it is the one that is fed. -/
theorem feed_of_fetch {program : Program} {ip : UInt64} {instruction : Instruction}
    (hfetch : program.fetch ip = some instruction) : program.feed ip = instruction := by
  rw [feed, hfetch]
  rfl

end Program

namespace Machine

variable {machine : Machine} {limit : UInt64} {outcome : Outcome} {count : ℕ}

/-! ## The account of a replay -/

/-- The **account** of the instruction with the given index in the replay of a machine: the
instruction with the register file that it leaves, and after it the value that it emits, if any. -/
def accountOf (machine : Machine) (index : ℕ) : List Event :=
  .instruction (UInt64.ofNat (machine.steps.toNat + index))
      (machine.program.replayed machine.registers index)
      (machine.program.replay machine.registers (index + 1)) ::
    (machine.program.effect machine.registers index).output.toList.map
      (.output (machine.output.size + (machine.program.emissions machine.registers index).length))

/-- The accounts of the first instructions of a replay, in order. -/
def account (machine : Machine) (count : ℕ) : List Event :=
  (List.range count).flatMap machine.accountOf

/-- The halt of a replay after a number of instructions. -/
def haltAfter (machine : Machine) (count : ℕ) : Event :=
  .halt (UInt64.ofNat (machine.steps.toNat + count))
    (machine.program.replay machine.registers count)

theorem account_succ (machine : Machine) (count : ℕ) :
    machine.account (count + 1) = machine.account count ++ machine.accountOf count := by
  simp [account, List.range_succ]

/-! ## Machines along a replay -/

/-- The instruction that a running machine feeds on is the one it fetches. -/
theorem fetch_eq_feed_of_running (hrun : machine.halted = false) :
    machine.program.fetch machine.registers.ip
      = some (machine.program.feed machine.registers.ip) := by
  obtain ⟨instruction, hfetch⟩ := exists_fetch_of_running hrun
  rw [Program.feed_of_fetch hfetch, hfetch]

/-- **The registers of a run are those of the replay.** -/
theorem registers_after (hrun : machine.RunsFor count) :
    (machine.after count).registers = machine.program.replay machine.registers count := by
  induction count with
  | zero => rfl
  | succ count ih =>
    obtain ⟨hbefore, hlast⟩ := runsFor_succ_iff.mp hrun
    have hfetch := fetch_eq_feed_of_running hlast
    rw [program_after, ih hbefore] at hfetch
    rw [after_succ, step_of_fetch (by rw [program_after, ih hbefore, hfetch]), ih hbefore]
    rfl

/-- The instructions of a replay are there to be fetched, as long as the machine runs. -/
theorem fetch_replay (hrun : machine.RunsFor (count + 1)) :
    machine.program.fetch (machine.program.replay machine.registers count).ip
      = some (machine.program.replayed machine.registers count) := by
  obtain ⟨hbefore, hlast⟩ := runsFor_succ_iff.mp hrun
  have hfetch := fetch_eq_feed_of_running hlast
  rwa [program_after, registers_after hbefore] at hfetch

/-- A step of a run, in terms of the replay. -/
theorem step_after (hrun : machine.RunsFor (count + 1)) :
    (machine.after count).step.1
      = (machine.after count).apply (machine.program.effect machine.registers count) := by
  have hregisters := registers_after (runsFor_succ_iff.mp hrun).1
  rw [step_of_fetch (by rw [program_after, hregisters, fetch_replay hrun]), hregisters]
  rfl

/-- **The values of a run are those of the replay**, behind what was emitted before. -/
theorem output_after_eq_emissions (hrun : machine.RunsFor count) :
    (machine.after count).output.toList
      = machine.output.toList ++ machine.program.emissions machine.registers count := by
  induction count with
  | zero => simp [Program.emissions]
  | succ count ih =>
    rw [after_succ, step_after hrun, Program.emissions_succ, ← List.append_assoc,
      ← ih (runsFor_succ_iff.mp hrun).1, output_apply]

/-- The counter of a run, as a number. -/
theorem steps_after_eq_ofNat (hrun : machine.RunsFor count) :
    (machine.after count).steps = UInt64.ofNat (machine.steps.toNat + count) := by
  rw [steps_after hrun, UInt64.ofNat_add, UInt64.ofNat_toNat]

/-! ## What is told -/

/-- What an observer is told of a step, in one line: the instruction, the value, the halt. -/
theorem events_of_fetch {instruction : Instruction}
    (hfetch : machine.program.fetch machine.registers.ip = some instruction) :
    machine.events =
      .instruction machine.steps instruction (instruction.execute machine.registers).registers ::
        (instruction.execute machine.registers).output.toList.map (.output machine.output.size) ++
      if machine.program.isPast (instruction.execute machine.registers).registers.ip then
        [.halt (machine.steps + 1) (instruction.execute machine.registers).registers] else [] := by
  rw [State.events, State.fetch_eq_some_iff.mpr ⟨running_of_fetch hfetch, hfetch⟩]
  cases hout : (instruction.execute machine.registers).output <;> simp [hout]

/-- **One step of a run tells its account**, and the halt if it causes it. -/
theorem events_after (hrun : machine.RunsFor (count + 1)) :
    (machine.after count).events = machine.accountOf count ++
      if (machine.after (count + 1)).halted then [machine.haltAfter (count + 1)] else [] := by
  have hbefore := (runsFor_succ_iff.mp hrun).1
  have hregisters := registers_after hbefore
  have hsize : (machine.after count).output.size = machine.output.size
      + (machine.program.emissions machine.registers count).length := by
    rw [← Array.length_toList, output_after_eq_emissions hbefore, List.length_append,
      Array.length_toList]
  have hsteps : (machine.after count).steps + 1
      = UInt64.ofNat (machine.steps.toNat + (count + 1)) := by
    rw [steps_after_eq_ofNat hbefore, ← add_assoc, UInt64.ofNat_add _ 1]
    rfl
  rw [events_of_fetch (by rw [program_after, hregisters, fetch_replay hrun]), hregisters, hsize,
    hsteps, steps_after_eq_ofNat hbefore, (machine.after (count + 1)).coherent, program_after,
    program_after, registers_after hrun]
  rfl

/-- All that is **told** on the first steps of a machine, in order. -/
def told (machine : Machine) (count : ℕ) : List Event :=
  (List.range count).flatMap fun earlier => (machine.after earlier).events

theorem told_succ (machine : Machine) (count : ℕ) :
    machine.told (count + 1) = machine.told count ++ (machine.after count).events := by
  simp [told, List.range_succ]

/-- **A run tells the accounts of its instructions**, and then the halt, if it comes to it at all.
No step before the last can tell a halt, since the machine still runs after it. -/
theorem told_eq_account (hrun : machine.RunsFor count) :
    machine.told count = machine.account count ++
      if machine.halted = false ∧ (machine.after count).halted = true then
        [machine.haltAfter count] else [] := by
  induction count with
  | zero => cases hhalt : machine.halted <;> simp [told, account, hhalt]
  | succ count ih =>
    obtain ⟨hbefore, hlast⟩ := runsFor_succ_iff.mp hrun
    have hstart : machine.halted = false := hrun 0 (Nat.succ_pos count)
    rw [told_succ, ih hbefore, events_after hrun, account_succ]
    simp [hlast, hstart]

/-! ## The stepping loop -/

/-- The stepping loop on a machine that runs below the limit: one step, which is told. -/
theorem advance_of_running {σ : Type} (observe : σ → Event → σ) (state : σ)
    (hrun : machine.halted = false) (hbelow : machine.steps < limit) :
    machine.advance observe limit state
      = machine.step.1.advance observe limit (machine.events.foldl observe state) := by
  rw [advance, dif_pos ⟨hrun, hbelow⟩]

/-- **The loop can be entered at any later step**, if its observer is first told what has happened
so far. -/
theorem advance_eq_advance_after {σ : Type} (observe : σ → Event → σ) (state : σ)
    (hrun : machine.RunsFor count) (hle : count ≤ limit.toNat - machine.steps.toNat) :
    machine.advance observe limit state
      = (machine.after count).advance observe limit ((machine.told count).foldl observe state) := by
  induction count with
  | zero => rfl
  | succ count ih =>
    obtain ⟨hbefore, hlast⟩ := runsFor_succ_iff.mp hrun
    have hbound := limit.toNat_lt
    have hbelow : (machine.after count).steps < limit := by
      rw [UInt64.lt_iff_toNat_lt, toNat_steps_after hbefore (by omega)]
      omega
    rw [ih hbefore (by omega), advance_of_running _ _ hlast hbelow, after_succ, told_succ,
      List.foldl_append]

/-- **What the loop does, for every observer.** It stops after the same number of steps whoever
looks on, and tells what happens on them. -/
theorem exists_advance_told (machine : Machine) (limit : UInt64) :
    ∃ count ≤ limit.toNat - machine.steps.toNat, machine.RunsFor count ∧
      ((machine.after count).halted = false → count = limit.toNat - machine.steps.toNat) ∧
      ∀ {σ : Type} (observe : σ → Event → σ) (state : σ),
        machine.advance observe limit state
          = ((machine.told count).foldl observe state, machine.after count) := by
  obtain ⟨count, -, hrun, hle, hstop⟩ := exists_advance_eq_after (fun _ _ => ()) limit () machine
  refine ⟨count, hle, hrun, fun hhalt => ?_, fun observe state => ?_⟩
  · -- a loop that gives up has counted up to the limit
    have hbound := limit.toNat_lt
    have hsteps := machine.steps.toNat_lt
    have hlimit := UInt64.le_iff_toNat_le.mp (hstop hhalt)
    rcases Nat.eq_zero_or_pos count with rfl | hpos
    · rw [after_zero] at hlimit
      omega
    · rw [toNat_steps_after hrun (by omega)] at hlimit
      omega
  · rw [advance_eq_advance_after observe state hrun hle, advance, dif_neg]
    rintro ⟨hhalt, hbelow⟩
    exact UInt64.not_lt.mpr (hstop hhalt) hbelow

/-! ## Runs -/

/-- A machine **replays** a number of instructions when each of them is there to be fetched, and all
can be counted. -/
structure Replays (machine : Machine) (count : ℕ) : Prop where
  /-- Every instruction of the replay is one of the program. -/
  fetched : ∀ index < count,
    machine.program.fetch (machine.program.replay machine.registers index).ip
      = some (machine.program.replayed machine.registers index)
  /-- The counter does not wrap around. -/
  counted : machine.steps.toNat + count < 2 ^ 64

/-- A machine **replays to** an outcome when a number of instructions lead past the end of the
program, and to the registers, the values and the count of the outcome. -/
structure ReplaysTo (machine : Machine) (count : ℕ) (outcome : Outcome) : Prop
    extends Replays machine count where
  /-- The pointer of the last register file has left the program. -/
  ended : machine.program.isPast (machine.program.replay machine.registers count).ip = true
  /-- The last register file is that of the outcome. -/
  registers : outcome.registers = machine.program.replay machine.registers count
  /-- The values of the replay come after those emitted before. -/
  outputs : outcome.outputs.toList
    = machine.output.toList ++ machine.program.emissions machine.registers count
  /-- The instructions of the replay come on top of those counted before. -/
  steps : outcome.steps.toNat = machine.steps.toNat + count

/-- A run can be replayed. -/
theorem RunsFor.replays (hrun : machine.RunsFor count)
    (hle : count ≤ limit.toNat - machine.steps.toNat) : machine.Replays count where
  fetched index hlt := fetch_replay (hrun.mono hlt)
  counted := by
    have hbound := limit.toNat_lt
    have hsteps := machine.steps.toNat_lt
    omega

/-- A run to the halt can be replayed, to its outcome. -/
theorem HaltsAt.replaysTo (hhalts : machine.HaltsAt count)
    (hle : count ≤ limit.toNat - machine.steps.toNat) :
    machine.ReplaysTo count (machine.after count).outcome where
  toReplays := hhalts.1.replays hle
  ended := by
    have hhalt := hhalts.2
    rwa [(machine.after count).coherent, program_after, registers_after hhalts.1] at hhalt
  registers := registers_after hhalts.1
  outputs := output_after_eq_emissions hhalts.1
  steps := toNat_steps_after hhalts.1 (hhalts.1.replays hle).counted

/-- **The trace of a loop that reaches the halt**: the accounts of its instructions, and after them
the halt, unless the machine had halted before the run. -/
theorem exists_trace_of_ok (hok : machine.runWithLimit limit = .ok outcome) :
    ∃ count, machine.ReplaysTo count outcome ∧
      ∀ {σ : Type} (observe : σ → Event → σ) (state : σ),
        (machine.advance observe limit state).1
          = (machine.account count ++
              if machine.halted then [] else [machine.haltAfter count]).foldl observe state := by
  obtain ⟨count, hle, hrun, -, htold⟩ := exists_advance_told machine limit
  rw [runWithLimit_eq_elim, htold, outcome?] at hok
  cases hend : (machine.after count).halted with
  | false => simp [hend] at hok
  | true =>
    rw [hend] at hok
    obtain rfl := Except.ok.inj hok
    refine ⟨count, HaltsAt.replaysTo ⟨hrun, hend⟩ hle, fun observe state => ?_⟩
    rw [htold, told_eq_account hrun]
    cases machine.halted <;> simp [hend]

/-- **The trace of a loop that gives up**: the accounts of as many instructions as the limit allows,
and no halt. -/
theorem trace_of_error {error : Machine.Error}
    (herror : machine.runWithLimit limit = .error error) :
    error = .stepLimitExceeded limit ∧ machine.Replays (limit.toNat - machine.steps.toNat) ∧
      ∀ {σ : Type} (observe : σ → Event → σ) (state : σ),
        (machine.advance observe limit state).1
          = (machine.account (limit.toNat - machine.steps.toNat)).foldl observe state := by
  obtain ⟨count, hle, hrun, hstop, htold⟩ := exists_advance_told machine limit
  rw [runWithLimit_eq_elim, htold, outcome?] at herror
  cases hend : (machine.after count).halted with
  | true => simp [hend] at herror
  | false =>
    obtain rfl := hstop hend
    refine ⟨?_, hrun.replays hle, fun observe state => ?_⟩
    · rw [hend] at herror
      exact (Except.error.inj herror).symm
    · rw [htold, told_eq_account hrun]
      simp [hend]

/-- A replay to an outcome is empty exactly if the machine had halted before. -/
theorem ReplaysTo.count_eq_zero_iff (h : machine.ReplaysTo count outcome) :
    count = 0 ↔ machine.halted = true := by
  constructor
  · rintro rfl
    rw [machine.coherent]
    exact h.ended
  · intro hhalt
    by_contra hne
    have hfetch := h.fetched 0 (Nat.pos_of_ne_zero hne)
    rw [Program.replay, (fetch_eq_none_iff_halted machine).mpr hhalt] at hfetch
    cases hfetch

end Machine

/-! ## Recordings -/

namespace Recording

/-- **A recording holds an outcome** when it has its values, one instruction for each of its steps,
its registers last, and the halt after its steps, unless there was no step at all. -/
structure Holds (recording : Recording) (outcome : Outcome) : Prop where
  /-- The values are those of the outcome. -/
  outputs : recording.outputs = outcome.outputs
  /-- There are as many instructions as steps. -/
  size : recording.instructions.size = outcome.steps.toNat
  /-- The register file recorded last is that of the outcome. -/
  last : ∀ instruction registers,
    recording.instructions.back? = some (instruction, registers) → registers = outcome.registers
  /-- The halt is recorded if there was a step to cause it. -/
  haltedAfter : recording.haltedAfter = if outcome.steps = 0 then none else some outcome.steps

/-- **The recording of an account**: the instructions with the register files of the replay, and its
values. -/
theorem foldl_record_account (machine : Machine) (count : ℕ) :
    (machine.account count).foldl record {} =
      { instructions := ((List.range count).map fun index =>
          (machine.program.replayed machine.registers index,
            machine.program.replay machine.registers (index + 1))).toArray
        outputs := (machine.program.emissions machine.registers count).toArray } := by
  induction count with
  | zero => rfl
  | succ count ih =>
    rw [Machine.account_succ, List.foldl_append, ih, Program.emissions_succ, Machine.accountOf]
    cases (machine.program.effect machine.registers count).output <;>
      simp [record, List.range_succ]

/-- The recording of a replay from a fresh machine holds the outcome. -/
theorem holds_of_replaysTo {machine : Machine} {count : ℕ} {outcome : Outcome}
    (h : machine.ReplaysTo count outcome) (houtput : machine.output = #[])
    (hsteps : machine.steps = 0) :
    ((machine.account count ++
      if machine.halted then [] else [machine.haltAfter count]).foldl record {}).Holds outcome := by
  have hcount : outcome.steps.toNat = count := by
    rw [h.steps, hsteps]
    exact Nat.zero_add count
  have hvalues : (machine.program.emissions machine.registers count).toArray = outcome.outputs := by
    have houtputs := h.outputs
    rw [houtput, List.nil_append] at houtputs
    rw [← houtputs]
  have hzero : outcome.steps = 0 ↔ machine.halted = true := by
    rw [← h.count_eq_zero_iff, ← hcount, ← UInt64.toNat_inj]
    rfl
  rw [List.foldl_append, foldl_record_account]
  have hlast : ∀ instruction registers, ((List.range count).map fun index =>
      (machine.program.replayed machine.registers index,
        machine.program.replay machine.registers (index + 1))).toArray.back?
          = some (instruction, registers) → registers = outcome.registers := by
    intro instruction registers hback
    cases count with
    | zero => simp at hback
    | succ count =>
      rw [List.range_succ, List.map_append, List.map_singleton, List.back?_toArray,
        List.getLast?_concat] at hback
      rw [h.registers]
      exact (Prod.mk.inj (Option.some.inj hback)).2.symm
  cases hhalt : machine.halted with
  | true => exact ⟨hvalues, by simp [hcount], hlast, by simp [hzero.mpr hhalt]⟩
  | false =>
    have hne : outcome.steps ≠ 0 := by rw [Ne, hzero, hhalt]; exact Bool.false_ne_true
    have hafter : UInt64.ofNat (machine.steps.toNat + count) = outcome.steps := by
      rw [← h.steps, UInt64.ofNat_toNat]
    refine ⟨hvalues, by simp [record, Machine.haltAfter, hcount], hlast, ?_⟩
    simp [record, Machine.haltAfter, hne, hafter]

end Recording

namespace Machine

/-! ## The record of a run -/

/-- **A trace is a complete record of its run.** An observer of a bounded run that reaches the halt
is told, in order, the account of every instruction of the replay from the registers of the machine,
and then the halt, once, unless the machine had halted before the run. If the run fails at its
limit, the observer is told the accounts of the instructions that were left below the limit, and no
halt. An unbounded run that comes to an outcome tells what a bounded one does, and no observer
changes what a run comes to. So a recording of a run of a fresh machine holds its outcome; the halt
is not among what is recorded of a run that fails. -/
theorem trace_replays (machine : Machine) (limit : UInt64) :
    (∀ outcome, machine.runWithLimit limit = .ok outcome →
      ∃ count, machine.ReplaysTo count outcome ∧
        ∀ (σ : Type) (observe : σ → Event → σ) (state : σ),
          machine.runWithLimitTraced observe limit state
            = ((machine.account count ++
                if machine.halted then [] else [machine.haltAfter count]).foldl observe state,
              .ok outcome)) ∧
    (∀ error, machine.runWithLimit limit = .error error →
      let count := limit.toNat - machine.steps.toNat
      error = .stepLimitExceeded limit ∧ machine.Replays count ∧
        ∀ (σ : Type) (observe : σ → Event → σ) (state : σ),
          machine.runWithLimitTraced observe limit state
            = ((machine.account count).foldl observe state, .error error)) ∧
    (∀ outcome, machine.run = some outcome →
      ∃ count, machine.ReplaysTo count outcome ∧
        ∀ (σ : Type) (observe : σ → Event → σ) (state : σ),
          machine.runTraced observe state
            = ((machine.account count ++
                if machine.halted then [] else [machine.haltAfter count]).foldl observe state,
              some outcome)) ∧
    (machine.output = #[] → machine.steps = 0 →
      let recording := (machine.runWithLimitTraced Recording.record limit {}).1
      (∀ outcome, machine.runWithLimit limit = .ok outcome → recording.Holds outcome) ∧
        (∀ error, machine.runWithLimit limit = .error error → recording.haltedAfter = none) ∧
        ∀ outcome, machine.run = some outcome →
          (machine.runTraced Recording.record {}).1.Holds outcome) := by
  refine ⟨fun outcome hok => ?_, fun error herror => ?_, fun outcome hsome => ?_,
    fun houtput hsteps => ⟨fun outcome hok => ?_, fun error herror => ?_, fun outcome hsome => ?_⟩⟩
  · obtain ⟨count, hreplays, htrace⟩ := exists_trace_of_ok hok
    exact ⟨count, hreplays, fun σ observe state =>
      Prod.ext (htrace observe state)
        ((runWithLimitTraced_snd observe limit state machine).trans hok)⟩
  · obtain ⟨hlimit, hreplays, htrace⟩ := trace_of_error herror
    exact ⟨hlimit, hreplays, fun σ observe state =>
      Prod.ext (htrace observe state)
        ((runWithLimitTraced_snd observe limit state machine).trans herror)⟩
  · obtain ⟨count, hreplays, htrace⟩ := exists_trace_of_ok (run_eq_some_iff_runWithLimit.mp hsome)
    exact ⟨count, hreplays, fun σ observe state =>
      Prod.ext (htrace observe state) ((runTraced_snd observe state machine).trans hsome)⟩
  · obtain ⟨count, hreplays, htrace⟩ := exists_trace_of_ok hok
    show (machine.advance Recording.record limit {}).1.Holds outcome
    rw [htrace]
    exact Recording.holds_of_replaysTo hreplays houtput hsteps
  · show (machine.advance Recording.record limit {}).1.haltedAfter = none
    rw [(trace_of_error herror).2.2, Recording.foldl_record_account]
  · obtain ⟨count, hreplays, htrace⟩ := exists_trace_of_ok (run_eq_some_iff_runWithLimit.mp hsome)
    show (machine.advance Recording.record lastStep {}).1.Holds outcome
    rw [htrace]
    exact Recording.holds_of_replaysTo hreplays houtput hsteps

/-- The last of two instructions emits a value and halts the machine. Entered after the first, the
run tells the second with its index, the value and the halt; from the start, it is recorded whole,
or without a halt if it is cut after the first. -/
theorem trace_replays_last_output :
    let start : Machine := { program := ⟨#[0, 1, 5, 4], rfl⟩, registers := { a := 3 } }
    let machine := start.after 1
    let outcome : Outcome := { registers := { a := 1, ip := 4 }, outputs := #[1], steps := 2 }
    machine.runWithLimit 2 = .ok outcome ∧
      machine.runWithLimitTraced (fun events event => events ++ [event]) 2 [] =
        ([.instruction 1 { opcode := 5, operand := 4 } { a := 1, ip := 4 }, .output 0 1,
          .halt 2 { a := 1, ip := 4 }], .ok outcome) ∧
      (start.runWithLimitTraced Recording.record 2 {}).1.Holds outcome ∧
      (start.runWithLimitTraced Recording.record 1 {}).1.haltedAfter = none := by
  intro start machine outcome
  have hok : machine.runWithLimit 2 = .ok outcome := by decide +kernel
  have hstart : start.runWithLimit 2 = .ok outcome := by decide +kernel
  have hcut : start.runWithLimit 1 = .error (.stepLimitExceeded 1) := by decide +kernel
  obtain ⟨count, hreplays, htrace⟩ := (trace_replays machine 2).1 outcome hok
  obtain rfl : count = 1 := by
    have hsteps : 2 = 1 + count := hreplays.steps
    omega
  exact ⟨hok, (htrace _ _ _).trans (Prod.ext (by decide +kernel) rfl),
    ((trace_replays start 2).2.2.2 rfl rfl).1 outcome hstart,
    ((trace_replays start 1).2.2.2 rfl rfl).2.1 _ hcut⟩

end Machine

end ThreeBit
