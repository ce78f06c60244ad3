import Mathlib
import ThreeBit.Device.Recorded
import ThreeBit.Proofs.Steps
import ThreeBit.Proofs.Success
import ThreeBit.Proofs.Verdict

/-! # The calls of a check

A device is more than what it reports: a call too many changes it, whether or not the verdict shows
it. This module says which calls a check makes on an arbitrary device, in which order, and how many.

* **`Device.LooksLike`** — two devices that show the same statuses are indistinguishable to a check
  (`Device.LooksLike.verdict`), and a recorder does not change the statuses
  (`Device.looksLike_recorded`);
* **`Device.ClockedFor`** — how often a check clocks a device: while it runs, follows the reference
  and has budget left (`Device.Verdict.clockedFor`);
* **`Device.exists_drive_counted`** — the loop numbers its clock edges from one on, without a gap;
* **`Device.check_calls`** — all calls of a check. -/

namespace ThreeBit

/-- A run leaves nothing with an observer that ignores every event. -/
theorem Machine.advance_fst_of_ignored {σ : Type} {observe : σ → Event → σ}
    (h : ∀ state event, observe state event = state) (limit : UInt64) (state : σ)
    (machine : Machine) : (machine.advance observe limit state).1 = state := by
  fun_induction advance observe limit state machine with
  | case1 state machine _ ih => rw [ih, List.foldl_fixed' (h state)]
  | case2 => rfl

/-- The number that an entry gives to a clock edge, if it reports one. -/
def LogEntry.cycle? : LogEntry → Option UInt64
  | clocked cycle _ _ => some cycle
  | _ => none

namespace Device

variable {σ τ : Type} {device : Device σ} {other : Device τ} {program : Program}
  {sample : σ × Status} {sample' : τ × Status} {wanted : Array Word} {maxCycles : UInt64}

/-! ## Devices that look alike -/

/-- Two devices **look alike** from two samples on when they show the same statuses, cycle by
cycle. -/
def LooksLike (device : Device σ) (other : Device τ) (program : Program) (sample : σ × Status)
    (sample' : τ × Status) : Prop :=
  ∀ count, (other.cycles program sample' count).2 = (device.cycles program sample count).2

/-- Devices that look alike emit the same values. -/
theorem LooksLike.emitted (h : LooksLike device other program sample sample') (count : ℕ) :
    other.emitted program sample' count = device.emitted program sample count := by
  induction count with
  | zero => rfl
  | succ count ih => rw [emitted_succ, emitted_succ, ih, h]

/-- Devices that look alike run for the same numbers of cycles. -/
theorem LooksLike.runsFor (h : LooksLike device other program sample sample') {count : ℕ}
    (hrun : device.RunsFor program sample count) : other.RunsFor program sample' count := by
  intro earlier hlt
  rw [h]
  exact hrun earlier hlt

/-- Devices that look alike halt on the same cycle. -/
theorem LooksLike.haltsAt (h : LooksLike device other program sample sample') {count : ℕ}
    (hhalt : device.HaltsAt program sample count) : other.HaltsAt program sample' count := by
  refine ⟨h.runsFor hhalt.1, ?_⟩
  rw [h]
  exact hhalt.2

/-- **A check sees statuses only.** Devices that look alike get the same verdict, on the same
cycle. -/
theorem LooksLike.verdict (h : LooksLike device other program sample sample') {count : ℕ}
    {result : Except Failure UInt64}
    (hverdict : device.Verdict program sample wanted maxCycles count result) :
    other.Verdict program sample' wanted maxCycles count result := by
  cases hverdict with
  | matched hhalt hle hall => exact .matched (h.haltsAt hhalt) hle (by rw [h.emitted, hall])
  | missing hhalt hle hpre hpart =>
    rw [← h.emitted] at hpre hpart ⊢
    exact .missing (h.haltsAt hhalt) hle hpre hpart
  | mismatched hrun hle hvalue hseen hget hne =>
    rw [← h] at hvalue
    rw [← h.emitted] at hseen
    exact .mismatched (h.runsFor hrun) hle hvalue hseen hget hne
  | unexpected hrun hle hvalue hall =>
    rw [← h] at hvalue
    rw [← h.emitted] at hall
    exact .unexpected (h.runsFor hrun) hle hvalue hall
  | timeout hrun hpre =>
    rw [← h.emitted] at hpre
    exact .timeout (h.runsFor hrun) hpre

/-! ## Under a recorder -/

/-- The calls of a number of cycles: each is a clock edge with the instruction at the offset
reported directly before it. -/
def clockCalls (device : Device σ) (program : Program) (sample : σ × Status) (count : ℕ) :
    List Call :=
  (List.range count).map fun cycle =>
    .clock (program.feed (device.cycles program sample cycle).2.ip)

/-- **A recorder only records.** Behind it the device goes through the same cycles, and the record
grows by their calls. -/
theorem recorded_cycles (device : Device σ) (program : Program) (state : Recorded σ)
    (status : Status) (count : ℕ) :
    let recorded := device.recorded.cycles program (state, status) count
    (recorded.1.inner, recorded.2) = device.cycles program (state.inner, status) count ∧
      recorded.1.calls.toList
        = state.calls.toList ++ device.clockCalls program (state.inner, status) count := by
  induction count with
  | zero => exact ⟨rfl, (List.append_nil _).symm⟩
  | succ count ih =>
    obtain ⟨hinner, hcalls⟩ := ih
    simp only [cycles_succ] at hinner hcalls ⊢
    rw [← hinner]
    refine ⟨rfl, ?_⟩
    rw [clockCalls, List.range_succ, List.map_append, ← List.append_assoc, ← clockCalls, ← hcalls,
      List.map_singleton, ← hinner]
    exact Array.toList_push

/-- The record tells how many cycles there have been. -/
theorem eq_of_recorded_cycles_eq {state : Recorded σ} {status : Status} {first second : ℕ}
    (h : (device.recorded.cycles program (state, status) first).1
      = (device.recorded.cycles program (state, status) second).1) : first = second := by
  have hsize : ∀ count, (device.recorded.cycles program (state, status) count).1.calls.size
      = state.calls.size + count := by
    intro count
    rw [← Array.length_toList, (recorded_cycles device program state status count).2]
    simp [clockCalls]
  have hfirst := hsize first
  rw [h, hsize second] at hfirst
  omega

/-- A recorder does not show. -/
theorem looksLike_recorded (device : Device σ) (program : Program) (state : Recorded σ)
    (status : Status) :
    LooksLike device device.recorded program (state.inner, status) (state, status) :=
  fun count => congrArg Prod.snd (recorded_cycles device program state status count).1

/-! ## How often a device is clocked -/

/-- A check **clocks a device for** a number of cycles: every status before the last cycle leaves it
running, with nothing wrong in what it has emitted so far, and within the budget; and the cycles end
only where one of these fails. -/
structure ClockedFor (device : Device σ) (program : Program) (sample : σ × Status)
    (wanted : Array Word) (maxCycles : UInt64) (count : ℕ) : Prop where
  /-- The budget is kept. -/
  within : count ≤ maxCycles.toNat
  /-- No clock edge comes after a status with the halt flag. -/
  running : ∀ cycle < count, (device.cycles program sample cycle).2.flags.halted = false
  /-- No clock edge comes after a value that differs from the reference. -/
  following : ∀ cycle < count, device.emitted program sample cycle <+: wanted.toList
  /-- The last status has the halt flag, or a value that differs, or uses up the budget. -/
  stopped : (device.cycles program sample count).2.flags.halted = true ∨
    ¬device.emitted program sample count <+: wanted.toList ∨ count = maxCycles.toNat

/-- Where a stream has been followed up to some cycle, it was followed on every cycle before. -/
theorem following_of_follows {count : ℕ}
    (h : device.emitted program sample count <+: wanted.toList) :
    ∀ cycle < count + 1, device.emitted program sample cycle <+: wanted.toList :=
  fun _ hlt => (emitted_mono (Nat.le_of_lt_succ hlt)).trans h

/-- **The cycle of a verdict is the number of clock edges.** -/
theorem Verdict.clockedFor {count : ℕ} {result : Except Failure UInt64}
    (h : device.Verdict program sample wanted maxCycles count result) :
    device.ClockedFor program sample wanted maxCycles count := by
  cases h with
  | matched hhalt hle hall =>
    have hfollow := following_of_follows (by rw [hall])
    exact ⟨hle, hhalt.1, fun cycle hlt => hfollow cycle (by omega), Or.inl hhalt.2⟩
  | missing hhalt hle hpre _ =>
    have hfollow := following_of_follows hpre
    exact ⟨hle, hhalt.1, fun cycle hlt => hfollow cycle (by omega), Or.inl hhalt.2⟩
  | @mismatched count index expected actual hrun hle hvalue hseen hget hne =>
    refine ⟨hle, hrun, following_of_follows (hseen ▸ List.take_prefix _ _), ?_⟩
    refine Or.inr (Or.inl fun hpre => hne ?_)
    -- the emitted values would have the emitted one where the stream has another
    obtain ⟨hlt, -⟩ := List.getElem?_eq_some_iff.mp hget
    obtain ⟨rest, hrest⟩ := hpre
    rw [emitted_succ, hvalue, hseen] at hrest
    rw [← hrest, List.append_assoc, List.getElem?_append_right (List.length_take_le _ _),
      List.length_take_of_le (le_of_lt hlt), Nat.sub_self] at hget
    exact (Option.some.inj hget).symm
  | unexpected hrun hle hvalue hall =>
    refine ⟨hle, hrun, following_of_follows (by rw [hall]), ?_⟩
    refine Or.inr (Or.inl fun hpre => ?_)
    -- the stream would be longer than itself
    have hlength := hpre.length_le
    rw [emitted_succ, hvalue, hall] at hlength
    simp at hlength
  | timeout hrun hpre =>
    exact ⟨le_rfl, fun cycle hlt => hrun cycle (by omega),
      fun cycle hlt => following_of_follows hpre cycle (by omega), Or.inr (Or.inr rfl)⟩

/-! ## The cycle counter

The log gives every clock edge the number that the counter of the loop has then. -/

/-- The log that keeps the numbers of the clock edges. -/
def countCycles (numbers : List UInt64) (entry : LogEntry) : List UInt64 :=
  numbers ++ entry.cycle?.toList

/-- **The counter is exact.** However the loop is entered, it numbers the clock edges one after the
other, and gives as many numbers as it makes cycles. -/
theorem exists_drive_counted (device : Device σ) (program : Program) (wanted : Array Word)
    (maxCycles : UInt64) (numbers : List UInt64) (run : Drive σ) :
    let driven := device.drive countCycles program wanted maxCycles numbers run
    ∃ clocks, driven.1.map UInt64.toNat
        = numbers.map UInt64.toNat ++ List.range' (run.cycles.toNat + 1) clocks ∧
      driven.2.1 = (device.cycles program (run.device, run.status) clocks).1 := by
  fun_induction drive device countCycles program wanted maxCycles numbers run with
  | case1 numbers run =>
    exact ⟨0, by simp [countCycles, LogEntry.cycle?], rfl⟩
  | case2 numbers run => exact ⟨0, by simp, rfl⟩
  | case3 numbers run _ hbelow instruction after cycles numbers' seen _ ih =>
    obtain ⟨clocks, hnumbers, hdevice⟩ := ih
    have hcycles : cycles.toNat = run.cycles.toNat + 1 := toNat_add_one_of_lt hbelow
    refine ⟨clocks + 1, ?_, ?_⟩
    · rw [hnumbers, List.range'_succ, ← hcycles]
      simp [numbers', countCycles, LogEntry.cycle?]
    · rw [hdevice, cycles_succ_cycle]
      rfl
  | case4 numbers run _ hbelow instruction after cycles numbers' =>
    have hcycles : cycles.toNat = run.cycles.toNat + 1 := toNat_add_one_of_lt hbelow
    refine ⟨1, ?_, rfl⟩
    simp [numbers', countCycles, LogEntry.cycle?, hcycles]
  | case5 numbers run => exact ⟨0, by simp, rfl⟩

/-- The reference run clocks nothing, so it leaves no numbers. -/
theorem expectedLogged_countCycles (config : Config) (listing : Listing) (numbers : List UInt64) :
    config.expectedLogged countCycles listing numbers = (numbers, config.expected listing) := by
  have hignored : ∀ numbers event, countCycles numbers (.event event) = numbers := by
    intro numbers event
    simp [countCycles, LogEntry.cycle?]
  refine Prod.ext ?_ ?_
  · unfold Config.expectedLogged Machine.runLogged
    cases config.checkWidths listing with
    | error failure => rfl
    | ok _ =>
      simp only [Machine.advance_fst_of_ignored hignored]
      cases (listing.machine.advance _ _ _).2.outcome? <;>
        simp [countCycles, LogEntry.cycle?, Machine.loadedEntry]
  · rw [Config.expected, Config.expectedLogged_snd, Config.expectedLogged_snd]

/-! ## All calls -/

/-- A match is reported with the number of its cycles. -/
theorem Verdict.toNat_of_ok {count : ℕ} {cycles : UInt64}
    (h : device.Verdict program sample wanted maxCycles count (.ok cycles)) :
    cycles.toNat = count := by
  cases h with
  | matched _ hle _ => exact UInt64.toNat_ofNat_of_lt' (lt_of_le_of_lt hle maxCycles.toNat_lt)

/-- A timeout is reported with the budget, when all of it is used up. -/
theorem Verdict.eq_of_timeout {count : ℕ} {cycles : UInt64}
    (h : device.Verdict program sample wanted maxCycles count (.error (.timeout cycles))) :
    cycles = maxCycles ∧ count = maxCycles.toNat := by
  cases h with
  | timeout _ _ => exact ⟨rfl, rfl⟩

variable {config : Config} {listing : Listing} {outcome : Outcome}

/-- Without a reference outcome, a check returns the failure and leaves the device alone. -/
theorem check_of_expected_error {failure : Failure}
    (hexpected : config.expected listing = .error failure) (internal : σ) :
    device.check config listing internal = (internal, .error failure) := by
  rw [check, checkLogged_snd, hexpected]

/-- A check reports the same of devices that look alike once they are loaded, and leaves each of
them after the same number of cycles. -/
theorem exists_check_eq_of_looksLike (hexpected : config.expected listing = .ok outcome)
    {internal : σ} {internal' : τ}
    (h : LooksLike device other listing.program (device.loaded listing internal)
      (other.loaded listing internal')) :
    ∃ clocks result,
      device.Verdict listing.program (device.loaded listing internal) outcome.outputs
        config.maxCycles clocks result ∧
      device.check config listing internal =
        ((device.cycles listing.program (device.loaded listing internal) clocks).1,
          result.map fun cycles =>
            { outputs := outcome.outputs, cycles, steps := outcome.steps }) ∧
      other.check config listing internal' =
        ((other.cycles listing.program (other.loaded listing internal') clocks).1,
          result.map fun cycles =>
            { outputs := outcome.outputs, cycles, steps := outcome.steps }) := by
  obtain ⟨clocks, result, hverdict⟩ := exists_verdict device listing.program
    (device.loaded listing internal) outcome.outputs config.maxCycles
  exact ⟨clocks, result, hverdict, check_of_verdict hexpected hverdict,
    check_of_verdict hexpected (h.verdict hverdict)⟩

/-- A check logs the numbers from one on, one for each of the cycles after which it leaves the
device. -/
theorem checkLogged_countCycles (device : Device σ)
    (hexpected : config.expected listing = .ok outcome) (internal : σ) :
    ∃ clocks,
      (device.checkLogged countCycles config listing [] internal).1.map UInt64.toNat
        = List.range' 1 clocks ∧
      (device.check config listing internal).1
        = (device.cycles listing.program (device.loaded listing internal) clocks).1 := by
  obtain ⟨clocks, hnumbers, hdevice⟩ := exists_drive_counted device listing.program
    outcome.outputs config.maxCycles [] (device.start listing internal)
  refine ⟨clocks, ?_, ?_⟩
  · rw [checkLogged, expectedLogged_countCycles, hexpected]
    exact hnumbers
  · rw [check_eq_driven hexpected]
    refine Eq.trans ?_ hdevice
    exact (congrArg Prod.fst (drive_snd device countCycles listing.program outcome.outputs
      config.maxCycles [] (device.start listing internal))).symm

/-- The record that a check finds in front of its clock edges. -/
theorem recorded_loaded (device : Device σ) (listing : Listing) (internal : σ)
    (calls : Array Call) :
    device.recorded.loaded listing { inner := internal, calls } =
      ({ inner := (device.loaded listing internal).1
         calls := (calls.push .reset).push (.load listing.a listing.b listing.c) },
        (device.loaded listing internal).2) := rfl

/-- **A check under a recorder** reaches the verdict of the device without it, leaves that device in
the same state, and leaves the record of its calls. -/
theorem exists_check_recorded (device : Device σ)
    (hexpected : config.expected listing = .ok outcome) (internal : σ) (calls : Array Call) :
    let checked := device.recorded.check config listing { inner := internal, calls }
    let sample := device.loaded listing internal
    ∃ clocks result,
      device.Verdict listing.program sample outcome.outputs config.maxCycles clocks result ∧
      (checked.1.inner, checked.2) = device.check config listing internal ∧
      checked.2 = result.map (fun cycles =>
        { outputs := outcome.outputs, cycles, steps := outcome.steps }) ∧
      checked.1.calls.toList = calls.toList ++
        (.reset :: .load listing.a listing.b listing.c ::
          device.clockCalls listing.program sample clocks) ∧
      (device.recorded.checkLogged countCycles config listing []
        { inner := internal, calls }).1.map UInt64.toNat = List.range' 1 clocks := by
  intro checked sample
  have hlooks : LooksLike device device.recorded listing.program sample
      (device.recorded.loaded listing { inner := internal, calls }) :=
    looksLike_recorded device _ _ _
  obtain ⟨clocks, result, hverdict, hplain, hunder⟩ :=
    exists_check_eq_of_looksLike hexpected hlooks
  have hchecked : checked = _ := hunder
  rw [recorded_loaded] at hchecked
  obtain ⟨hinner, hcalls⟩ := recorded_cycles device listing.program
    { inner := sample.1, calls := (calls.push .reset).push (.load listing.a listing.b listing.c) }
    sample.2 clocks
  refine ⟨clocks, result, hverdict, ?_, ?_, ?_, ?_⟩
  · rw [hchecked, hplain]
    exact congrArg (fun cycled => (cycled.1, _)) hinner
  · rw [hchecked]
  · rw [hchecked]
    refine hcalls.trans ?_
    simp
  · -- the numbers of the log and the record stem from one and the same loop
    obtain ⟨logged, hnumbers, hstate⟩ := checkLogged_countCycles device.recorded hexpected
      { inner := internal, calls }
    have hsame : logged = clocks := by
      refine eq_of_recorded_cycles_eq (hstate.symm.trans ?_)
      exact congrArg Prod.fst hunder
    rw [hnumbers, hsame]

/-- **The status is sampled once.** A check does not depend on how the status is sampled anywhere
but in the loaded device. -/
theorem check_of_status_eq (sampler : σ → Status) {internal : σ}
    (h : sampler (device.loaded listing internal).1 = (device.loaded listing internal).2) :
    ({ device with status := sampler } : Device σ).check config listing internal
      = device.check config listing internal := by
  cases hexpected : config.expected listing with
  | error failure => rw [check_of_expected_error hexpected, check_of_expected_error hexpected]
  | ok outcome =>
    have hloaded : ({ device with status := sampler } : Device σ).loaded listing internal
        = device.loaded listing internal := Prod.ext rfl h
    have hlooks : LooksLike device { device with status := sampler } listing.program
        (device.loaded listing internal)
        (({ device with status := sampler } : Device σ).loaded listing internal) := by
      rw [hloaded]
      exact fun _ => rfl
    obtain ⟨clocks, result, -, hplain, hother⟩ := exists_check_eq_of_looksLike hexpected hlooks
    rw [hplain, hother, hloaded]
    rfl

/-- **The calls of a check.** Put any device under a recorder; the recorder changes nothing about
the check. Without a reference outcome the check returns the failure and makes no call. With one, it
resets the device, loads the registers of the listing, samples the status, and then clocks the
device for a number of cycles, each time with the instruction at the offset that was reported
directly before, or with two zero words where that offset lies outside of the program. The number is
that of a reported match, and the whole budget on a timeout, and the counter of the log runs through
it without a gap. The status is sampled in the loaded device only, so the check does not depend on
what it would be elsewhere. -/
theorem check_calls (device : Device σ) (config : Config) (listing : Listing) (internal : σ)
    (calls : Array Call) :
    let recorder : Recorded σ := { inner := internal, calls }
    let checked := device.recorded.check config listing recorder
    let loaded := device.loadRegisters (device.reset internal) listing.a listing.b listing.c
    let sample := (loaded, device.status loaded)
    let statusAt := fun cycle => (device.cycles listing.program sample cycle).2
    (checked.1.inner, checked.2) = device.check config listing internal ∧
    (∀ failure, config.expected listing = .error failure →
      checked = (recorder, .error failure)) ∧
    (∀ outcome, config.expected listing = .ok outcome →
      ∃ clocks,
        device.ClockedFor listing.program sample outcome.outputs config.maxCycles clocks ∧
        checked.1.calls.toList = calls.toList ++
          (.reset :: .load listing.a listing.b listing.c ::
            (List.range clocks).map fun cycle =>
              .clock ((listing.program.fetch (statusAt cycle).ip).getD
                { opcode := 0, operand := 0 })) ∧
        (∀ report, checked.2 = .ok report → report.cycles.toNat = clocks) ∧
        (∀ cycles, checked.2 = .error (.timeout cycles) →
          cycles = config.maxCycles ∧ clocks = config.maxCycles.toNat) ∧
        (device.recorded.checkLogged countCycles config listing [] recorder).1.map UInt64.toNat
          = List.range' 1 clocks) ∧
    (∀ sampler : σ → Status, sampler loaded = device.status loaded →
      ({ device with status := sampler } : Device σ).check config listing internal
        = device.check config listing internal) := by
  intro recorder checked loaded sample statusAt
  refine ⟨?_, fun failure hexpected => check_of_expected_error hexpected recorder,
    fun outcome hexpected => ?_, fun sampler hsampler => check_of_status_eq sampler hsampler⟩
  · cases hexpected : config.expected listing with
    | error failure =>
      have hchecked : checked = (recorder, .error failure) :=
        check_of_expected_error hexpected recorder
      rw [hchecked, check_of_expected_error hexpected]
    | ok outcome =>
      obtain ⟨_, _, -, hsame, -⟩ := exists_check_recorded device hexpected internal calls
      exact hsame
  · obtain ⟨clocks, result, hverdict, -, hresult, hcalls, hnumbers⟩ :=
      exists_check_recorded device hexpected internal calls
    refine ⟨clocks, hverdict.clockedFor, hcalls, ?_, ?_, hnumbers⟩
    · intro report hok
      obtain ⟨cycles, rfl, rfl⟩ := map_eq_ok_iff.mp (hresult.symm.trans hok)
      exact hverdict.toNat_of_ok
    · intro cycles htimeout
      rw [show checked.2 = _ from hresult] at htimeout
      cases result with
      | ok _ => contradiction
      | error failure =>
        obtain rfl : failure = .timeout cycles := by simpa [Except.map] using htimeout
        exact hverdict.eq_of_timeout

/-- A rig that reports an offset far outside of its program after the first cycle: it is fed the
first instruction, then two zero words, and then times out. -/
theorem check_calls_outside_program :
    let config : Config := { maxCycles := 2 }
    let listing : Listing := { a := 0, b := 0, c := 0, program := ⟨#[5, 0], rfl⟩ }
    let rig : Rig := {
      model := Model.new 2 48
      script := some #[{}, { ip := 9, flags := { outputValid := true } }, { ip := 9 }] }
    let checked := Rig.device.recorded.check config listing { inner := rig }
    config.expected listing = .ok { registers := { ip := 2 }, outputs := #[0], steps := 1 } ∧
      checked.2 = .error (.timeout 2) ∧
      checked.1.calls.toList
        = [.reset, .load 0 0 0, .clock { opcode := 5, operand := 0 }, .clock {}] := by
  intro config listing rig checked
  have hexpected : config.expected listing
      = .ok { registers := { ip := 2 }, outputs := #[0], steps := 1 } := by decide +kernel
  have htimeout : checked.2 = .error (.timeout 2) := by decide +kernel
  obtain ⟨clocks, -, hcalls, -, hcycles, -⟩ :=
    (check_calls Rig.device config listing rig #[]).2.2.1 _ hexpected
  obtain rfl : clocks = 2 := (hcycles 2 htimeout).2
  exact ⟨hexpected, htimeout, hcalls⟩

end Device

end ThreeBit
