import Mathlib
import ThreeBit.Device.Rig
import ThreeBit.Proofs.Cycles

/-! # The verdict of a check

A check clocks a device until one of four things happens: the device halts, its budget is used up,
it emits a wrong value, or it emits one too many. `Device.Verdict` says which of them comes first,
as a relation over the statuses of an arbitrary device, and without a loop. The clocking loop
computes exactly this relation:

* **`Device.driven_eq_driven_at`** — as long as nothing happens the loop can be entered at any later
  cycle;
* **`Device.driven_of_verdict`** — so it returns every verdict that holds, from the cycle it is
  reached on;
* **`Device.exists_verdict`** — and some verdict holds, since the budget is finite;
* **`Device.check_verdict`** — the check of a device, read off both. -/

namespace ThreeBit

/-! ## Comparing one status -/

namespace Status

variable {status : Status} {wanted : Array Word} {seen : List Word}

/-- A status that continues the stream is accepted. -/
theorem compare_of_prefix (h : seen ++ status.value?.toList <+: wanted.toList) :
    status.compare wanted seen.length = .ok (seen ++ status.value?.toList).length := by
  unfold compare
  cases hvalue : status.value? with
  | none => simp
  | some actual =>
    rw [hvalue] at h
    have hget : wanted[seen.length]? = some actual := by
      obtain ⟨rest, hrest⟩ := h
      rw [← Array.getElem?_toList, ← hrest]
      simp
    simp [hget]

/-- **A status is accepted, wrong or surplus.** Where the stream has been followed so far, the next
status either continues it, or emits another value than the stream, or emits one after its end. -/
theorem prefix_or_differs (status : Status) (h : seen <+: wanted.toList) :
    seen ++ status.value?.toList <+: wanted.toList ∨
      (∃ expected actual, status.value? = some actual ∧
        wanted.toList[seen.length]? = some expected ∧ expected ≠ actual) ∨
      ∃ actual, status.value? = some actual ∧ seen = wanted.toList := by
  cases hvalue : status.value? with
  | none => exact Or.inl (by simpa using h)
  | some actual =>
    obtain ⟨rest, hrest⟩ := h
    cases rest with
    | nil => exact Or.inr (Or.inr ⟨actual, rfl, by simpa using hrest⟩)
    | cons expected rest =>
      by_cases heq : expected = actual
      · exact Or.inl ⟨rest, by simp [← hrest, heq]⟩
      · exact Or.inr (Or.inl ⟨expected, actual, rfl, by simp [← hrest], heq⟩)

end Status

namespace Device

variable {σ : Type} (device : Device σ) (program : Program) (sample : σ × Status)
  (wanted : Array Word) (maxCycles : UInt64)

/-! ## The relation -/

/-- **Verdict.** The relation between a device and the result of its check: `Verdict … count result`
says that the check ends after this many cycles, with this result. -/
inductive Verdict : ℕ → Except Failure UInt64 → Prop
  /-- The device halts within its budget and has emitted the whole stream. -/
  | matched {count : ℕ} : device.HaltsAt program sample count → count ≤ maxCycles.toNat →
      device.emitted program sample count = wanted.toList →
      Verdict count (.ok (UInt64.ofNat count))
  /-- The device halts within its budget, and the stream goes on. -/
  | missing {count : ℕ} : device.HaltsAt program sample count → count ≤ maxCycles.toNat →
      device.emitted program sample count <+: wanted.toList →
      device.emitted program sample count ≠ wanted.toList →
      Verdict count
        (.error (.missingOutputs wanted.size (device.emitted program sample count).length))
  /-- The device has followed the stream and emits another value than the stream has next. -/
  | mismatched {count index : ℕ} {expected actual : Word} :
      device.RunsFor program sample (count + 1) → count + 1 ≤ maxCycles.toNat →
      (device.cycles program sample (count + 1)).2.value? = some actual →
      device.emitted program sample count = wanted.toList.take index →
      wanted.toList[index]? = some expected → expected ≠ actual →
      Verdict (count + 1) (.error (.outputMismatch index expected actual))
  /-- The device has emitted the whole stream and emits one more value. -/
  | unexpected {count : ℕ} {actual : Word} :
      device.RunsFor program sample (count + 1) → count + 1 ≤ maxCycles.toNat →
      (device.cycles program sample (count + 1)).2.value? = some actual →
      device.emitted program sample count = wanted.toList →
      Verdict (count + 1) (.error (.unexpectedOutput wanted.size actual))
  /-- The device has followed the stream and is still running when its budget is used up. -/
  | timeout : device.RunsFor program sample (maxCycles.toNat + 1) →
      device.emitted program sample maxCycles.toNat <+: wanted.toList →
      Verdict maxCycles.toNat (.error (.timeout maxCycles))

/-! ## The clocking loop, one cycle at a time -/

/-- What the clocking loop leaves: the internal state of the device and the number of cycles or the
failure. The log is left out, since nothing here depends on it. -/
def driven (run : Drive σ) : σ × Except Failure UInt64 :=
  (device.drive (fun _ _ => ()) program wanted maxCycles () run).2

/-- The loop on a device whose status has the halt flag. -/
theorem driven_of_halted {run : Drive σ} (hhalt : run.status.flags.halted = true) :
    device.driven program wanted maxCycles run =
      (run.device, if run.seen = wanted.size then .ok run.cycles
        else .error (.missingOutputs wanted.size run.seen)) := by
  rw [driven, drive, if_pos hhalt]
  split <;> rfl

/-- The loop on a running device whose budget is used up. -/
theorem driven_of_exhausted {run : Drive σ} (hrun : run.status.flags.halted = false)
    (hstop : ¬run.cycles < maxCycles) :
    device.driven program wanted maxCycles run = (run.device, .error (.timeout run.cycles)) := by
  rw [driven, drive, hrun, if_neg Bool.false_ne_true, dif_neg hstop]

/-- The loop on a running device below its budget: one cycle, and the comparison decides. -/
theorem driven_of_running {run : Drive σ} (hrun : run.status.flags.halted = false)
    (hbelow : run.cycles < maxCycles) :
    device.driven program wanted maxCycles run =
      match (device.cycle program (run.device, run.status)).2.compare wanted run.seen with
      | .ok seen => device.driven program wanted maxCycles
          { device := (device.cycle program (run.device, run.status)).1
            status := (device.cycle program (run.device, run.status)).2
            cycles := run.cycles + 1
            seen }
      | .error failure =>
        ((device.cycle program (run.device, run.status)).1, .error failure) := by
  rw [driven, drive, hrun, if_neg Bool.false_ne_true, dif_pos hbelow]
  show (match (device.cycle program (run.device, run.status)).2.compare wanted run.seen with
    | .ok seen => _
    | .error failure => _ : Unit × σ × Except Failure UInt64).2 = _
  cases (device.cycle program (run.device, run.status)).2.compare wanted run.seen <;> rfl

/-! ## Entering the loop at a later cycle -/

/-- The loop about to begin its cycle number `count + 1`, with nothing wrong so far. -/
def driveAt (count : ℕ) : Drive σ where
  device := (device.cycles program sample count).1
  status := (device.cycles program sample count).2
  cycles := UInt64.ofNat count
  seen := (device.emitted program sample count).length

variable {device program sample wanted maxCycles}

/-- Below the budget the counter of the loop is exact. -/
theorem ofNat_lt_of_lt {count : ℕ} (h : count < maxCycles.toNat) :
    UInt64.ofNat count < maxCycles := by
  have hsize : count < UInt64.size := lt_trans h maxCycles.toNat_lt
  rw [UInt64.lt_iff_toNat_lt, UInt64.toNat_ofNat_of_lt' hsize]
  exact h

/-- A device that runs for one more cycle has not halted on the last one. -/
theorem RunsFor.running {count : ℕ} (h : device.RunsFor program sample (count + 1)) :
    (device.driveAt program sample count).status.flags.halted = false :=
  h count (Nat.lt_succ_self count)

theorem RunsFor.mono {first second : ℕ} (h : device.RunsFor program sample second)
    (hle : first ≤ second) : device.RunsFor program sample first :=
  fun earlier hlt => h earlier (lt_of_lt_of_le hlt hle)

/-- **One clean cycle.** A running device below its budget whose next status continues the stream
goes on to the next cycle. -/
theorem driven_at_succ {count : ℕ} (hrun : device.RunsFor program sample (count + 1))
    (hle : count + 1 ≤ maxCycles.toNat)
    (hpre : device.emitted program sample (count + 1) <+: wanted.toList) :
    device.driven program wanted maxCycles (device.driveAt program sample count)
      = device.driven program wanted maxCycles (device.driveAt program sample (count + 1)) := by
  have hcompare : (device.cycle program (device.cycles program sample count)).2.compare wanted
      (device.emitted program sample count).length
        = .ok (device.emitted program sample (count + 1)).length := by
    rw [emitted_succ, cycles_succ] at hpre ⊢
    exact Status.compare_of_prefix hpre
  rw [driven_of_running _ _ _ _ hrun.running (ofNat_lt_of_lt hle)]
  simp only [driveAt, cycles_succ, hcompare, UInt64.ofNat_add]
  rfl

/-- **Nothing has happened yet.** As long as the device runs, is within its budget and follows the
stream, the loop from the start is the loop from any later cycle. -/
theorem driven_eq_driven_at {count : ℕ} (hrun : device.RunsFor program sample count)
    (hle : count ≤ maxCycles.toNat)
    (hpre : device.emitted program sample count <+: wanted.toList) :
    device.driven program wanted maxCycles (device.driveAt program sample 0)
      = device.driven program wanted maxCycles (device.driveAt program sample count) := by
  induction count with
  | zero => rfl
  | succ count ih =>
    have hshort : device.emitted program sample count <+: wanted.toList :=
      (List.prefix_append _ _).trans hpre
    rw [ih (hrun.mono (Nat.le_succ count)) (by omega) hshort, driven_at_succ hrun hle hpre]

/-- A wrong or surplus value ends the loop on its cycle. -/
theorem driven_of_differs {count : ℕ} {failure : Failure}
    (hrun : device.RunsFor program sample (count + 1)) (hle : count + 1 ≤ maxCycles.toNat)
    (hpre : device.emitted program sample count <+: wanted.toList)
    (hcompare : (device.cycles program sample (count + 1)).2.compare wanted
      (device.emitted program sample count).length = .error failure) :
    device.driven program wanted maxCycles (device.driveAt program sample 0)
      = ((device.cycles program sample (count + 1)).1, .error failure) := by
  rw [driven_eq_driven_at (hrun.mono (Nat.le_succ count)) (by omega) hpre,
    driven_of_running _ _ _ _ hrun.running (ofNat_lt_of_lt hle)]
  rw [cycles_succ] at hcompare ⊢
  simp only [driveAt, hcompare]

/-! ## The loop computes the relation -/

/-- **Every verdict that holds is returned**, with the device as its last cycle left it. -/
theorem driven_of_verdict {count : ℕ} {result : Except Failure UInt64}
    (h : device.Verdict program sample wanted maxCycles count result) :
    device.driven program wanted maxCycles (device.driveAt program sample 0)
      = ((device.cycles program sample count).1, result) := by
  cases h with
  | matched hhalt hle hall =>
    -- the loop is entered on the halting cycle, where the count of values decides
    rw [driven_eq_driven_at hhalt.1 hle (by rw [hall]), driven_of_halted _ _ _ _ hhalt.2]
    have hseen : (device.driveAt program sample count).seen = wanted.size := by
      rw [← Array.length_toList, ← hall]
      rfl
    rw [if_pos hseen]
    rfl
  | missing hhalt hle hpre hpart =>
    rw [driven_eq_driven_at hhalt.1 hle hpre, driven_of_halted _ _ _ _ hhalt.2]
    have hseen : (device.driveAt program sample count).seen ≠ wanted.size := by
      -- a beginning of the stream as long as the stream would be all of it
      intro hsize
      exact hpart (hpre.eq_of_length (by rw [Array.length_toList]; exact hsize))
    rw [if_neg hseen]
    rfl
  | mismatched hrun hle hvalue hseen hget hne =>
    -- the index is the number of values seen, since the stream is longer than that
    obtain ⟨hlt, -⟩ := List.getElem?_eq_some_iff.mp hget
    refine driven_of_differs hrun hle (by rw [hseen]; exact List.take_prefix _ _) ?_
    rw [hseen, List.length_take_of_le (le_of_lt hlt), Status.compare, hvalue]
    rw [Array.getElem?_toList] at hget
    simp only [hget, if_neg hne]
  | unexpected hrun hle hvalue hseen =>
    refine driven_of_differs hrun hle (by rw [hseen]) ?_
    rw [hseen, Array.length_toList, Status.compare, hvalue]
    simp
  | timeout hrun hpre =>
    -- the counter has reached the budget, and with it the number that is reported
    have hcycles : (device.driveAt program sample maxCycles.toNat).cycles = maxCycles :=
      UInt64.ofNat_toNat
    rw [driven_eq_driven_at (hrun.mono (Nat.le_succ _)) le_rfl hpre,
      driven_of_exhausted _ _ _ _ hrun.running, hcycles]
    · rfl
    · rw [hcycles]
      exact UInt64.lt_irrefl maxCycles

/-- A device that has run for a number of cycles has halted now or runs for one more. -/
theorem RunsFor.haltsAt_or_succ {count : ℕ} (h : device.RunsFor program sample count) :
    device.HaltsAt program sample count ∨ device.RunsFor program sample (count + 1) := by
  cases hhalt : (device.cycles program sample count).2.flags.halted with
  | true => exact Or.inl ⟨h, hhalt⟩
  | false =>
    refine Or.inr fun earlier hlt => ?_
    rcases Nat.lt_succ_iff_lt_or_eq.mp hlt with hlt | rfl
    · exact h earlier hlt
    · exact hhalt

/-- A device that halts within its budget, with nothing wrong before, matches or falls short. -/
theorem exists_verdict_of_haltsAt {count : ℕ} (hhalt : device.HaltsAt program sample count)
    (hle : count ≤ maxCycles.toNat)
    (hpre : device.emitted program sample count <+: wanted.toList) :
    ∃ result, device.Verdict program sample wanted maxCycles count result := by
  by_cases hall : device.emitted program sample count = wanted.toList
  · exact ⟨_, .matched hhalt hle hall⟩
  · exact ⟨_, .missing hhalt hle hpre hall⟩

/-- From a cycle up to which nothing has happened some verdict is reached. The induction is on the
cycles left in the budget. -/
theorem exists_verdict_from {left count : ℕ} (hleft : count + left = maxCycles.toNat)
    (hrun : device.RunsFor program sample count)
    (hpre : device.emitted program sample count <+: wanted.toList) :
    ∃ last result, device.Verdict program sample wanted maxCycles last result := by
  induction left generalizing count with
  | zero =>
    obtain rfl : count = maxCycles.toNat := by omega
    rcases hrun.haltsAt_or_succ with hhalt | hnext
    · exact ⟨_, exists_verdict_of_haltsAt hhalt le_rfl hpre⟩
    · exact ⟨_, _, .timeout hnext hpre⟩
  | succ left ih =>
    have hle : count + 1 ≤ maxCycles.toNat := by omega
    rcases hrun.haltsAt_or_succ with hhalt | hnext
    · exact ⟨_, exists_verdict_of_haltsAt hhalt (by omega) hpre⟩
    · -- the next status continues the stream, or ends the check
      rcases (device.cycles program sample (count + 1)).2.prefix_or_differs hpre with
        hgood | ⟨expected, actual, hvalue, hget, hne⟩ | ⟨actual, hvalue, hall⟩
      · exact ih (by omega) hnext hgood
      · have hseen := List.prefix_iff_eq_take.mp hpre
        exact ⟨_, _, .mismatched hnext hle hvalue hseen hget hne⟩
      · exact ⟨_, _, .unexpected hnext hle hvalue hall⟩

variable (device program sample wanted maxCycles) in
/-- **Some verdict is always reached**, for the budget is finite. -/
theorem exists_verdict :
    ∃ count result, device.Verdict program sample wanted maxCycles count result :=
  exists_verdict_from (Nat.zero_add _) (fun _ hlt => absurd hlt (Nat.not_lt_zero _))
    List.nil_prefix

/-- **The loop computes the relation.** -/
theorem driven_snd_eq_iff {result : Except Failure UInt64} :
    (device.driven program wanted maxCycles (device.driveAt program sample 0)).2 = result ↔
      ∃ count, device.Verdict program sample wanted maxCycles count result := by
  constructor
  · rintro rfl
    obtain ⟨count, result, hverdict⟩ := exists_verdict device program sample wanted maxCycles
    exact ⟨count, by rwa [driven_of_verdict hverdict]⟩
  · rintro ⟨count, hverdict⟩
    rw [driven_of_verdict hverdict]

/-- A device matches on the cycle that the loop counts, for the counter does not wrap around below
the budget. -/
theorem exists_verdict_ok_iff {cycles : UInt64} :
    (∃ count, device.Verdict program sample wanted maxCycles count (.ok cycles)) ↔
      device.HaltsAt program sample cycles.toNat ∧ cycles.toNat ≤ maxCycles.toNat ∧
        device.emitted program sample cycles.toNat = wanted.toList := by
  constructor
  · rintro ⟨count, hverdict⟩
    cases hverdict with
    | matched hhalt hle hall =>
      have hsize : count < UInt64.size := lt_of_le_of_lt hle maxCycles.toNat_lt
      rw [UInt64.toNat_ofNat_of_lt' hsize]
      exact ⟨hhalt, hle, hall⟩
  · rintro ⟨hhalt, hle, hall⟩
    have hverdict := Verdict.matched hhalt hle hall
    rw [UInt64.ofNat_toNat] at hverdict
    exact ⟨cycles.toNat, hverdict⟩

/-! ## The check -/

variable {config : Config} {listing : Listing} {outcome : Outcome}

/-- A check of a listing with a reference outcome is the loop on the loaded device. -/
theorem check_eq_driven (hexpected : config.expected listing = .ok outcome) (internal : σ) :
    device.check config listing internal =
      let result := device.driven listing.program outcome.outputs config.maxCycles
        (device.driveAt listing.program (device.loaded listing internal) 0)
      (result.1, result.2.map fun cycles =>
        { outputs := outcome.outputs, cycles, steps := outcome.steps }) := by
  rw [check, checkLogged_snd, hexpected]
  rfl

/-- A verdict that holds is what the check returns. -/
theorem check_of_verdict (hexpected : config.expected listing = .ok outcome) {internal : σ}
    {count : ℕ} {result : Except Failure UInt64}
    (h : device.Verdict listing.program (device.loaded listing internal) outcome.outputs
      config.maxCycles count result) :
    device.check config listing internal =
      ((device.cycles listing.program (device.loaded listing internal) count).1,
        result.map fun cycles =>
          { outputs := outcome.outputs, cycles, steps := outcome.steps }) := by
  rw [check_eq_driven hexpected, driven_of_verdict h]

/-- A check fails exactly by the failures of the relation. -/
theorem check_eq_error_iff (hexpected : config.expected listing = .ok outcome) {internal : σ}
    {failure : Failure} :
    (device.check config listing internal).2 = .error failure ↔
      ∃ count, device.Verdict listing.program (device.loaded listing internal) outcome.outputs
        config.maxCycles count (.error failure) := by
  rw [check_eq_driven hexpected, ← driven_snd_eq_iff]
  -- a report is made of a success only, so it hides no failure and makes none
  generalize device.driven _ _ _ _ = result
  rcases result with ⟨_, _ | _⟩ <;> simp [Except.map]

/-- A check passes exactly by the successes of the relation. -/
theorem check_eq_ok_iff (hexpected : config.expected listing = .ok outcome) {internal : σ}
    {report : Report} :
    (device.check config listing internal).2 = .ok report ↔
      report.outputs = outcome.outputs ∧ report.steps = outcome.steps ∧
      ∃ count, device.Verdict listing.program (device.loaded listing internal) outcome.outputs
        config.maxCycles count (.ok report.cycles) := by
  rw [check_eq_driven hexpected, ← driven_snd_eq_iff]
  generalize device.driven _ _ _ _ = result
  obtain ⟨outputs, cycles, steps⟩ := report
  rcases result with ⟨_, _ | _⟩ <;> simp [Except.map, eq_comm, and_comm]

/-- **The exact verdict of a check.** Take any device, and a listing with a reference outcome.
Number the statuses of the device from the one sampled after loading; it runs for `count` cycles
when none of the statuses before number `count` has the halt flag, and halts at the first that has
it. What it emits is read off the statuses from number one on. Then the check passes, or fails in
one of four ways, each exactly when the statuses say so; and it fails in no other way. -/
theorem check_verdict (device : Device σ) (config : Config) (listing : Listing) (internal : σ)
    (outcome : Outcome) (hexpected : config.expected listing = .ok outcome) :
    let sample := device.loaded listing internal
    let HaltsAt := device.HaltsAt listing.program sample
    let RunsFor := device.RunsFor listing.program sample
    let emitted := device.emitted listing.program sample
    let statusAt := fun count => (device.cycles listing.program sample count).2
    let wanted := outcome.outputs.toList
    let budget := config.maxCycles.toNat
    let result := (device.check config listing internal).2
    (∀ report, result = .ok report ↔
      ∃ count, HaltsAt count ∧ count ≤ budget ∧ emitted count = wanted ∧
        report.outputs = outcome.outputs ∧ report.cycles.toNat = count ∧
        report.steps = outcome.steps) ∧
    (∀ index expected actual, result = .error (.outputMismatch index expected actual) ↔
      ∃ count, RunsFor (count + 1) ∧ count + 1 ≤ budget ∧
        (statusAt (count + 1)).value? = some actual ∧ emitted count = wanted.take index ∧
        wanted[index]? = some expected ∧ expected ≠ actual) ∧
    (∀ index actual, result = .error (.unexpectedOutput index actual) ↔
      index = wanted.length ∧ ∃ count, RunsFor (count + 1) ∧ count + 1 ≤ budget ∧
        (statusAt (count + 1)).value? = some actual ∧ emitted count = wanted) ∧
    (∀ expected actual, result = .error (.missingOutputs expected actual) ↔
      expected = wanted.length ∧ ∃ count, HaltsAt count ∧ count ≤ budget ∧
        emitted count <+: wanted ∧ emitted count ≠ wanted ∧ actual = (emitted count).length) ∧
    (∀ cycles, result = .error (.timeout cycles) ↔
      cycles = config.maxCycles ∧ RunsFor (budget + 1) ∧ emitted budget <+: wanted) ∧
    (∀ failure, result = .error failure →
      (∃ index expected actual, failure = .outputMismatch index expected actual) ∨
      (∃ index actual, failure = .unexpectedOutput index actual) ∨
      (∃ expected actual, failure = .missingOutputs expected actual) ∨
      ∃ cycles, failure = .timeout cycles) := by
  intro sample HaltsAt RunsFor emitted statusAt wanted budget result
  refine ⟨fun report => ?_, fun index expected actual => ?_, fun index actual => ?_,
    fun expected actual => ?_, fun cycles => ?_, fun failure hfailure => ?_⟩
  · rw [check_eq_ok_iff hexpected, exists_verdict_ok_iff]
    constructor
    · rintro ⟨houtputs, hsteps, hhalt, hle, hall⟩
      exact ⟨report.cycles.toNat, hhalt, hle, hall, houtputs, rfl, hsteps⟩
    · rintro ⟨_, hhalt, hle, hall, houtputs, rfl, hsteps⟩
      exact ⟨houtputs, hsteps, hhalt, hle, hall⟩
  · rw [check_eq_error_iff hexpected]
    constructor
    · rintro ⟨_, hverdict⟩
      cases hverdict with
      | mismatched hrun hle hvalue hseen hget hne =>
        exact ⟨_, hrun, hle, hvalue, hseen, hget, hne⟩
    · rintro ⟨count, hrun, hle, hvalue, hseen, hget, hne⟩
      exact ⟨count + 1, .mismatched hrun hle hvalue hseen hget hne⟩
  · rw [check_eq_error_iff hexpected]
    constructor
    · rintro ⟨_, hverdict⟩
      cases hverdict with
      | unexpected hrun hle hvalue hall => exact ⟨rfl, _, hrun, hle, hvalue, hall⟩
    · rintro ⟨rfl, count, hrun, hle, hvalue, hall⟩
      exact ⟨count + 1, .unexpected hrun hle hvalue hall⟩
  · rw [check_eq_error_iff hexpected]
    constructor
    · rintro ⟨count, hverdict⟩
      cases hverdict with
      | missing hhalt hle hpre hpart => exact ⟨rfl, count, hhalt, hle, hpre, hpart, rfl⟩
    · rintro ⟨rfl, count, hhalt, hle, hpre, hpart, rfl⟩
      exact ⟨count, .missing hhalt hle hpre hpart⟩
  · rw [check_eq_error_iff hexpected]
    constructor
    · rintro ⟨_, hverdict⟩
      cases hverdict with
      | timeout hrun hpre => exact ⟨rfl, hrun, hpre⟩
    · rintro ⟨rfl, hrun, hpre⟩
      exact ⟨budget, .timeout hrun hpre⟩
  · obtain ⟨_, hverdict⟩ := (check_eq_error_iff hexpected).mp hfailure
    cases hverdict with
    | missing => exact Or.inr (Or.inr (Or.inl ⟨_, _, rfl⟩))
    | mismatched => exact Or.inl ⟨_, _, _, rfl⟩
    | unexpected => exact Or.inr (Or.inl ⟨_, _, rfl⟩)
    | timeout => exact Or.inr (Or.inr (Or.inr ⟨_, rfl⟩))

/-- A rig whose first clock edge emits a wrong value, reports the halt and uses up the budget, all
at once: the wrong value is what the check reports. -/
theorem check_verdict_wrong_on_last_cycle :
    let config : Config := { maxCycles := 1 }
    let listing : Listing := { a := 0, b := 0, c := 0, program := ⟨#[5, 0], rfl⟩ }
    let rig : Rig := {
      model := Model.new 2 48
      script := some #[{}, { output := 1, flags := { outputValid := true, halted := true } }] }
    config.expected listing = .ok { registers := { ip := 2 }, outputs := #[0], steps := 1 } ∧
      (Rig.device.check config listing rig).2 = .error (.outputMismatch 0 0 1) := by
  intro config listing rig
  have hexpected : config.expected listing
      = .ok { registers := { ip := 2 }, outputs := #[0], steps := 1 } := by decide +kernel
  refine ⟨hexpected, ?_⟩
  have hverdict := check_verdict Rig.device config listing rig _ hexpected
  refine (hverdict.2.1 0 0 1).mpr ⟨0, ?_, by decide, by decide, rfl, rfl, by decide⟩
  intro earlier hlt
  interval_cases earlier
  decide

end Device

end ThreeBit
