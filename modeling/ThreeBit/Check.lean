import ThreeBit.Device.Basic
import ThreeBit.Reference

/-! # Checking a device

A device is checked by running it on a listing next to the reference: it is reset, loaded, and then
clocked until it says that it has halted, each time with the instruction at the offset it reports.
Every value it emits is compared with the reference stream as it comes.

The tests of one cycle come in a fixed order: the halt, the cycle budget, and after the clock edge
the value. So a device that halts on the last allowed cycle passes, and a wrong value on that cycle
is reported as such. -/

namespace ThreeBit

/-- **Report.** What there is to say about a device that passed its check. -/
structure Report where
  /-- The values emitted, which are those of the reference. -/
  outputs : Array Word
  /-- The number of cycles the device took. -/
  cycles : UInt64
  /-- The number of instructions the reference executed. -/
  steps : UInt64
  deriving DecidableEq, Repr, Inhabited

/-- Hold a status against the reference stream, of which a number of values has been seen, and give
the number of values seen after it. -/
def Status.compare (status : Status) (expected : Array Word) (seen : Nat) : Except Failure Nat :=
  match status.value? with
  | none => .ok seen
  | some actual =>
    match expected[seen]? with
    | none => .error (.unexpectedOutput seen actual)
    | some wanted =>
      if wanted = actual then .ok (seen + 1) else .error (.outputMismatch seen wanted actual)

/-- **Drive.** A device in the course of a check. -/
structure Drive (σ : Type) where
  /-- The internal state of the device. -/
  device : σ
  /-- The status last sampled. -/
  status : Status
  /-- The number of cycles so far. -/
  cycles : UInt64 := 0
  /-- The number of values seen so far. -/
  seen : Nat := 0

namespace Device

/-! ### The clocking loop

Termination is by the number of cycles left in the budget. -/

/-- Clock a device until it halts, diverges from the expected values or has used up its budget. The
result is the number of cycles taken. -/
def drive {σ τ : Type} (device : Device σ) (log : τ → LogEntry → τ) (program : Program)
    (expected : Array Word) (maxCycles : UInt64) (state : τ) (run : Drive σ) :
    τ × σ × Except Failure UInt64 :=
  if run.status.flags.halted then
    if run.seen = expected.size then
      (log state (.matched run.cycles run.seen), run.device, .ok run.cycles)
    else (state, run.device, .error (.missingOutputs expected.size run.seen))
  else if _hbelow : run.cycles < maxCycles then
    -- the device is trusted for nothing but its pointer, which may well lie outside of the program
    let instruction := program.feed run.status.ip
    let after := device.clock run.device instruction
    let cycles := run.cycles + 1
    let state := log state (.clocked cycles instruction after.2.ip)
    match after.2.compare expected run.seen with
    | .ok seen =>
      device.drive log program expected maxCycles state
        { device := after.1, status := after.2, cycles, seen }
    | .error failure => (state, after.1, .error failure)
  else (state, run.device, .error (.timeout run.cycles))
termination_by maxCycles.toNat - run.cycles.toNat
decreasing_by
  have hlt := UInt64.lt_iff_toNat_lt.1 _hbelow
  have hbound := maxCycles.toNat_lt
  simp only [UInt64.toNat_add, UInt64.toNat_ofNat]
  omega

/-- What a device does under the loop does not depend on the log. -/
theorem drive_snd {σ τ : Type} (device : Device σ) (log : τ → LogEntry → τ) (program : Program)
    (expected : Array Word) (maxCycles : UInt64) (state : τ) (run : Drive σ) :
    (device.drive log program expected maxCycles state run).2 =
      (device.drive (fun _ _ => ()) program expected maxCycles () run).2 := by
  fun_induction drive device log program expected maxCycles state run with
  | case1 state run hhalt hseen => rw [drive]; simp [hhalt, hseen]
  | case2 state run hhalt hseen => rw [drive]; simp [hhalt, hseen]
  | case3 state run hrun hbelow instruction after cycles state' seen hsame ih =>
    rw [ih, drive.eq_def _ _ _ _ _ _ run, if_neg hrun, dif_pos hbelow]
    simp only [after, instruction] at hsame
    simp only [hsame, after, instruction, cycles]
  | case4 state run hrun hbelow instruction after cycles state' failure hdiffer =>
    rw [drive.eq_def _ _ _ _ _ _ run, if_neg hrun, dif_pos hbelow]
    simp only [after, instruction] at hdiffer
    simp only [hdiffer, after, instruction]
  | case5 state run hrun hstop => rw [drive]; simp [hrun, hstop]

/-- Reset a device and load it with the registers of a listing. -/
def start {σ : Type} (device : Device σ) (listing : Listing) (state : σ) : Drive σ :=
  let loaded := device.loadRegisters (device.reset state) listing.a listing.b listing.c
  { device := loaded, status := device.status loaded }

/-- Check a device against the reference, with a report of the work. The device is returned in the
state in which the check leaves it; it is not touched unless there is a reference outcome. -/
def checkLogged {σ τ : Type} (device : Device σ) (log : τ → LogEntry → τ) (config : Config)
    (listing : Listing) (state : τ) (internal : σ) : τ × σ × Except Failure Report :=
  match config.expectedLogged log listing state with
  | (state, .error failure) => (state, internal, .error failure)
  | (state, .ok outcome) =>
    let driven := device.drive log listing.program outcome.outputs config.maxCycles state
      (device.start listing internal)
    (driven.1, driven.2.1, driven.2.2.map fun cycles =>
      { outputs := outcome.outputs, cycles, steps := outcome.steps })

/-- Check a device against the reference. -/
def check {σ : Type} (device : Device σ) (config : Config) (listing : Listing) (internal : σ) :
    σ × Except Failure Report :=
  (device.checkLogged (fun _ _ => ()) config listing () internal).2

/-- A check follows from the reference outcome and the clocking loop, whatever the log. -/
theorem checkLogged_snd {σ τ : Type} (device : Device σ) (log : τ → LogEntry → τ) (config : Config)
    (listing : Listing) (state : τ) (internal : σ) :
    (device.checkLogged log config listing state internal).2 =
      match config.expected listing with
      | .error failure => (internal, .error failure)
      | .ok outcome =>
        let driven := (device.drive (fun _ _ => ()) listing.program outcome.outputs
          config.maxCycles () (device.start listing internal)).2
        (driven.1, driven.2.map fun cycles =>
          { outputs := outcome.outputs, cycles, steps := outcome.steps }) := by
  have hsame : (config.expectedLogged log listing state).2 = config.expected listing := by
    rw [Config.expected, Config.expectedLogged_snd, Config.expectedLogged_snd]
  unfold checkLogged
  rw [← hsame]
  rcases config.expectedLogged log listing state with ⟨state', failure | outcome⟩
  · rfl
  · simp only [device.drive_snd log]

end Device

end ThreeBit
