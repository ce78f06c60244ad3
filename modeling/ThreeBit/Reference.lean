import ThreeBit.Config
import ThreeBit.Failure
import ThreeBit.Listing.Basic
import ThreeBit.Log

/-! # The reference

What a listing does, computed by running it within the limits of a `Config`. The width of the data
registers is held against the initial values only: the run itself is on full registers.

* `Machine.runLogged` is a bounded run that reports to a log;
* `Config.expected` is the reference outcome of a listing. -/

namespace ThreeBit

/-- The entry that reports the loading of a machine. -/
def Machine.loadedEntry (machine : Machine) : LogEntry :=
  .loaded machine.program.size machine.registers

/-- Run to the halt, reporting every event. -/
def Machine.haltLogged {τ : Type} (log : τ → LogEntry → τ) (state : τ) (machine : Machine) :
    τ × Option Outcome :=
  machine.runTraced (fun state event => log state (.event event)) state

/-- Run to the halt within a limit on all steps of the machine, reporting every event and, if the
limit is reached, the place. -/
def Machine.runLogged {τ : Type} (log : τ → LogEntry → τ) (limit : UInt64) (state : τ)
    (machine : Machine) : τ × Except Machine.Error Outcome :=
  let (state, machine) := machine.advance (fun state event => log state (.event event)) limit state
  match machine.outcome? with
  | some outcome => (state, .ok outcome)
  | none =>
    (log state (.limitExceeded limit machine.registers.ip), .error (.stepLimitExceeded limit))

/-- The result of a run does not depend on the log. -/
theorem Machine.runLogged_snd {τ : Type} (log : τ → LogEntry → τ) (limit : UInt64) (state : τ)
    (machine : Machine) : (machine.runLogged log limit state).2 = machine.runWithLimit limit := by
  simp only [runLogged, runWithLimit, runWithLimitTraced,
    ← advance_snd (fun state event => log state (.event event)) limit state]
  cases (machine.advance (fun state event => log state (.event event)) limit state).2.outcome? <;>
    rfl

namespace Config

/-- Refuse a register width that cannot be served. -/
def validate (config : Config) : Except Failure Unit :=
  if config.widthSupported then .ok () else .error (.unsupportedWidth config.registerBits)

/-- Refuse an initial register value that does not fit. -/
def checkWidth (config : Config) (name : RegisterName) (value : Register) : Except Failure Unit :=
  if config.fits value then .ok ()
  else .error (.registerTooWide name value config.registerBits)

/-- Refuse a listing that the register width does not allow: the width itself comes first, then the
registers in order. -/
def checkWidths (config : Config) (listing : Listing) : Except Failure Unit := do
  config.validate
  config.checkWidth .a listing.a
  config.checkWidth .b listing.b
  config.checkWidth .c listing.c

/-- The reference outcome of a listing, with a report of the run. -/
def expectedLogged {τ : Type} (log : τ → LogEntry → τ) (config : Config) (listing : Listing)
    (state : τ) : τ × Except Failure Outcome :=
  match config.checkWidths listing with
  | .error failure => (state, .error failure)
  | .ok () =>
    let machine := listing.machine
    match machine.runLogged log config.maxSteps (log state machine.loadedEntry) with
    | (state, .ok outcome) =>
      (log state (.referenceComplete outcome.steps outcome.outputs.size), .ok outcome)
    | (state, .error cause) => (state, .error (.reference cause))

/-- The reference outcome of a listing. -/
def expected (config : Config) (listing : Listing) : Except Failure Outcome :=
  (config.expectedLogged (fun _ _ => ()) listing ()).2

/-- The reference outcome is the result of a bounded run, unless the widths are refused. -/
theorem expectedLogged_snd {τ : Type} (log : τ → LogEntry → τ) (config : Config)
    (listing : Listing) (state : τ) :
    (config.expectedLogged log listing state).2 =
      match config.checkWidths listing with
      | .error failure => .error failure
      | .ok () => (listing.machine.runWithLimit config.maxSteps).mapError .reference := by
  unfold expectedLogged
  cases config.checkWidths listing with
  | error failure => rfl
  | ok _ =>
    simp only [← Machine.runLogged_snd log _ (log state listing.machine.loadedEntry)]
    rcases listing.machine.runLogged log config.maxSteps (log state listing.machine.loadedEntry)
      with ⟨_, _ | _⟩ <;> rfl

end Config

end ThreeBit
