import ThreeBit.Program.Text
import ThreeBit.Trace

/-! # The log

What the library reports about its work besides its results. A function that reports takes a fold, a
state and a function `τ → LogEntry → τ`, just as an observer of a run; nothing it returns beside
that state depends on the fold. An entry has a severity, a message and facts, and is rendered on one
line. -/

namespace ThreeBit

/-- How severe an entry is, the most severe first. -/
inductive Level where
  /-- A failure. -/
  | error
  /-- A reason for concern. -/
  | warn
  /-- A result. -/
  | info
  /-- A stage on the way to a result. -/
  | debug
  /-- A single step. -/
  | trace
  deriving DecidableEq, Repr

namespace Level

/-- The rank of a level, from one for the most severe. -/
def rank : Level → Nat
  | error => 1
  | warn => 2
  | info => 3
  | debug => 4
  | trace => 5

/-- The name of a level in capitals. -/
def name : Level → String
  | error => "ERROR"
  | warn => "WARN"
  | info => "INFO"
  | debug => "DEBUG"
  | trace => "TRACE"

end Level

/-- **Log entry.** One thing worth reporting. -/
inductive LogEntry where
  /-- A machine was loaded with a program of this many words. -/
  | loaded (words : Nat) (registers : Registers)
  /-- Something happened in a run. -/
  | event (event : Event)
  /-- A run was given up at its limit. -/
  | limitExceeded (limit ip : UInt64)
  /-- The reference run of a listing halted. -/
  | referenceComplete (steps : UInt64) (outputs : Nat)
  /-- A device was clocked for the given time. -/
  | clocked (cycle : UInt64) (instruction : Instruction) (ip : UInt64)
  /-- A device emitted what the reference emits. -/
  | matched (cycles : UInt64) (outputs : Nat)
  /-- A listing of this many words was read from a file. -/
  | parsed (path : String) (registers : Registers) (words : Nat)
  /-- The model device passed its check. -/
  | verified (cycles steps : UInt64)
  deriving DecidableEq, Repr

namespace LogEntry

/-- The severity of an entry. -/
def level : LogEntry → Level
  | event (.instruction ..) | clocked .. => .trace
  | loaded .. | event (.output ..) | event (.halt ..) | limitExceeded .. | referenceComplete .. =>
    .debug
  | matched .. | parsed .. | verified .. => .info

/-- The message of an entry. -/
def message : LogEntry → String
  | loaded .. => "program loaded"
  | event (.instruction ..) => "executed"
  | event (.output ..) => "output"
  | event (.halt ..) => "halted"
  | limitExceeded .. => "step limit exceeded"
  | referenceComplete .. => "reference run complete"
  | clocked .. => "clocked device"
  | matched .. => "device matched the reference"
  | parsed path .. => "parsed " ++ path
  | verified .. => "model device verified"

/-- The values of the data registers as facts. -/
def dataFacts (registers : Registers) : List (String × String) :=
  [("a", toString registers.a.toNat), ("b", toString registers.b.toNat),
    ("c", toString registers.c.toNat)]

/-- The facts of an entry, by name, in the order in which they are shown. -/
def facts : LogEntry → List (String × String)
  | loaded words registers => ("words", toString words) :: dataFacts registers
  | event (.instruction step instruction registers) =>
    ("step", toString step.toNat) :: ("instruction", instruction.text) ::
      (dataFacts registers ++ [("ip", toString registers.ip.toNat)])
  | event (.output index value) => [("index", toString index), ("value", toString value.toNat)]
  | event (.halt steps registers) =>
    ("steps", toString steps.toNat) ::
      (dataFacts registers ++ [("ip", toString registers.ip.toNat)])
  | limitExceeded limit ip => [("limit", toString limit.toNat), ("ip", toString ip.toNat)]
  | referenceComplete steps outputs =>
    [("steps", toString steps.toNat), ("outputs", toString outputs)]
  | clocked cycle instruction ip =>
    [("cycle", toString cycle.toNat), ("instruction", instruction.text), ("ip", toString ip.toNat)]
  | matched cycles outputs =>
    [("cycles", toString cycles.toNat), ("outputs", toString outputs)]
  | parsed _ registers words => dataFacts registers ++ [("words", toString words)]
  | verified cycles steps =>
    [("cycles", toString cycles.toNat), ("steps", toString steps.toNat)]

/-- An entry on one line: the level in a column of five, the message, the facts. -/
def render (entry : LogEntry) : String :=
  Text.rightAligned 5 entry.level.name ++ " " ++ entry.message ++
    String.join (entry.facts.map fun (name, value) => " " ++ name ++ "=" ++ value)

end LogEntry

/-! ### Filters -/

/-- **Filter.** The least severe level that is let through, or nothing at all. -/
structure LogFilter where
  /-- The threshold. -/
  threshold : Option Level
  deriving DecidableEq, Repr

namespace LogFilter

/-- Whether a filter lets an entry through. -/
def passes (filter : LogFilter) (entry : LogEntry) : Bool :=
  filter.threshold.any fun level => decide (entry.level.rank ≤ level.rank)

/-- The filters by the names of their thresholds, numbered from zero. -/
def named : List (String × LogFilter) :=
  [("off", ⟨none⟩), ("error", ⟨some .error⟩), ("warn", ⟨some .warn⟩), ("info", ⟨some .info⟩),
    ("debug", ⟨some .debug⟩), ("trace", ⟨some .trace⟩)]

/-- The filter asked for by a text: by name in any case, or by number. The empty text asks for
errors only; without a text, or with one that says nothing, results are let through. -/
def ofText : Option String → LogFilter
  | none => ⟨some .info⟩
  | some "" => ⟨some .error⟩
  | some text =>
    let known := named.mapIdx fun number (name, filter) =>
      if text.toLower == name || text == toString number then some filter else none
    (known.findSome? id).getD ⟨some .info⟩

end LogFilter

end ThreeBit
