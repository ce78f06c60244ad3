import ThreeBit.Execute

/-! # Traces

An `Event` is one thing an observer of a running machine is told. Observers are folds: a state and
a function `σ → Event → σ`. `Recording` is the observer that keeps everything. -/

namespace ThreeBit

/-- **Event.** One thing that happens in a run. -/
inductive Event where
  /-- The instruction with the given index in the run left this register file. -/
  | instruction (step : UInt64) (instruction : Instruction) (registers : Registers)
  /-- A value was emitted at this position of the output stream. -/
  | output (index : Nat) (value : Word)
  /-- After this many steps the instruction pointer left the program. -/
  | halt (steps : UInt64) (registers : Registers)
  deriving DecidableEq, Repr

/-- **Recording.** All that a run told its observer, by kind. -/
structure Recording where
  /-- Every executed instruction with the register file it left. -/
  instructions : Array (Instruction × Registers) := #[]
  /-- Every emitted value. -/
  outputs : Array Word := #[]
  /-- The number of steps the run halted after, if it did. -/
  haltedAfter : Option UInt64 := none
  deriving DecidableEq, Repr, Inhabited

/-- Add an event to a recording. -/
def Recording.record (recording : Recording) : Event → Recording
  | .instruction _ instruction registers =>
    { recording with instructions := recording.instructions.push (instruction, registers) }
  | .output _ value => { recording with outputs := recording.outputs.push value }
  | .halt steps _ => { recording with haltedAfter := some steps }

end ThreeBit
