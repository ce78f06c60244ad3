import ThreeBit.Machine.Run

/-! # Failures

Why a listing has no reference outcome, or why a device does not pass its check against one. -/

namespace ThreeBit

/-- **Failure.** Why a reference run or a check comes to nothing. -/
inductive Failure where
  /-- Data registers of this width cannot be served. -/
  | unsupportedWidth (bits : Nat)
  /-- An initial register value needs more bits than the registers have. -/
  | registerTooWide (register : RegisterName) (value : Register) (bits : Nat)
  /-- The reference run has no outcome. -/
  | reference (cause : Machine.Error)
  /-- The device emitted another value than the reference at this position. -/
  | outputMismatch (index : Nat) (expected actual : Word)
  /-- The device emitted a value at this position, where the reference has none. -/
  | unexpectedOutput (index : Nat) (actual : Word)
  /-- The device halted before it had emitted as many values as the reference. -/
  | missingOutputs (expected actual : Nat)
  /-- The device was still running after this many cycles. -/
  | timeout (cycles : UInt64)
  deriving DecidableEq, Repr

namespace Failure

/-- The wording of a failure. -/
def message : Failure → String
  | unsupportedWidth bits =>
    s!"unsupported register width of {bits} bits (expected 3 to 64)"
  | registerTooWide register value bits =>
    "register " ++ register.letter ++ s!" = {value} does not fit in {bits} bits"
  | reference cause => "reference run failed: " ++ cause.message
  | outputMismatch index expected actual =>
    s!"output {index}: expected {expected}, device emitted {actual}"
  | unexpectedOutput index actual =>
    s!"output {index}: device emitted {actual} past the end of the reference stream"
  | missingOutputs expected actual =>
    s!"device halted after {actual} outputs, expected {expected}"
  | timeout cycles => s!"device did not halt within {cycles} cycles"

/-- The message of the failure behind this one, where there is one. -/
def cause? : Failure → Option String
  | reference cause => some cause.message
  | _ => none

end Failure

end ThreeBit
