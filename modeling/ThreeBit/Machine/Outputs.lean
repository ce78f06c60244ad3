import ThreeBit.Machine.Run

/-! # Pulling values out of a machine

A machine can be run only as far as its next value is needed. `Machine.next` runs to directly after
the next emission, `Machine.take` and `Machine.drain` repeat it. Each is without a result only if
the machine counts to its last step before it emits or halts. -/

namespace ThreeBit

namespace Machine

/-! ### The next value

Termination is by the number of steps the machine can still count. -/

/-- Run until a value is emitted and yield it, or until the halt and yield nothing. -/
def next (machine : Machine) : Option (Option Word × Machine) :=
  if _hhalt : machine.halted = true then some (none, machine)
  else if _hbelow : machine.steps < lastStep then
    match machine.step.2.value? with
    | some value => some (some value, machine.step.1)
    | none => next machine.step.1
  else none
termination_by lastStep.toNat - machine.steps.toNat
decreasing_by exact sub_steps_step_lt (by simpa using _hhalt) _hbelow

/-- A value that was yielded took at least one step below the last one. -/
theorem sub_steps_next_lt {machine after : Machine} {value : Word}
    (hyield : machine.next = some (some value, after)) :
    lastStep.toNat - after.steps.toNat < lastStep.toNat - machine.steps.toNat := by
  fun_induction next machine with
  | case1 => simp at hyield
  | case2 machine hrun hbelow =>
    simp only [Option.some.injEq, Prod.mk.injEq] at hyield
    rw [← hyield.2]
    exact sub_steps_step_lt (by simpa using hrun) hbelow
  | case3 machine hrun hbelow _ ih =>
    exact Nat.lt_trans (ih hyield) (sub_steps_step_lt (by simpa using hrun) hbelow)
  | case4 => simp at hyield

/-! ### Several values -/

/-- Append at most the given number of further values to those already taken, stopping at the
halt. -/
def takeInto (taken : Array Word) : Nat → Machine → Option (Array Word × Machine)
  | 0, machine => some (taken, machine)
  | count + 1, machine =>
    match machine.next with
    | none => none
    | some (none, machine) => some (taken, machine)
    | some (some value, machine) => takeInto (taken.push value) count machine

/-- Pull at most the given number of values, running no further than directly after the last. -/
def take (count : Nat) (machine : Machine) : Option (Array Word × Machine) :=
  machine.takeInto #[] count

/-- Append all further values to those already taken. -/
def drainInto (taken : Array Word) (machine : Machine) : Option (Array Word × Machine) :=
  match _hyield : machine.next with
  | none => none
  | some (none, machine) => some (taken, machine)
  | some (some value, machine) => drainInto (taken.push value) machine
termination_by lastStep.toNat - machine.steps.toNat
decreasing_by exact sub_steps_next_lt _hyield

/-- Pull all values up to the halt. -/
def drain (machine : Machine) : Option (Array Word × Machine) :=
  machine.drainInto #[]

end Machine

end ThreeBit
