import Mathlib
import ThreeBit.Device.Recorded
import ThreeBit.Proofs.Transitions

/-! # The states of the model device

The model device keeps its status beside its register file, and each of its operations writes the
two on its own terms: a reset both, a load the data registers only, a clock edge both or neither.
`Model.Invariant` says how the two go together all the same, for every size of program and every
width of registers.

* **`Device.called`** — a device after a sequence of calls;
* **`Model.Invariant.call`** and **`Model.invariant_called`** — one call keeps the invariant, so
  every sequence of calls does;
* **`Model.lt_ip_clock`** — a clock edge that does not jump moves the pointer on, even where the
  pointer cannot go on by two. -/

namespace ThreeBit

namespace Device

variable {σ : Type}

/-- A device after one **call**. -/
def call (device : Device σ) (state : σ) : Call → σ
  | .reset => device.reset state
  | .load a b c => device.loadRegisters state a b c
  | .clock instruction => (device.clock state instruction).1

/-- A device after a sequence of calls. -/
def called (device : Device σ) (state : σ) (calls : List Call) : σ :=
  calls.foldl device.call state

end Device

/-- What a mask leaves of a value fits both the width and a register. -/
theorem toNat_and_registerMask_lt (value : Register) (bits : ℕ) :
    (value &&& registerMask bits).toNat < 2 ^ min bits 64 := by
  have hwidth : (value &&& registerMask bits).toNat < 2 ^ bits := by
    rw [toNat_and_registerMask]
    exact Nat.mod_lt _ (by positivity)
  rcases min_choice bits 64 with hmin | hmin
  · rwa [hmin]
  · rw [hmin]
    exact (value &&& registerMask bits).toNat_lt

namespace Model

variable {programSize bits : ℕ} {model : Model} {instruction : Instruction}

/-! ## The invariant -/

/-- **The invariant** of a device built for a size of program and a width of registers. -/
structure Invariant (programSize bits : ℕ) (model : Model) : Prop where
  /-- The size is the one that the device was built for. -/
  size : model.programSize = programSize
  /-- The mask is that of the width. -/
  mask : model.mask = registerMask bits
  /-- The data registers fit the width, or the 64 bits of a register where the width is larger. -/
  fits : model.registers.FitsIn (min bits 64)
  /-- The offset on the outside is the instruction pointer. -/
  ip : model.status.ip = model.registers.ip
  /-- The halt is reported exactly if the pointer has reached the size of the program. -/
  halted : model.status.flags.halted = true ↔ programSize ≤ model.registers.ip.toNat
  /-- No jump is ever reported. -/
  jumped : model.status.flags.jumped = false
  /-- The output word has three bits. -/
  output_le : model.status.output.toNat ≤ 7
  /-- The output word is zero where no value is reported. -/
  output_eq_zero : model.status.flags.outputValid = false → model.status.output = 0

/-- A register file cut to the width fits it. -/
theorem fitsIn_truncate (hmask : model.mask = registerMask bits) (registers : Registers) :
    (model.truncate registers).FitsIn (min bits 64) := by
  rw [truncate, hmask]
  exact ⟨toNat_and_registerMask_lt _ _, toNat_and_registerMask_lt _ _,
    toNat_and_registerMask_lt _ _⟩

/-- **A reset forgets everything** but what the device was built for. -/
theorem reset_eq_new (hsize : model.programSize = programSize)
    (hmask : model.mask = registerMask bits) : model.reset = Model.new programSize bits := by
  rw [Model.new, reset, reset, hsize, hmask]
  simp only [isPast, hsize]

/-- A new device satisfies the invariant, halted from the start if its program is empty. -/
theorem invariant_new (programSize bits : ℕ) :
    Invariant programSize bits (Model.new programSize bits) where
  size := rfl
  mask := rfl
  fits := ⟨Nat.two_pow_pos _, Nat.two_pow_pos _, Nat.two_pow_pos _⟩
  ip := rfl
  halted := decide_eq_true_iff
  jumped := rfl
  output_le := Nat.zero_le _
  output_eq_zero := fun _ => rfl

/-! ## Clock edges -/

/-- A device that has halted ignores the clock. -/
theorem clock_of_halted (hhalt : model.status.flags.halted = true) (instruction : Instruction) :
    model.clock instruction = (model, model.status) := by
  rw [clock, if_pos hhalt]

/-- What a clock edge returns is the status that it leaves. -/
theorem clock_snd (model : Model) (instruction : Instruction) :
    (model.clock instruction).2 = (model.clock instruction).1.status := by
  unfold clock
  split <;> rfl

/-- The pointer of a running device after a clock edge is the one that the instruction leaves: it is
not cut to a width. -/
theorem ip_clock_of_running (hrun : model.status.flags.halted = false) :
    (model.clock instruction).1.registers.ip
      = (instruction.execute model.registers).registers.ip := by
  rw [clock, hrun, if_neg Bool.false_ne_true]
  rfl

/-- **A clock edge keeps the invariant.** -/
theorem Invariant.clock (h : Invariant programSize bits model) (instruction : Instruction) :
    Invariant programSize bits (model.clock instruction).1 := by
  cases hhalt : model.status.flags.halted with
  | true =>
    rw [clock_of_halted hhalt]
    exact h
  | false =>
    rw [Model.clock, hhalt, if_neg Bool.false_ne_true]
    constructor
    case size => exact h.size
    case mask => exact h.mask
    case fits => exact fitsIn_truncate h.mask _
    case ip => rfl
    case halted =>
      show model.isPast _ = true ↔ _
      rw [isPast, decide_eq_true_iff, h.size]
    case jumped => rfl
    case output_le =>
      show ((instruction.execute model.registers).output.getD 0).toNat ≤ 7
      cases hout : (instruction.execute model.registers).output with
      | none => exact Nat.zero_le 7
      | some value => exact Instruction.output_execute_le hout
    case output_eq_zero =>
      intro hnone
      have hout : (instruction.execute model.registers).output = none :=
        Option.not_isSome_iff_eq_none.mp (Bool.eq_false_iff.mp hnone)
      show (instruction.execute model.registers).output.getD 0 = 0
      rw [hout]
      rfl

/-- **A clock edge makes progress.** Unless it jumps, a running device moves its pointer on. A
pointer that has room for less than two words has room for one: at the last offset every device has
halted. -/
theorem lt_ip_clock (h : Invariant programSize bits model) (hsize : programSize < 2 ^ 64)
    (hrun : model.status.flags.halted = false)
    (hjump : (instruction.execute model.registers).jumped = false) :
    model.registers.ip.toNat < (model.clock instruction).1.registers.ip.toNat := by
  have hip : model.registers.ip.toNat < programSize := by
    rw [← not_le, ← h.halted, hrun]
    exact Bool.false_ne_true
  rw [ip_clock_of_running hrun, Instruction.ip_execute_of_not_jumped hjump,
    Registers.toNat_ip_advance]
  omega

/-! ## Sequences of calls -/

/-- **One call keeps the invariant.** A load writes the data registers and nothing that the status
is about. -/
theorem Invariant.call (h : Invariant programSize bits model) (call : Call) :
    Invariant programSize bits (device.call model call) := by
  cases call with
  | reset =>
    show Invariant programSize bits model.reset
    rw [reset_eq_new h.size h.mask]
    exact invariant_new programSize bits
  | load a b c =>
    exact ⟨h.size, h.mask, fitsIn_truncate h.mask _, h.ip, h.halted, h.jumped, h.output_le,
      h.output_eq_zero⟩
  | clock instruction => exact h.clock instruction

/-- **Every sequence of calls keeps the invariant.** -/
theorem invariant_called (h : Invariant programSize bits model) (calls : List Call) :
    Invariant programSize bits (device.called model calls) := by
  induction calls generalizing model with
  | nil => exact h
  | cons call calls ih => exact ih (h.call call)

/-- **Soundness of the states of the model device.** Build a device for any size of program that can
be counted and any width of registers, and call it in any order. The state satisfies the invariant.
A clock edge returns the status that it leaves; if the device has halted, it changes nothing; if the
device runs, it jumps or moves the pointer on. And a reset leads back to the new device. -/
theorem called_sound (programSize : UInt64) (bits : ℕ) (calls : List Call) :
    let fresh := Model.new programSize.toNat bits
    let model := device.called fresh calls
    Invariant programSize.toNat bits model ∧
      (∀ instruction, (model.clock instruction).2 = (model.clock instruction).1.status) ∧
      (model.status.flags.halted = true →
        ∀ instruction, model.clock instruction = (model, model.status)) ∧
      (model.status.flags.halted = false → ∀ instruction,
        (instruction.execute model.registers).jumped = true ∨
          model.registers.ip < (model.clock instruction).1.registers.ip) ∧
      model.reset = fresh := by
  intro fresh model
  have hinvariant : Invariant programSize.toNat bits model :=
    invariant_called (invariant_new programSize.toNat bits) calls
  refine ⟨hinvariant, clock_snd model, clock_of_halted, fun hrun instruction => ?_,
    reset_eq_new hinvariant.size hinvariant.mask⟩
  cases hjump : (instruction.execute model.registers).jumped with
  | true => exact Or.inl rfl
  | false =>
    exact Or.inr (UInt64.lt_iff_toNat_lt.mpr
      (lt_ip_clock hinvariant programSize.toNat_lt hrun hjump))

/-- A device of two bits that is loaded again after it has emitted: the value stays on its outside,
the new registers are cut, and the next edge moves it past an end that is not a whole number of
instructions. -/
theorem called_sound_reloaded :
    let model := device.called (Model.new 3 2)
      [.load 7 7 7, .clock { opcode := 5, operand := 4 }, .load 4 5 6]
    model.status = { ip := 2, output := 3, flags := { outputValid := true } } ∧
      model.registers = { a := 0, b := 1, c := 2, ip := 2 } ∧
      Invariant 3 2 model ∧
      model.registers.ip < (model.clock { opcode := 0, operand := 1 }).1.registers.ip ∧
      model.reset = Model.new 3 2 := by
  intro model
  have hstatus : model.status = { ip := 2, output := 3, flags := { outputValid := true } } := by
    decide
  obtain ⟨hinvariant, -, -, hprogress, hreset⟩ := called_sound 3 2
    [.load 7 7 7, .clock { opcode := 5, operand := 4 }, .load 4 5 6]
  have hrun : model.status.flags.halted = false := by rw [hstatus]
  exact ⟨hstatus, by decide, hinvariant, (hprogress hrun _).resolve_left (by decide), hreset⟩

end Model

end ThreeBit
