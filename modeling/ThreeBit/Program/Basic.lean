import ThreeBit.Instruction.Basic

/-! # Programs

A program is a sequence of words read two at a time. `Program` carries the evidence that its words
form whole pairs, `Program.ofWords` is the only test, and after it nothing about a program can
fail: `Program.fetch` reads an instruction at any offset, even or odd. -/

namespace ThreeBit

/-- **Program.** A sequence of words that divides into pairs. -/
structure Program where
  /-- The words, in order. -/
  words : Array Word
  /-- Every operation word has an operand word. -/
  even_size : words.size % 2 = 0
  deriving DecidableEq, Repr

/-- Why a sequence of words is no program. -/
inductive Program.Error where
  /-- The last operation word has no operand. -/
  | oddLength (size : Nat)
  deriving DecidableEq, Repr

/-- The wording of a refusal. -/
def Program.Error.message : Program.Error → String
  | oddLength size => s!"invalid program: expected an even number of words, got {size}"

namespace Program

/-- The program without any instruction. -/
def empty : Program := ⟨#[], rfl⟩

instance : Inhabited Program := ⟨empty⟩

/-- The program made of the given words, refused if their number is odd. -/
def ofWords (words : Array Word) : Except Program.Error Program :=
  if even_size : words.size % 2 = 0 then .ok ⟨words, even_size⟩
  else .error (.oddLength words.size)

/-- The number of words. -/
def size (program : Program) : Nat := program.words.size

/-- Whether there is no instruction at all. -/
def isEmpty (program : Program) : Bool := program.words.isEmpty

/-- Whether an instruction pointer has left the program. -/
def isPast (program : Program) (ip : UInt64) : Bool :=
  decide (program.size ≤ ip.toNat)

/-- The instruction whose operation word stands at an offset. An instruction read at the last word
has no operand word of its own and takes zero for it. -/
def fetch (program : Program) (ip : UInt64) : Option Instruction :=
  program.words[ip.toNat]?.map fun opcode =>
    { opcode, operand := program.words[ip.toNat + 1]?.getD 0 }

/-- What a clocked device is fed at an offset: the instruction there, or the default instruction
outside of the program. -/
def feed (program : Program) (ip : UInt64) : Instruction :=
  (program.fetch ip).getD default

/-- The pairs of a sequence of words, a last word without a partner left out. -/
def pairs : List Word → List Instruction
  | opcode :: operand :: rest => { opcode, operand } :: pairs rest
  | _ => []

/-- The instructions at the even offsets, in order. -/
def instructions (program : Program) : List Instruction :=
  pairs program.words.toList

/-- Fetching fails exactly past the end. -/
@[simp] theorem fetch_eq_none_iff (program : Program) (ip : UInt64) :
    program.fetch ip = none ↔ program.isPast ip = true := by
  rw [isPast, decide_eq_true_iff, size, fetch, Option.map_eq_none_iff, Array.getElem?_eq_none_iff]

end Program

end ThreeBit
