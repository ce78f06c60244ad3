import ThreeBit.Listing.Basic
import ThreeBit.Text.Lines

/-! # Reading listings

A listing is read line by line into a `Draft`, which holds what the lines so far have defined. A
definition is a key, a colon and a value, blanks around each ignored; the four definitions may stand
in any order, with blank lines between them. `Listing.parse` stops at the first faulty line. -/

namespace ThreeBit.Listing

/-- **Draft.** What the lines of a listing have defined so far. -/
structure Draft where
  /-- The value of register `A`. -/
  a : Option Register := none
  /-- The value of register `B`. -/
  b : Option Register := none
  /-- The value of register `C`. -/
  c : Option Register := none
  /-- The program. -/
  program : Option Program := none
  deriving DecidableEq, Repr, Inhabited

/-! ### Values -/

/-- The register value a text stands for. -/
def readRegister (text : List Char) : Except Fault Register :=
  match Text.readNumeral (UInt64.size - 1) text with
  | .ok value => .ok value.toUInt64
  | .error cause => .error (.badInteger (String.ofList text) cause)

/-- The program word a text stands for. It is read as a byte before it is held against the three
bits of a word. -/
def readWord (text : List Char) : Except Fault Word :=
  match Text.readNumeral (UInt8.size - 1) text with
  | .ok value => if value ≤ 7 then .ok value.toUInt8 else .error (.wordOutOfRange value.toUInt8)
  | .error cause => .error (.badInteger (String.ofList text) cause)

/-- The words a text stands for: none if it is empty, else one between any two commas. -/
def readWords (text : List Char) : Except Fault (List Word) :=
  if text = [] then .ok []
  else (text.splitOn ',').mapM fun piece => readWord (Text.trim piece)

/-- The program a text stands for. -/
def readProgram (text : List Char) : Except Fault Program :=
  match readWords text with
  | .error fault => .error fault
  | .ok words =>
    match Program.ofWords words.toArray with
    | .ok program => .ok program
    | .error cause => .error (.program cause)

/-! ### Lines -/

namespace Draft

/-- Whether something has been defined. -/
def defines (draft : Draft) : Field → Bool
  | .register .a => draft.a.isSome
  | .register .b => draft.b.isSome
  | .register .c => draft.c.isSome
  | .program => draft.program.isSome

/-- Define a register or the program by the text of its value. -/
def define (draft : Draft) (field : Field) (value : List Char) : Except Fault Draft :=
  match field with
  | .register .a => (readRegister value).map fun a => { draft with a := some a }
  | .register .b => (readRegister value).map fun b => { draft with b := some b }
  | .register .c => (readRegister value).map fun c => { draft with c := some c }
  | .program => (readProgram value).map fun program => { draft with program := some program }

/-- Take in one more line. A key that was defined before is a fault whatever value follows it. -/
def readLine (draft : Draft) (line : List Char) : Except Fault Draft :=
  let line := Text.trim line
  if line = [] then .ok draft
  else
    match Text.cutAt ':' line with
    | none => .error (.unknownLine (String.ofList line))
    | some (key, value) =>
      match Field.ofKey? (Text.trim key) with
      | none => .error (.unknownLine (String.ofList line))
      | some field =>
        -- the value of a second definition is not even read
        if draft.defines field then .error (.duplicate field)
        else draft.define field (Text.trim value)

/-- Take in further lines, the first of which has the given number. -/
def readLines (draft : Draft) (number : Nat) : List (List Char) → Except Error Draft
  | [] => .ok draft
  | line :: rest =>
    match draft.readLine line with
    | .ok draft => draft.readLines (number + 1) rest
    | .error fault => .error (.faulty number fault)

/-- The listing of a draft in which everything is defined. -/
def finish (draft : Draft) : Except Error Listing :=
  match draft.a, draft.b, draft.c, draft.program with
  | none, _, _, _ => .error (.missing (.register .a))
  | _, none, _, _ => .error (.missing (.register .b))
  | _, _, none, _ => .error (.missing (.register .c))
  | _, _, _, none => .error (.missing .program)
  | some a, some b, some c, some program => .ok { a, b, c, program }

end Draft

/-- The listing a text stands for. -/
def parse (text : String) : Except Error Listing :=
  match ({} : Draft).readLines 1 (Text.lines text.toList) with
  | .ok draft => draft.finish
  | .error error => .error error

end ThreeBit.Listing
