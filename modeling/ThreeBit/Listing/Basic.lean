import ThreeBit.Machine.Basic
import ThreeBit.Program.Text
import ThreeBit.Text.Numeral
import ThreeBit.Text.Quoted

/-! # Listings

A listing is the initial state of a machine: a value for each data register and a program. This
module has the type, the customary layout of a listing as text (`Listing.render`), what can be wrong
with a text, and the wording of each fault.

A fault belongs to one line. A text without a faulty line can still be incomplete, which is an error
of the text as a whole. -/

namespace ThreeBit

/-- **Listing.** Three register values and a program to run from them. -/
structure Listing where
  /-- The initial value of register `A`. -/
  a : Register
  /-- The initial value of register `B`. -/
  b : Register
  /-- The initial value of register `C`. -/
  c : Register
  /-- The program. -/
  program : Program
  deriving DecidableEq, Repr, Inhabited

namespace Listing

/-- The register file the program starts with. -/
def registers (listing : Listing) : Registers where
  a := listing.a
  b := listing.b
  c := listing.c

/-- A machine about to run the listing. -/
def machine (listing : Listing) : Machine where
  program := listing.program
  registers := listing.registers

/-- What one line of a listing defines. -/
inductive Field where
  /-- The value of a register. -/
  | register (name : RegisterName)
  /-- The program. -/
  | program
  deriving DecidableEq, Repr

/-- The key that introduces a definition. -/
def Field.key : Field → String
  | register name => "Register " ++ name.letter
  | program => "Program"

/-- A definition as messages call it. -/
def Field.description : Field → String
  | register name => "register " ++ name.letter
  | program => "program"

/-- The order in which definitions are asked for. -/
def Field.all : List Field := [.register .a, .register .b, .register .c, .program]

/-- The definition introduced by a key. -/
def Field.ofKey? (key : List Char) : Option Field :=
  Field.all.find? fun field => field.key.toList == key

/-! ### The customary layout

The registers in order, an empty line, the program. -/

/-- One definition on a line of its own. -/
def definition (field : Field) (value : String) : String :=
  field.key ++ ": " ++ value ++ "\n"

/-- The customary layout of three register values and any sequence of words. -/
def layout (a b c : Register) (words : List Word) : String :=
  definition (.register .a) (toString a.toNat) ++
    definition (.register .b) (toString b.toNat) ++
    definition (.register .c) (toString c.toNat) ++
    "\n" ++ definition .program (wordsText words)

/-- A listing in the customary layout. -/
def render (listing : Listing) : String :=
  layout listing.a listing.b listing.c listing.program.words.toList

/-! ### Faults -/

/-- **Fault.** What is wrong with a line. -/
inductive Fault where
  /-- The line, shown without the blanks around it, is no definition. -/
  | unknownLine (text : String)
  /-- An earlier line has defined the same. -/
  | duplicate (field : Field)
  /-- The value of a register, or a word of the program, is no numeral. -/
  | badInteger (text : String) (cause : Text.NumeralError)
  /-- A word of the program needs more than three bits. -/
  | wordOutOfRange (value : Word)
  /-- The words are no program. -/
  | program (cause : Program.Error)
  deriving DecidableEq, Repr

/-- The wording of a fault. -/
def Fault.message : Fault → String
  | unknownLine text => "unrecognized line " ++ Text.quoted text
  | duplicate field => field.description ++ " is defined twice"
  | badInteger text cause => "invalid integer " ++ Text.quoted text ++ ": " ++ cause.message
  | wordOutOfRange value => "word " ++ toString value.toNat ++ " does not fit in 3 bits"
  | program cause => cause.message

/-- The message of the failure behind a fault, where there is one. -/
def Fault.cause? : Fault → Option String
  | badInteger _ cause => some cause.message
  | program cause => some cause.message
  | unknownLine _ | duplicate _ | wordOutOfRange _ => none

/-- **Error.** Why a text is no listing. -/
inductive Error where
  /-- The line with this number, counted from one, is faulty. -/
  | faulty (line : Nat) (fault : Fault)
  /-- No line is faulty, and this is not defined. -/
  | missing (field : Field)
  deriving DecidableEq, Repr

/-- The wording of an error. -/
def Error.message : Error → String
  | faulty line fault => "line " ++ toString line ++ ": " ++ fault.message
  | missing field => "missing " ++ field.description

/-- The message of the failure behind an error, where there is one. -/
def Error.cause? : Error → Option String
  | faulty _ fault => fault.cause?
  | missing _ => none

end Listing

end ThreeBit
