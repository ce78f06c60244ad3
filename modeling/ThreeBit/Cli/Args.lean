import ThreeBit.Config
import ThreeBit.Text.Lines
import ThreeBit.Text.Numeral

/-! # Command-line arguments

The arguments are taken from left to right, and the first that is out of order decides: a call for
help is answered even if the rest is wrong, unless something before it is. An `Args` holds what has
been said so far, and `help` is what the command says about itself. -/

namespace ThreeBit.Cli

/-- **Request.** What a well-formed command line asks for. -/
structure Request where
  /-- The path of the listing. -/
  path : String
  /-- The limits. -/
  config : Config := {}
  /-- Whether the model device is to be checked, too. -/
  verify : Bool := false
  deriving DecidableEq, Repr, Inhabited

/-- The options that take a number. -/
inductive Setting where
  /-- The step budget of the reference. -/
  | maxSteps
  /-- The cycle budget of a device. -/
  | maxCycles
  /-- The width of the device registers. -/
  | registerBits
  deriving DecidableEq, Repr

namespace Setting

/-- The name of an option. -/
def name : Setting → String
  | maxSteps => "--max-steps"
  | maxCycles => "--max-cycles"
  | registerBits => "--register-bits"

/-- The option with a name, which has to be given in full. -/
def ofName? (name : String) : Option Setting :=
  [maxSteps, maxCycles, registerBits].find? fun setting => setting.name == name

end Setting

/-- Why a command line is not well-formed. -/
inductive UsageError where
  /-- There is no such option. -/
  | unknownOption (argument : String)
  /-- Something is given twice. -/
  | repeated (name : String)
  /-- An option lacks its value. -/
  | missingValue (setting : Setting)
  /-- The value of an option is no number in its range. -/
  | badValue (setting : Setting) (value : String)
  /-- A flag has a value. -/
  | unwantedValue (name : String)
  /-- No listing is named. -/
  | missingListing
  /-- The name of the listing is empty. -/
  | emptyListing
  /-- More than one listing is named. -/
  | extraListing (argument : String)
  deriving DecidableEq, Repr

/-- The wording of a usage error. -/
def UsageError.message : UsageError → String
  | unknownOption argument => "unknown option " ++ argument
  | repeated name => name ++ " is given twice"
  | missingValue setting => setting.name ++ " needs a value"
  | badValue setting value => "invalid value for " ++ setting.name ++ ": " ++ value
  | unwantedValue name => name ++ " takes no value"
  | missingListing => "no listing is given"
  | emptyListing => "the path of the listing is empty"
  | extraListing argument => "more than one listing is given: " ++ argument

/-- What the command is called for. -/
inductive Invocation where
  /-- To explain itself. -/
  | help
  /-- To work on a listing. -/
  | run (request : Request)
  deriving DecidableEq, Repr

/-! ### Values -/

/-- The value of a budget. -/
def readBudget (value : String) : Option UInt64 :=
  (Text.readNumeral (UInt64.size - 1) value.toList).toOption.map Nat.toUInt64

/-- The value of a width. Zero may have a minus sign. -/
def readWidth (value : String) : Option Nat :=
  match value.toList with
  | '-' :: digits => if digits = [] then none else (Text.readDigits 0 0 digits).toOption
  | numeral => (Text.readNumeral (UInt32.size - 1) numeral).toOption

/-! ### Arguments -/

/-- **Arguments.** What the arguments taken so far have said. -/
structure Args where
  /-- The path of the listing. -/
  path : Option String := none
  /-- The step budget. -/
  maxSteps : Option UInt64 := none
  /-- The cycle budget. -/
  maxCycles : Option UInt64 := none
  /-- The register width. -/
  registerBits : Option Nat := none
  /-- Whether the model device is to be checked. -/
  verify : Bool := false
  deriving DecidableEq, Repr, Inhabited

namespace Args

/-- Whether an option has been given. -/
def gives (args : Args) : Setting → Bool
  | .maxSteps => args.maxSteps.isSome
  | .maxCycles => args.maxCycles.isSome
  | .registerBits => args.registerBits.isSome

/-- Give an option its value. -/
def set (args : Args) (setting : Setting) (value : String) : Except UsageError Args :=
  let updated := match setting with
    | .maxSteps => (readBudget value).map fun limit => { args with maxSteps := some limit }
    | .maxCycles => (readBudget value).map fun limit => { args with maxCycles := some limit }
    | .registerBits => (readWidth value).map fun bits => { args with registerBits := some bits }
  match updated with
  | none => .error (.badValue setting value)
  | some updated => if args.gives setting then .error (.repeated setting.name) else .ok updated

/-- Name the listing. -/
def setPath (args : Args) (argument : String) : Except UsageError Args :=
  if args.path.isSome then .error (.extraListing argument)
  else if argument.isEmpty then .error .emptyListing
  else .ok { args with path := some argument }

/-- The request that complete arguments make. -/
def finish (args : Args) : Except UsageError Request :=
  let preset : Config := {}
  match args.path with
  | none => .error .missingListing
  | some path => .ok {
      path
      config := {
        maxSteps := args.maxSteps.getD preset.maxSteps
        maxCycles := args.maxCycles.getD preset.maxCycles
        registerBits := args.registerBits.getD preset.registerBits }
      verify := args.verify }

/-- Take arguments that can only name listings. -/
def readPaths (args : Args) : List String → Except UsageError Args
  | [] => .ok args
  | argument :: rest =>
    match args.setPath argument with
    | .ok args => args.readPaths rest
    | .error error => .error error

end Args

/-- **Token.** What an argument is by its form alone. -/
inductive Token where
  /-- The mark after which there are no options. -/
  | endOfOptions
  /-- An option with a name of several letters, with the value after an equality sign. -/
  | long (name : String) (value : Option String)
  /-- Options of one letter each. -/
  | short (letters : List Char)
  /-- Anything else, a lone hyphen included. -/
  | plain
  deriving DecidableEq, Repr

/-- The form of an argument. -/
def Token.ofArgument (argument : String) : Token :=
  match argument.toList with
  | ['-', '-'] => .endOfOptions
  | '-' :: '-' :: _ =>
    match Text.cutAt '=' argument.toList with
    | some (name, value) => .long (String.ofList name) (some (String.ofList value))
    | none => .long argument none
  | '-' :: letter :: letters => .short (letter :: letters)
  | _ => .plain

namespace Args

/-- Take the remaining arguments. -/
def read (args : Args) : List String → Except UsageError Invocation
  | [] => args.finish.map .run
  | argument :: rest =>
    match Token.ofArgument argument with
    | .endOfOptions => (args.readPaths rest >>= finish).map .run
    -- help is answered on the spot: what follows is not looked at
    | .long "--help" none | .short ('h' :: _) => .ok .help
    | .long "--help" (some _) => .error (.unwantedValue "--help")
    | .long "--verify" (some _) => .error (.unwantedValue "--verify")
    | .long "--verify" none =>
      if args.verify then .error (.repeated "--verify")
      else { args with verify := true }.read rest
    | .long name value =>
      match Setting.ofName? name, value, rest with
      | none, _, _ => .error (.unknownOption argument)
      | some setting, some value, rest =>
        match args.set setting value with
        | .ok args => args.read rest
        | .error error => .error error
      | some setting, none, [] => .error (.missingValue setting)
      | some setting, none, value :: rest =>
        -- a hyphen starts an option, so that the value has been left out
        if value.startsWith "-" then .error (.missingValue setting)
        else
          match args.set setting value with
          | .ok args => args.read rest
          | .error error => .error error
    | .short _ => .error (.unknownOption argument)
    | .plain =>
      match args.setPath argument with
      | .ok args => args.read rest
      | .error error => .error error

end Args

/-- What a command line calls the command for. -/
def parseArgs (arguments : List String) : Except UsageError Invocation :=
  ({} : Args).read arguments

/-- The text of the help. -/
def help : String :=
  "Compute the expected output stream of a tribit program\n\n" ++
  "Usage: tribit-oracle [OPTIONS] <LISTING>\n\n" ++
  "Arguments:\n" ++
  "  <LISTING>  Path to the listing holding the initial registers and the program\n\n" ++
  "Options:\n" ++
  "      --max-steps <MAX_STEPS>          " ++
    "Instructions the reference interpreter may execute before giving up [default: 1000000]\n" ++
  "      --max-cycles <MAX_CYCLES>        " ++
    "Clock cycles a device may take to halt [default: 1000000]\n" ++
  "      --register-bits <REGISTER_BITS>  Width of the device registers [default: 48]\n" ++
  "      --verify                         " ++
    "Also check the software device model against the reference\n" ++
  "  -h, --help                           Print help\n"

end ThreeBit.Cli
