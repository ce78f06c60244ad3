import ThreeBit.Check
import ThreeBit.Cli.Args
import ThreeBit.Device.Model
import ThreeBit.Listing.Stored

/-! # The command

`Request.perform` does what a well-formed command line asks for, given the content of the file it
names: it prints the reference stream and, on demand, checks the model device. `respondWith` is the
command around any reader of arguments, a function from its surroundings to all that it says, and
`respond` is the command with the reader of `parseArgs`. -/

namespace ThreeBit.Cli

/-- Why the command fails. -/
inductive Error where
  /-- There is no listing to work on. -/
  | listing (cause : Listing.LoadError)
  /-- The reference run or the check failed. -/
  | failure (cause : Failure)
  deriving DecidableEq, Repr

namespace Error

/-- The wording of an error. -/
def message : Error → String
  | listing cause => cause.message
  | failure cause => cause.message

/-- The message of the failure behind an error, where there is one. -/
def cause? : Error → Option String
  | listing cause => cause.cause?
  | failure cause => cause.cause?

/-- An error with the failure behind it. -/
def report (error : Error) : String :=
  "Error: " ++ error.message ++
    match error.cause? with
    | some cause => "\n\nCaused by:\n    " ++ cause
    | none => ""

end Error

/-- Check the model device on a listing, as the last part of a request. -/
def verifyModel {τ : Type} (log : τ → LogEntry → τ) (config : Config) (listing : Listing)
    (state : τ) : τ × Except Error Unit :=
  let model := Model.new listing.program.size config.registerBits
  match Model.device.checkLogged log config listing state model with
  | (state, _, .ok report) => (log state (.verified report.cycles report.steps), .ok ())
  | (state, _, .error failure) => (state, .error (.failure failure))

/-- Do what a request asks for. The result is what is printed, which stands even if the check of
the model fails afterwards, and whether all went well. -/
def Request.perform {τ : Type} (log : τ → LogEntry → τ) (request : Request)
    (content : Except ReadError ByteArray) (state : τ) : τ × String × Except Error Unit :=
  match Listing.load request.path content with
  | .error cause => (state, "", .error (.listing cause))
  | .ok listing =>
    let state := log state (.parsed request.path listing.registers listing.program.size)
    match request.config.expectedLogged log listing state with
    | (state, .error failure) => (state, "", .error (.failure failure))
    | (state, .ok outcome) =>
      let printed := wordsText outcome.outputs.toList ++ "\n"
      if request.verify then
        let (state, result) := verifyModel log request.config listing state
        (state, printed, result)
      else (state, printed, .ok ())

/-- **Response.** All that the command says. -/
structure Response where
  /-- The exit status. -/
  exit : UInt32
  /-- What is printed. -/
  output : String := ""
  /-- The lines of the log. -/
  log : Array String := #[]
  /-- What is said about an error. -/
  report : String := ""
  deriving DecidableEq, Repr, Inhabited

/-- The response to a command line, given a reader of arguments, the text that asks for a log filter
and a view of the files. The reader finds the request that the arguments make, or answers them by
itself. -/
def respondWith (parser : List String → Except Response Request) (arguments : List String)
    (filter : Option String) (read : String → Except ReadError ByteArray) : Response :=
  match parser arguments with
  | .error response => response
  | .ok request =>
    let filter := LogFilter.ofText filter
    let (log, output, result) := request.perform
      (fun lines entry => if filter.passes entry then lines.push entry.render else lines)
      (read request.path) #[]
    match result with
    | .ok () => { exit := 0, output, log }
    | .error error => { exit := 1, output, log, report := error.report }

/-- The request that arguments make. A call for help and arguments out of order are answered on the
spot. -/
def readRequest (arguments : List String) : Except Response Request :=
  match parseArgs arguments with
  | .error error => .error { exit := 2, report := "error: " ++ error.message }
  | .ok .help => .error { exit := 0, output := help }
  | .ok (.run request) => .ok request

/-- The response to a command line, given the text that asks for a log filter and a view of the
files. -/
def respond : List String → Option String → (String → Except ReadError ByteArray) → Response :=
  respondWith readRequest

end ThreeBit.Cli
