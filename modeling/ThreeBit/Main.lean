import ThreeBit.Cli.Run

/-! # The program

The thin layer around `ThreeBit.Cli.respond`: it looks at the file, passes on what the command says,
and exits. The log and reports of errors go to the standard error stream; the variable `TRIBIT_LOG`
asks for a log filter. -/

namespace ThreeBit.Cli

/-- What a look at the file at a path gives. -/
def readContent (path : String) : IO (Except ReadError ByteArray) := do
  try
    return .ok (← IO.FS.readBinFile path)
  catch
    | .noFileOrDirectory .. => return .error .notFound
    | .inappropriateType .. => return .error .isDirectory
    | error => return .error (.other (toString error))

/-- The content of the file that a command line names, if it names one. -/
def namedContent (arguments : List String) : IO (Except ReadError ByteArray) := do
  match readRequest arguments with
  | .ok request => readContent request.path
  | .error _ => return .error .notFound

end ThreeBit.Cli

open ThreeBit.Cli in
/-- Answer the command line. -/
def main (arguments : List String) : IO UInt32 := do
  let content ← namedContent arguments
  let response := respond arguments (← IO.getEnv "TRIBIT_LOG") fun _ => content
  let errors ← IO.getStderr
  for line in response.log do
    errors.putStrLn line
  IO.print response.output
  if !response.report.isEmpty then
    errors.putStrLn response.report
  return response.exit
