import TextTemplate.CommandLine.Session

/-
  The program: one run with the arguments and the
  environment that it is started with.

  Key definitions include:
    * `main`
-/

------------------------------------------------------------
-- Program
------------------------------------------------------------

namespace TextTemplate

/- The variables that hold settings. -/
def readEnvironment : IO Environment := do
  let names :=
    [Settings.maxStepsVariable, Settings.verbosityVariable]
  names.filterMapM fun name => do
    let raw ← IO.getEnv name
    return raw.map fun raw => (name, raw)

/- Append the log lines of a session to the real files. -/
def appendLogs
    (session : Session) : IO Unit :=
  for (path, file) in session.files.entries do
    IO.FS.withFile path .append fun handle =>
      file.lines.forM handle.putStrLn

/- Show a line on its stream. -/
def showLine : Shown → IO Unit
  | .output line => IO.println line
  | .message line => IO.eprintln line

end TextTemplate

open TextTemplate in
/- Run the program. -/
def main (arguments : List String) : IO UInt32 := do
  let environment ← readEnvironment
  let (result, session) :=
    Session.start.run environment arguments
  appendLogs session
  result.shown.forM showLine
  match result.ending with
  | .status code => return UInt32.ofNat code
  | .unhandled failure =>
      IO.eprintln failure.message
      return 1
