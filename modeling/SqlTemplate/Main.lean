import SqlTemplate.Command

/-!
# The program
-/

namespace SqlTemplate.Program

/-- The error of the system by its number. -/
def readError (e : IO.Error) : ReadError :=
  match e with
  | .noFileOrDirectory _ _ _ => .missing
  | .inappropriateType _ 20 _ => .notDirectory
  | .inappropriateType _ 21 _ => .isDirectory
  | e => .other (toString e)

/-- Reads a file. -/
def readFile (path : String) : IO (Except ReadError String) := do
  match ← (IO.FS.readFile path).toBaseIO with
  | .ok text => return .ok text
  | .error e => return .error (readError e)

/-- Reads the standard input to its end. -/
partial def readAll (stream : IO.FS.Stream) (text : String) : IO String := do
  let line ← stream.getLine
  if line.isEmpty then return text else readAll stream (text ++ line)

/-- The files and the standard input of the process. -/
def world : Command.World IO where
  file := readFile
  standardInput := do
    match ← (readAll (← IO.getStdin) "").toBaseIO with
    | .ok text => return .ok text
    | .error e => return .error (.other (toString e))

/-- Answers requests line by line until the input ends. -/
partial def serveLines (settings : Settings) (input output : IO.FS.Stream) : IO Unit := do
  let line ← input.getLine
  unless line.isEmpty do
    for response in Service.serve settings line do
      output.putStr (response.value.compact ++ "\n")
      output.flush
    serveLines settings input output

end SqlTemplate.Program

open SqlTemplate in
/-- Runs the program. -/
def main (args : List String) : IO UInt32 := do
  let stdout ← IO.getStdout
  let stderr ← IO.getStderr
  match ← Command.run Program.world args with
  | .done output =>
    stdout.putStr output.stdout
    stderr.putStr output.stderr
    return output.exit.toUInt32
  | .serve settings text =>
    stderr.putStr text
    Program.serveLines settings (← IO.getStdin) stdout
    return 0
