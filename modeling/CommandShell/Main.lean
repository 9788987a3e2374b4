import CommandShell.Invocation.Session
import CommandShell.Unix.Launching

/-!
# The command line program

The program runs on a host of its own: its files are those of a fresh host and its programs are
the modelled ones, so that nothing outside is changed.  From outside come the arguments, some
variables and the input, which is read to its end before anything runs.

## Main definitions

* `knownVariables` — the variables that come from outside.
* `readToEnd` — the whole input.
* `main` — the program.
-/

namespace CommandShell

/-- The variables that come from outside. -/
def knownVariables : List String :=
  ["HOME", "USER", "LANG", "TERM", "PATH", "XDG_CONFIG_HOME", "CLISH_PROMPT", "CLISH_NO_COLOR",
    "CLISH_LOG"]

/-- The folder in which the program starts. -/
def homeOfHost : Path := Path.ofText "/home"

/-- All bytes of a stream, after those so far. -/
partial def readToEnd (stream : IO.FS.Stream) (soFar : ByteArray) : IO ByteArray := do
  let chunk ← stream.read 65536
  if chunk.isEmpty then return soFar
  readToEnd stream (soFar ++ chunk)

/-- The values of the known variables that are set. -/
def readVariables : IO (List (Text × Text)) := do
  let values ← knownVariables.mapM fun name => do
    return (← IO.getEnv name).map fun value => (name.toList, value.toList)
  return values.filterMap id

end CommandShell

open CommandShell in
/-- Run the program, and end with its status. -/
def main (args : List String) : IO UInt32 := do
  let input ← IO.getStdin
  let output ← IO.getStdout
  let error ← IO.getStderr
  let result := runProgram Unix.host {
    args := args.map String.toList
    vars := ← readVariables
    cwd := homeOfHost
    registeredHome := homeOfHost
    files := Unix.standardFiles
    input := (← readToEnd input ByteArray.empty).toList
    inputIsTerminal := ← input.isTty
    outputIsTerminal := ← output.isTty
    errorIsTerminal := ← error.isTty }
  output.write (ByteArray.mk result.output.toArray)
  output.flush
  error.write (ByteArray.mk result.error.toArray)
  error.flush
  return result.status.toUInt32
