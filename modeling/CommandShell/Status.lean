import CommandShell.Files.Cause
import CommandShell.Line.Tokens

/-!
# How a command ends

## Main definitions

* `Status`, `Status.code` — the outcome of a command that ran.
* `ShellError`, `ShellError.message` — why a line cannot be run to its end.
-/

namespace CommandShell

/-- The outcome of a command. -/
inductive Status where
  /-- The command finished with a status. -/
  | completed (code : Int32)
  /-- The command asked to end the session with a status. -/
  | exit (code : Int32)
  deriving DecidableEq, Repr

namespace Status

/-- The command did what it was asked to do. -/
def success : Status := .completed 0

/-- The command did not. -/
def failure : Status := .completed 1

/-- The status of an outcome. -/
def code : Status → Int32
  | .completed code | .exit code => code

end Status

/-- Why a line cannot be run to its end. -/
inductive ShellError where
  /-- The line cannot be read. -/
  | line (e : LineError)
  /-- A stream of the shell fails. -/
  | stream (cause : Cause)
  deriving DecidableEq, Repr

/-- The report of an error. -/
def ShellError.message : ShellError → Text
  | .line e => e.message
  | .stream cause => "io: ".toList ++ cause.text

end CommandShell
