import CommandShell.Builtin.Basic
import CommandShell.External
import CommandShell.Pipeline

/-!
# The shell

A session reads a line, runs its pipeline, and records the status in the variable `?`.

## Main definitions

* `Machine` — what the commands of a line may change.
* `runCommand` — a builtin, or else a program of the host.
* `Shell`, `Shell.start` — a session.
* `Shell.recordStatus` — the status of the last line.
* `Shell.runLine` — a line.
-/

namespace CommandShell

/-- What the commands of a line may change. -/
structure Machine where
  /-- The state of the session. -/
  state : ShellState
  /-- The files of the host. -/
  files : FileTree
  deriving DecidableEq, Repr

/-- Run a command: a builtin if there is one of its name, else a program of the host. -/
def runCommand (registry : Registry) (host : Host) : Step Machine := fun c m s =>
  match registry.run? m.files c m.state s with
  | some (status, state, s) => (.ok status, { m with state := state }, s)
  | none =>
      match runExternal host c m.state m.files s with
      | (result, files, s) => (result, { m with files := files }, s)

/-- A session. -/
structure Shell where
  /-- What commands may change. -/
  machine : Machine
  /-- The status of the last line, zero before the first. -/
  lastStatus : Int32
  deriving DecidableEq, Repr

/-- What running a line gives. -/
abbrev LineOutcome := Except ShellError Status × Shell × Streams

namespace Shell

/-- The variables of a session. -/
def vars (sh : Shell) : Variables := sh.machine.state.vars

/-- The current folder of a session. -/
def cwd (sh : Shell) : Path := sh.machine.state.location.cwd

/-- Record a status, in words too. -/
def recordStatus (sh : Shell) (code : Int32) : Shell where
  machine := { sh.machine with
    state := { sh.machine.state with
      vars := sh.vars.insert statusName (decimalInt32 code) } }
  lastStatus := code

/-- A session in which nothing has run. -/
def start (state : ShellState) (files : FileTree) : Shell := recordStatus ⟨⟨state, files⟩, 0⟩ 0

/-- Run a line.  A line that cannot be read, or that is blank, leaves the last status as it
is, and so does one that a stream of the shell fails. -/
def runLine (registry : Registry) (host : Host) (sh : Shell) (line : Text) (s : Streams) :
    LineOutcome :=
  match readLine line sh.vars with
  | .error e => (.error (.line e), sh, s)
  | .ok [] => (.ok .success, sh, s)
  | .ok stages =>
      match runPipeline (runCommand registry host) stages sh.machine s with
      | (.ok status, machine, s) =>
          (.ok status, { sh with machine := machine }.recordStatus status.code, s)
      | (.error e, machine, s) => (.error e, { sh with machine := machine }, s)

end Shell

end CommandShell
