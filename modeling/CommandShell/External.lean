import CommandShell.Builtin.Basic

/-!
# Programs of the host

A command that is no builtin names a program of the host.  All that is left of the input is
read before the program starts, whether it wants it or not, and what it writes is passed on
when it has ended.  A program neither sees nor changes the state of the shell: it is given a
copy of the exported variables and the name of the current folder.  It may change files.

What programs do is left open: it is any function of a request and the files.

## Main definitions

* `Request` — what a program is given.
* `Ending`, `Launch` — how it ends, or why it cannot start.
* `Host` — what programs do.
* `runExternal` — a command that is no builtin.
-/

namespace CommandShell

/-- What a program is given. -/
structure Request where
  /-- The name or path of the program. -/
  program : Text
  /-- Its arguments. -/
  args : List Text
  /-- The folder that it is started in. -/
  cwd : Path
  /-- Its variables. -/
  vars : List (Text × Text)
  /-- Its input. -/
  input : Bytes
  deriving DecidableEq, Repr

/-- How a program ends. -/
inductive Ending where
  /-- With a status. -/
  | exited (code : UInt8)
  /-- By a signal. -/
  | signalled (signal : Nat)
  deriving DecidableEq, Repr

/-- The status that an ending stands for. -/
def Ending.code : Ending → Int32
  | .exited code => .ofNat code.toNat
  | .signalled signal => .ofNat (128 + signal)

/-- What becomes of a request. -/
inductive Launch where
  /-- The program cannot be started. -/
  | failed (cause : Cause)
  /-- The program has run: what it has written to its output and its error stream, and how it
  has ended. -/
  | ran (output error : Bytes) (ending : Ending)
  deriving DecidableEq, Repr

/-- What the programs of a host do, and what becomes of the files. -/
abbrev Host := Request → FileTree → Launch × FileTree

/-- What the shell says of a program that it cannot start, and the status. -/
def launchFailure (program : Text) : Cause → Text × Int32
  | .notFound => (program ++ ": command not found\n".toList, 127)
  | cause => (program ++ [':', ' '] ++ cause.text ++ ['\n'], 126)

/-- The request that a command makes. -/
def Request.ofCommand (c : Command) (state : ShellState) (input : Bytes) : Request :=
  ⟨c.name, c.argv, state.location.cwd, state.vars.exported, input⟩

/-- Pass on what a program has written, unless it has written to the terminal itself.  Both
streams are flushed in the end, also if there was nothing to pass on, and both are served before a
failure of either counts. -/
def passOn (output error : Bytes) (s : Streams) : Except ShellError Unit × Streams :=
  if s.outputIsTerminal then (.ok (), s)
  else
    let (outResult, out) := s.output.put output
    let (errResult, err) := s.error.put error
    ((do outResult; errResult).mapError .stream, { s with output := out, error := err })

/-- Run a command that is no builtin. -/
def runExternal (host : Host) (c : Command) (state : ShellState) (files : FileTree)
    (s : Streams) : Except ShellError Status × FileTree × Streams :=
  let (input, s) := if s.inputIsTerminal then (some [], s) else s.readAll
  match input with
  | none => (.error (.stream .stream), files, s)
  | some input =>
      match host (.ofCommand c state input) files with
      | (.failed cause, files) =>
          let (message, code) := launchFailure c.name cause
          (.ok (.completed code), files, s.putError message)
      | (.ran output error ending, files) =>
          match passOn output error s with
          | (.ok (), s) => (.ok (.completed ending.code), files, s)
          | (.error e, s) => (.error e, files, s)

end CommandShell
