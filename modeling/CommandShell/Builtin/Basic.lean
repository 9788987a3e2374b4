import CommandShell.Files.Tree
import CommandShell.Line.Command
import CommandShell.Status
import CommandShell.Streams
import CommandShell.Variables

/-!
# Commands of the shell itself

A builtin may read files, its input, and the state of the shell; it answers in one go, with a
text on its output or a complaint on its error stream.

## Main definitions

* `ShellState` — what a session keeps between commands.
* `emit`, `complain` — the two ways to answer.
* `Builtin` — a command of the shell itself.
* `Registry` — the builtins of a session; of two with one name the later one is used.
-/

namespace CommandShell

/-- What a session keeps between commands. -/
structure ShellState where
  /-- The variables. -/
  vars : Variables
  /-- The home folder and the current folder. -/
  location : Location
  deriving DecidableEq, Repr

/-- Write an answer to the output.  If that fails, the command fails and says so. -/
def emit (name : Text) (text : Text) (s : Streams) : Status × Streams :=
  match s.putOutput text with
  | (.ok (), s) => (.success, s)
  | (.error _, s) =>
      (.failure, s.putError (name ++ ": cannot write to output stream\n".toList))

/-- Write a complaint to the error stream; the command fails. -/
def complain (message : Text) (s : Streams) : Status × Streams :=
  (.failure, s.putError (message ++ ['\n']))

/-- What a builtin does: its status, the state after it, and the streams as it leaves them. -/
abbrev BuiltinRun := FileTree → Command → ShellState → Streams → Status × ShellState × Streams

/-- A command of the shell itself. -/
structure Builtin where
  /-- Its name. -/
  name : Text
  /-- What `--help` prints, if it has a meaning. -/
  help : Option Text
  /-- What it does. -/
  run : BuiltinRun

/-- A builtin that leaves the state alone. -/
def Builtin.reading (answer : FileTree → Command → ShellState → Streams → Status × Streams) :
    BuiltinRun :=
  fun files c state s =>
    match answer files c state s with
    | (status, s) => (status, state, s)

/-- The option that asks for help. -/
def helpOption : Text := "help"

/-- The builtins of a session, the latest first. -/
abbrev Registry := List Builtin

namespace Registry

/-- The builtin with a name. -/
def get? (r : Registry) (name : Text) : Option Builtin := r.find? fun b => b.name = name

/-- One more builtin, which hides those of the same name. -/
def add (r : Registry) (b : Builtin) : Registry := b :: r

/-- The names, each once, in order. -/
def names (r : Registry) : List Text := ((r.map Builtin.name).mergeSort textLe).eraseDups

/-- Run a command if it is a builtin: its help text if that is asked for and there is one,
else what it does. -/
def run? (r : Registry) (files : FileTree) (c : Command) (state : ShellState) (s : Streams) :
    Option (Status × ShellState × Streams) :=
  (r.get? c.name).map fun b =>
    match (if c.options.has helpOption then b.help else none) with
    | some help =>
        match emit b.name help s with
        | (status, s) => (status, state, s)
    | none => b.run files c state s

end Registry

end CommandShell
