import CommandShell.Builtin.Search
import CommandShell.Shell

/-!
# Running scripts

A script is read line by line from the input of the shell, and its commands read the same
input: a command that reads takes the lines that follow it.

## Main definitions

* `Prompt` — what is shown before a line is read.
* `Shell.execute` — a line of a script, with its complaint if it cannot be read.
* `Shell.runScript` — all lines of the input.
* `Shell.runOnce` — a single line.
-/

namespace CommandShell

/-- What is shown before a line is read. -/
structure Prompt where
  /-- The text of the prompt. -/
  text : Text
  /-- It is shown in colour. -/
  color : Bool
  /-- It is shown at all. -/
  shown : Bool
  deriving DecidableEq, Repr

/-- The prompt as it is written, in bold green if it has colour. -/
def Prompt.render (p : Prompt) : Text :=
  if p.color then
    controlSequence "38;5;10m" ++ controlSequence "1m" ++ p.text ++ controlSequence "0m"
  else p.text

/-- The status of a line that cannot be read. -/
def lineErrorStatus : Int32 := 2

/-- A line of a script as bytes, with its end taken off. -/
def scriptLine (raw : Bytes) : Text :=
  ((Utf8.decodeLossy raw).reverse.dropWhile fun c => c = '\n' ∨ c = '\r').reverse

namespace Shell

section Running

variable (registry : Registry) (host : Host)

/-- Run a line of a script: the status with which the session is to end, if it is; a complaint
and a status of its own if the line cannot be read. -/
def execute (sh : Shell) (line : Text) (s : Streams) :
    Except ShellError (Option Int32) × Shell × Streams :=
  match sh.runLine registry host line s with
  | (.ok (.exit code), sh, s) => (.ok (some code), sh, s)
  | (.ok (.completed _), sh, s) => (.ok none, sh, s)
  | (.error (.line e), sh, s) =>
      (.ok none, sh.recordStatus lineErrorStatus, s.putError (e.message ++ ['\n']))
  | (.error e, sh, s) => (.error e, sh, s)

/-- Show the prompt, if it is to be shown. -/
def showPrompt (p : Prompt) (s : Streams) : Except ShellError Unit × Streams :=
  if p.shown then
    match s.putOutput p.render with
    | (result, s) => (result.mapError .stream, s)
  else (.ok (), s)

/-- Run at most so many lines of the input: the status with which the session ends. -/
def runLines (p : Prompt) : Nat → Shell → Streams → Except ShellError Int32 × Shell × Streams
  | 0, sh, s => (.ok sh.lastStatus, sh, s)
  | fuel + 1, sh, s =>
      match showPrompt p s with
      | (.error e, s) => (.error e, sh, s)
      | (.ok (), s) =>
          match s.input.readUntil with
          | (none, input) => (.error (.stream .stream), sh, { s with input := input })
          | (some [], input) => (.ok sh.lastStatus, sh, { s with input := input })
          | (some raw, input) =>
              match sh.execute registry host (scriptLine raw) { s with input := input } with
              | (.ok none, sh, s) => runLines p fuel sh s
              | (.ok (some code), sh, s) => (.ok code, sh, s)
              | (.error e, sh, s) => (.error e, sh, s)

/-- Run all lines of the input, until a command ends the session.  Every round takes at least
one byte of the input, so there are no more rounds than bytes, and one to find the end. -/
def runScript (p : Prompt) (sh : Shell) (s : Streams) :
    Except ShellError Int32 × Shell × Streams :=
  runLines registry host p (s.input.bytes.length + 1) sh s

/-- Run a single line: the status with which the session ends. -/
def runOnce (sh : Shell) (line : Text) (s : Streams) :
    Except ShellError Int32 × Shell × Streams :=
  match sh.execute registry host line s with
  | (.ok ended, sh, s) => (.ok (ended.getD sh.lastStatus), sh, s)
  | (.error e, sh, s) => (.error e, sh, s)

end Running

end Shell

end CommandShell
