import CommandShell.Invocation.Help
import CommandShell.Builtin.Standard
import CommandShell.Script
import CommandShell.Settings.Loading

/-!
# The program

The program reads its arguments and its settings, and then runs a line or a script.  Whatever
goes wrong is told on the error stream.

## Main definitions

* `Surroundings` — what the program finds when it starts.
* `ProgramExit` — what it leaves.
* `startupReport` — the report of an error that ends the program.
* `runProgram` — the program.
-/

namespace CommandShell

/-- What the program finds when it starts. -/
structure Surroundings where
  /-- Its arguments. -/
  args : List Text
  /-- Its environment. -/
  vars : List (Text × Text)
  /-- The current folder. -/
  cwd : Path
  /-- The home folder that is registered for the user. -/
  registeredHome : Path
  /-- The files. -/
  files : FileTree
  /-- Its input. -/
  input : Bytes
  /-- The input is a terminal. -/
  inputIsTerminal : Bool
  /-- The output is a terminal. -/
  outputIsTerminal : Bool
  /-- The error stream is a terminal. -/
  errorIsTerminal : Bool
  deriving DecidableEq, Repr

namespace Surroundings

/-- A variable of the environment. -/
def env (s : Surroundings) (name : Text) : Option Text := s.vars.lookup name

/-- The settings, and where they come from. -/
def settings (s : Surroundings) (asked : Option Text) :
    Except SettingsError (Settings × Source) :=
  loadSettings (s.files.readText (Path.names s.cwd)) Layer.ofFile? s.env
    (some (homeFolder s.env s.registeredHome)) none (asked.map Path.ofText)

end Surroundings

/-- What the program leaves. -/
structure ProgramExit where
  /-- Its status. -/
  status : UInt8
  /-- What it has written to its output. -/
  output : Bytes
  /-- What it has written to its error stream. -/
  error : Bytes
  deriving DecidableEq, Repr

/-- An outcome without a session. -/
def ProgramExit.told (status : UInt8) (output error : Text) : ProgramExit :=
  ⟨status, Utf8.encode output, Utf8.encode error⟩

/-- A status as the system keeps it, in one byte. -/
def exitByte (code : Int32) : UInt8 := code.toUInt32.toUInt8

/-- The report of an error that ends the program, its heading in bold red if it has colour. -/
def startupReport (color : Bool) (message : Text) : Text :=
  let heading : Text := "error:"
  let heading := if color then
      controlSequence "38;5;9m" ++ controlSequence "1m" ++ heading ++ controlSequence "0m"
    else heading
  heading ++ ' ' :: message ++ ['\n']

/-- The session that an invocation asks for. -/
def runSession (host : Host) (s : Surroundings) (i : Invocation) (settings : Settings) :
    Except ShellError Int32 × Shell × Streams :=
  let vars : Variables := if settings.importEnv then .ofList s.vars else .empty
  let shell := Shell.start ⟨vars, Location.start s.cwd⟩ s.files
  let streams : Streams :=
    ⟨.ofBytes s.input, .fresh, .fresh, s.inputIsTerminal, s.outputIsTerminal⟩
  let prompt : Prompt := {
    text := i.prompt.getD settings.prompt
    color := settings.color && !i.noColor && s.outputIsTerminal
    shown := s.inputIsTerminal }
  match i.command with
  | some line => shell.runOnce Registry.standard host line streams
  | none => shell.runScript Registry.standard host prompt streams

/-- The program. -/
def runProgram (host : Host) (s : Surroundings) : ProgramExit :=
  match Invocation.ofArguments s.args with
  | .error (.misuse e) => .told 2 [] (Halt.misuse e).text
  | .error halt => .told 0 halt.text []
  | .ok i =>
      let report := startupReport (s.errorIsTerminal && !i.noColor)
      match s.settings i.config with
      | .error e => .told 1 [] (report e.message)
      | .ok (settings, _) =>
          match runSession host s i settings with
          | (.ok code, _, streams) =>
              ⟨exitByte code, streams.output.written, streams.error.written⟩
          | (.error e, _, streams) =>
              ⟨1, streams.output.written,
                streams.error.written ++ Utf8.encode (report e.message)⟩

end CommandShell
