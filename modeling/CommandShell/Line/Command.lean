import CommandShell.Line.Expansion
import CommandShell.Line.Options
import CommandShell.Line.Tokens

/-!
# Commands

A stage of a line becomes a command.  Its words are expanded with the values of the variables; if
the first is spelled as an assignment, the command is the one that sets the variable.

## Main definitions

* `Command` — a command ready to run.
* `readStage` — the command of a stage.
* `readLine` — the commands of a line.
-/

namespace CommandShell

/-- A command that is ready to run. -/
structure Command where
  /-- The name of the builtin or program. -/
  name : Text
  /-- The positional arguments. -/
  args : List Text
  /-- The options. -/
  options : Options
  /-- All words after the name, options included. -/
  argv : List Text
  deriving DecidableEq, Repr

/-- A command without options, each of whose words is positional. -/
def Command.plain (name : Text) (args : List Text) : Command := ⟨name, args, .empty, args⟩

/-- A command whose options are split off the words after its name. -/
def Command.ofWords (name : Text) (argv : List Text) : Command :=
  ⟨name, (splitOptions argv).1, (splitOptions argv).2, argv⟩

/-- The name of the command that an assignment becomes. -/
def assignmentName : Text := ['=']

/-- The command of a stage.  An assignment has its words for arguments, however many they are; more
than one value is an error that running it reports.  Options are split off only after expansion, so
a value that looks like an option is one. -/
def readStage (vars : Variables) : Stage → Command
  | [] => .plain [] []
  | head :: rest =>
      match head.assignment? with
      | some (name, value) =>
          .plain assignmentName (name :: value.expand vars :: rest.map (Word.expand vars))
      | none => .ofWords (head.expand vars) (rest.map (Word.expand vars))

section Stages

variable {head value : Word} {name : Text} (rest : Stage) (vars : Variables)

theorem readStage_of_assign (h : head.assignment? = some (name, value)) :
    readStage vars (head :: rest)
      = .plain assignmentName (name :: value.expand vars :: rest.map (Word.expand vars)) := by
  rw [readStage, h]

theorem readStage_of_run (h : head.assignment? = none) :
    readStage vars (head :: rest)
      = .ofWords (head.expand vars) (rest.map (Word.expand vars)) := by
  rw [readStage, h]

end Stages

/-- The commands of a line, one for each stage. -/
def readLine (line : Text) (vars : Variables) : Except LineError (List Command) :=
  (tokenize line).map (List.map (readStage vars))

end CommandShell
