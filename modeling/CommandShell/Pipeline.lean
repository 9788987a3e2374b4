import CommandShell.Line.Command
import CommandShell.Status
import CommandShell.Streams

/-!
# Pipelines

The stages of a line run one after the other.  The first reads the input of the shell, the
last writes its output, and what a stage in between writes is what the next one reads, once it
is complete.  All stages share the error stream.  A stage that asks to end the session, or that
fails, is the last to run.

What it takes to run a single command is left open: it is any function that may change a state.

## Main definitions

* `Step` — how a single command is run.
* `runStages` — the stages of a pipeline, the first of which may be fed by another stage.
* `runPipeline` — a whole pipeline.
-/

namespace CommandShell

/-- What running a command gives: a status or an error, the state after it, and the streams as
they are left. -/
abbrev Outcome (σ : Type) := Except ShellError Status × σ × Streams

/-- How a single command is run. -/
abbrev Step (σ : Type) := Command → σ → Streams → Outcome σ

section Pipelines

variable {σ : Type}

/-- A command with its input: that of the shell, or what the stage before has written. -/
def runStage (step : Step σ) (fed : Option Bytes) (c : Command) (state : σ) (s : Streams) :
    Outcome σ :=
  match fed with
  | none => step c state s
  | some bytes =>
      match step c state { s with input := .ofBytes bytes, inputIsTerminal := false } with
      | (result, state, after) =>
          (result, state, { after with input := s.input, inputIsTerminal := s.inputIsTerminal })

/-- A command whose output is kept for the next stage: what it has written comes first. -/
def runInner (step : Step σ) (fed : Option Bytes) (c : Command) (state : σ) (s : Streams) :
    Bytes × Outcome σ :=
  match runStage step fed c state { s with output := .fresh, outputIsTerminal := false } with
  | (result, state, after) =>
      (after.output.written, result, state,
        { after with output := s.output, outputIsTerminal := s.outputIsTerminal })

/-- The stages of a pipeline, the first of which reads the input of the shell or what another
stage has written. -/
def runStages (step : Step σ) : Option Bytes → List Command → σ → Streams → Outcome σ
  | _, [], state, s => (.ok .success, state, s)
  | fed, [c], state, s => runStage step fed c state s
  | fed, c :: next :: rest, state, s =>
      match runInner step fed c state s with
      | (written, .ok (.completed _), state, s) =>
          runStages step (some written) (next :: rest) state s
      | (_, stopped) => stopped

/-- A whole pipeline; one without stages succeeds. -/
def runPipeline (step : Step σ) (stages : List Command) (state : σ) (s : Streams) : Outcome σ :=
  runStages step none stages state s

@[simp] theorem runStages_nil (step : Step σ) (fed : Option Bytes) (state : σ) (s : Streams) :
    runStages step fed [] state s = (.ok .success, state, s) := rfl

@[simp] theorem runStages_singleton (step : Step σ) (fed : Option Bytes) (c : Command)
    (state : σ) (s : Streams) :
    runStages step fed [c] state s = runStage step fed c state s := rfl

end Pipelines

end CommandShell
