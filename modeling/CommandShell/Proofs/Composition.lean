import CommandShell.Pipeline
import Mathlib.Logic.Basic

/-!
# Pipelines are made of pipelines

A pipeline may be cut between any two stages.  Its first part runs with its output kept in a
buffer, and if that part completes, the second runs with the buffer for its input.  The laws
hold for every way to run a single command, since the pipeline only ever hands streams around.

## Main definitions

* `Streams.capture`, `Streams.release` — the output goes to a buffer, and comes back.
* `Streams.feed`, `Streams.unfeed` — the input comes from a buffer, and comes back.
* `Outcome.mapStreams` — the same outcome with other streams.

## Main results

* `runStages_fed` — stages that are fed are a pipeline of their own with other streams.
* `runStages_append` — the stages before a cut, and then those after it.
* `runPipeline_append` — **a pipeline is its first part followed by its second.**
-/

namespace CommandShell

/-! ### Streams that are exchanged -/

namespace Streams

/-- The same streams with an empty buffer for the output. -/
def capture (s : Streams) : Streams := { s with output := .fresh, outputIsTerminal := false }

/-- Streams that have the output of `s` again. -/
def release (after s : Streams) : Streams :=
  { after with output := s.output, outputIsTerminal := s.outputIsTerminal }

/-- The same streams with a buffer for the input. -/
def feed (s : Streams) (b : Bytes) : Streams :=
  { s with input := .ofBytes b, inputIsTerminal := false }

/-- Streams that have the input of `s` again. -/
def unfeed (after s : Streams) : Streams :=
  { after with input := s.input, inputIsTerminal := s.inputIsTerminal }

@[simp] theorem capture_capture (s : Streams) : s.capture.capture = s.capture := rfl

end Streams

section Composition

variable {σ : Type} (step : Step σ)

/-- The same outcome with other streams. -/
def Outcome.mapStreams (f : Streams → Streams) (o : Outcome σ) : Outcome σ :=
  (o.1, o.2.1, f o.2.2)

/-! ### One stage -/

/-- A stage whose output is kept is a stage that writes to a buffer. -/
theorem runInner_eq (fed : Option Bytes) (c : Command) (state : σ) (s : Streams) :
    runInner step fed c state s = ((runStage step fed c state s.capture).2.2.output.written,
      (runStage step fed c state s.capture).mapStreams (·.release s)) := rfl

/-- A stage before others: they run, fed with what it has written, unless it has stopped. -/
theorem runStages_cons (fed : Option Bytes) (c : Command) {rest : List Command} (h : rest ≠ [])
    (state : σ) (s : Streams) :
    runStages step fed (c :: rest) state s
      = match runStage step fed c state s.capture with
        | (.ok (.completed _), state, a) =>
            runStages step (some a.output.written) rest state (a.release s)
        | (stopped, state, a) => (stopped, state, a.release s) := by
  cases rest with
  | nil => exact absurd rfl h
  | cons next rest =>
    rw [runStages, runInner_eq]
    -- only a stage that completes is followed by another
    rcases runStage step fed c state s.capture with ⟨(e | (code | code)), state, a⟩ <;> rfl

/-! ### Stages that are fed -/

/-- Stages that are fed leave the input of the shell alone. -/
theorem runStages_unfeed (b : Bytes) (stages : List Command) (state : σ) (s i : Streams) :
    runStages step (some b) stages state (s.unfeed i)
      = (runStages step (some b) stages state s).mapStreams (·.unfeed i) := by
  -- the buffer and the state change from stage to stage, and the streams are handed on
  induction stages generalizing b state s with
  | nil => rfl
  | cons c rest ih =>
    rcases eq_or_ne rest [] with rfl | h
    · rfl
    · have hstage : runStage step (some b) c state (s.unfeed i).capture
          = (runStage step (some b) c state s.capture).mapStreams (·.unfeed i) := rfl
      rw [runStages_cons step _ c h, runStages_cons step _ c h, hstage]
      rcases runStage step (some b) c state s.capture with ⟨(e | (code | code)), state, a⟩
      · rfl
      · exact ih _ state (a.release s)
      · rfl

/-- Stages that are fed are a pipeline of their own that reads the buffer. -/
theorem runStages_fed (b : Bytes) {stages : List Command} (h : stages ≠ []) (state : σ)
    (s : Streams) :
    runStages step (some b) stages state s
      = (runStages step none stages state (s.feed b)).mapStreams (·.unfeed s) := by
  cases stages with
  | nil => exact absurd rfl h
  | cons c rest =>
    rcases eq_or_ne rest [] with rfl | hrest
    · rfl
    · have hstage : runStage step (some b) c state s.capture
          = (runStage step none c state (s.feed b).capture).mapStreams (·.unfeed s) := rfl
      rw [runStages_cons step _ c hrest, runStages_cons step _ c hrest, hstage]
      rcases runStage step none c state (s.feed b).capture with ⟨(e | (code | code)), state, a⟩
      · rfl
      · exact runStages_unfeed step _ rest state (a.release s) s
      · rfl

/-! ### Cutting a pipeline -/

/-- The stages before a cut write to a buffer, which feeds those after it. -/
theorem runStages_append {front back : List Command} (hfront : front ≠ []) (hback : back ≠ [])
    (fed : Option Bytes) (state : σ) (s : Streams) :
    runStages step fed (front ++ back) state s
      = match runStages step fed front state s.capture with
        | (.ok (.completed _), state, a) =>
            runStages step (some a.output.written) back state (a.release s)
        | (stopped, state, a) => (stopped, state, a.release s) := by
  induction front generalizing fed state s with
  | nil => exact absurd rfl hfront
  | cons c rest ih =>
    rcases eq_or_ne rest [] with rfl | hrest
    · exact runStages_cons step fed c hback state s
    · -- the first stage writes to a buffer on both sides, whatever the output of the rest is
      rw [List.cons_append, runStages_cons step fed c (by simp [hback]),
        runStages_cons step fed c hrest, Streams.capture_capture]
      rcases runStage step fed c state s.capture with ⟨(e | (code | code)), state, a⟩
      · rfl
      · exact ih hrest _ state (a.release s)
      · rfl

/-- **A pipeline is its first part followed by its second**, for every way to run a command.
The first part writes to an empty buffer that is no terminal.  If it completes, the second part
reads that buffer, which is no terminal either, and writes the output of the shell; what the
first part has left of the input of the shell stays as it is.  If the first part ends the
session or fails, that is all, and the output of the shell is untouched. -/
theorem runPipeline_append {front back : List Command} (hfront : front ≠ []) (hback : back ≠ [])
    (state : σ) (s : Streams) :
    runPipeline step (front ++ back) state s
      = match runPipeline step front state s.capture with
        | (.ok (.completed _), state, a) =>
            (runPipeline step back state ((a.release s).feed a.output.written)).mapStreams
              (·.unfeed a)
        | (.ok (.exit code), state, a) => (.ok (.exit code), state, a.release s)
        | (.error e, state, a) => (.error e, state, a.release s) := by
  rw [runPipeline, runStages_append step hfront hback, runPipeline]
  rcases runStages step none front state s.capture with ⟨(e | (code | code)), state, a⟩
  · rfl
  · exact runStages_fed step _ hback state (a.release s)
  · rfl

end Composition

/-- A command that passes its input on with its own name added, and counts its calls. -/
def relay : Step Nat := fun c calls s =>
  (.ok .success, calls + 1, { s with
    input := .ofBytes []
    output := { s.output with
      written := s.output.written ++ s.input.bytes ++ Utf8.encode c.name } })

/-- The second command of a pipeline reads what the first has made of the input `x`. -/
theorem runPipeline_append_relay :
    [Command.plain ['a'] []] ≠ [] ∧ [Command.plain ['b'] []] ≠ [] ∧
    runPipeline relay ([Command.plain ['a'] []] ++ [Command.plain ['b'] []]) 0
        ⟨.ofBytes [0x78], .fresh, .fresh, true, true⟩
      = (.ok .success, 2,
          ⟨.ofBytes [], ⟨[0x78, 0x61, 0x62], .working⟩, .fresh, true, true⟩) :=
  ⟨by decide, by decide, (runPipeline_append relay (by decide) (by decide) 0 _).trans rfl⟩

end CommandShell
