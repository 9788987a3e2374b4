import CommandShell.Proofs.Answers
import CommandShell.Proofs.Composition
import CommandShell.Proofs.LineResults

/-!
# What commands take from their input

A script and what its commands read come from one stream.  A command that took a part of a line,
or a part of what follows it, would make the rest of the script mean something else.  No command
does: a builtin that reads its input takes all of it at once, a program of the host is given all
of it before it starts, and every other command leaves the input alone.

Only the first stage of a pipeline reads the input of the shell, since the others are fed.  So
what holds of builtins holds of commands, of pipelines, and of lines.  This is so for any relation
between what is found and what is left, if it allows to read nothing and to read everything.

## Main definitions

* `Input.Whole` — an input is left as it was, or has been read to its end.
* `Builtin.Takes` — a builtin takes from its input as a relation allows.
* `Builtin.ReadsWhole` — a builtin leaves its input as it was, or reads it to its end.

## Main results

* `readsWhole_of_mem_standard` — the standard builtins do.
* `takes_runPipeline` — a pipeline takes from its input as its commands do.
* `whole_runLine` — **a line leaves the input as it was or reads all of it.**
-/

namespace CommandShell

/-- The input `j` is what is left of `i`: all of it, or nothing. -/
def Input.Whole (i j : Input) : Prop := j = i ∨ j = { i with bytes := [] }

/-- What a builtin leaves of its input is related to what it has found. -/
def Builtin.Takes (R : Input → Input → Prop) (b : Builtin) : Prop :=
  ∀ (files : FileTree) (c : Command) (state : ShellState) (s : Streams),
    R s.input (b.run files c state s).2.2.input

/-- A builtin leaves its input as it was or reads all of it. -/
def Builtin.ReadsWhole (b : Builtin) : Prop :=
  ∀ (files : FileTree) (c : Command) (state : ShellState) (s : Streams),
    s.input.Whole (b.run files c state s).2.2.input

/-! ### Builtins -/

/-- The standard builtins do not look at the name that they are called by. -/
theorem run_withName {b : Builtin} (hb : b ∈ Registry.standard) (files : FileTree) (c : Command)
    (name : Text) : b.run files { c with name := name } = b.run files c := by
  simp only [Registry.standard, List.mem_cons, List.not_mem_nil, or_false] at hb
  rcases hb with rfl | rfl | rfl | rfl | rfl | rfl | rfl | rfl | rfl <;> rfl

/-- **The standard builtins** leave their input as it was or read all of it. -/
theorem readsWhole_of_mem_standard {b : Builtin} (hb : b ∈ Registry.standard) :
    b.ReadsWhole := by
  intro files c state s
  have hresponds := responds_of_mem_standard hb files (c := { c with name := b.name }) rfl state
  rw [run_withName hb] at hresponds
  cases hresponds with
  | atOnce answer hreads hfits hrun =>
    left
    rw [hrun, Answer.input_give]
  | afterReading answer hreads hfits hrun =>
    right
    rw [hrun, Answer.input_give]
    rfl

/-! ### Commands -/

theorem input_passOn (output error : Bytes) (s : Streams) :
    (passOn output error s).2.input = s.input := by
  rw [passOn]
  split <;> rfl

/-- A program of the host is given all of the input, unless that is the terminal. -/
theorem whole_runExternal (host : Host) (c : Command) (state : ShellState) (files : FileTree)
    (s : Streams) : s.input.Whole (runExternal host c state files s).2.2.input := by
  have hread : s.input.Whole
      (if s.inputIsTerminal then (some [], s) else s.readAll).2.input := by
    split
    · exact .inl rfl
    · exact .inr rfl
  simp only [runExternal]
  generalize (if s.inputIsTerminal then (some [], s) else s.readAll) = answer at hread ⊢
  rcases answer with ⟨_ | input, after⟩
  · exact hread
  · simp only
    split
    · exact hread
    · next output error ending files' hran =>
      have hpass := input_passOn output error after
      generalize passOn output error after = passed at hpass ⊢
      rw [← hpass] at hread
      rcases passed with ⟨_ | _, after'⟩
      · exact hread
      · exact hread

section Commands

variable {R : Input → Input → Prop} (hR : ∀ {i j}, i.Whole j → R i j) {registry : Registry}
  (hregistry : ∀ b ∈ registry, b.Takes R)
include hR hregistry

/-- A builtin that is asked for help does not read. -/
theorem takes_run? {files : FileTree} {c : Command} {state after : ShellState}
    {s s' : Streams} {status : Status}
    (h : registry.run? files c state s = some (status, after, s')) : R s.input s'.input := by
  obtain ⟨b, hget, hrun⟩ := Option.map_eq_some_iff.mp h
  split at hrun
  · next help hhelp =>
    obtain ⟨-, -, rfl⟩ := hrun
    exact hR (.inl (input_emit b.name help s))
  · have hb := hregistry b (List.mem_of_find?_eq_some hget) files c state s
    rwa [hrun] at hb

/-- Commands take from the input as builtins do. -/
theorem takes_runCommand (host : Host) (c : Command) (m : Machine) (s : Streams) :
    R s.input (runCommand registry host c m s).2.2.input := by
  rw [runCommand]
  cases hrun : registry.run? m.files c m.state s with
  | none => exact hR (whole_runExternal host c m.state m.files s)
  | some answer => exact takes_run? hR hregistry hrun

end Commands

/-! ### Pipelines and lines -/

section Pipelines

variable {σ : Type} {step : Step σ}

/-- Stages that are fed leave the input of the shell alone. -/
theorem input_runStages_fed (b : Bytes) (stages : List Command) (state : σ) (s : Streams) :
    (runStages step (some b) stages state s).2.2.input = s.input := by
  rcases eq_or_ne stages [] with rfl | hne
  · rfl
  · rw [runStages_fed step b hne]
    rfl

/-- **A pipeline reads what its first stage reads**, so it takes from its input as commands do. -/
theorem takes_runPipeline {R : Input → Input → Prop} (hrefl : ∀ i, R i i)
    (hstep : ∀ (c : Command) (x : σ) (s : Streams), R s.input (step c x s).2.2.input)
    (stages : List Command) (x : σ) (s : Streams) :
    R s.input (runPipeline step stages x s).2.2.input := by
  cases stages with
  | nil => exact hrefl s.input
  | cons c rest =>
    rcases eq_or_ne rest [] with rfl | hrest
    · exact hstep c x s
    · have hfirst : R s.input (runStage step none c x s.capture).2.2.input :=
        hstep c x s.capture
      rw [runPipeline, runStages_cons step none c hrest]
      -- the other stages are fed, so what is left is what the first has left
      generalize runStage step none c x s.capture = answer at hfirst ⊢
      rcases answer with ⟨(e | (code | code)), state, after⟩
      · exact hfirst
      · simp only
        rw [input_runStages_fed]
        exact hfirst
      · exact hfirst

end Pipelines

/-- A line takes from its input as builtins do, whatever its commands are and however it ends. -/
theorem takes_runLine {R : Input → Input → Prop} (hR : ∀ {i j}, i.Whole j → R i j)
    {registry : Registry} (hregistry : ∀ b ∈ registry, b.Takes R) (host : Host) (sh : Shell)
    (line : Text) (s : Streams) : R s.input (sh.runLine registry host line s).2.2.input := by
  have hrefl (i : Input) : R i i := hR (.inl rfl)
  cases hread : readLine line sh.vars with
  | error e =>
    rw [Shell.runLine_of_error hread]
    exact hrefl s.input
  | ok stages =>
    rcases eq_or_ne stages [] with rfl | hne
    · rw [Shell.runLine_of_nil hread]
      exact hrefl s.input
    · rw [Shell.runLine_of_ok hread hne, Shell.streams_close]
      exact takes_runPipeline hrefl (takes_runCommand hR hregistry host) stages sh.machine s

/-- **A line leaves the input as it was or reads all of it**, whatever its commands are and
however it ends. -/
theorem whole_runLine {registry : Registry} (hregistry : ∀ b ∈ registry, b.ReadsWhole)
    (host : Host) (sh : Shell) (line : Text) (s : Streams) :
    s.input.Whole (sh.runLine registry host line s).2.2.input :=
  takes_runLine id hregistry host sh line s

end CommandShell
