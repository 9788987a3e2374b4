import CommandShell.Proofs.Composition

/-!
# What a pipeline runs

A pipeline may stop early, so not every stage of it runs.  To speak of those that do, the step
keeps a log of the commands that it is given.  The log changes nothing: a run with a log is the
same run once the log is forgotten.  It holds stages from the first one on, each of them once,
and all of them if the pipeline completes.

What every single command preserves, a pipeline preserves.

## Main definitions

* `Outcome.mapState` — the same outcome with another state.
* `Step.logged` — a step that keeps a log.
* `executed` — the commands of a pipeline that run.

## Main results

* `runPipeline_mapState` — a map that commutes with steps commutes with pipelines.
* `runPipeline_invariant` — what steps preserve is preserved by pipelines.
* `executed_prefix`, `executed_eq_of_completed` — the stages that run.
-/

namespace CommandShell

variable {σ τ : Type}

/-- The same outcome with another state. -/
def Outcome.mapState (f : σ → τ) (o : Outcome σ) : Outcome τ := (o.1, f o.2.1, o.2.2)

/-! ### Maps of states -/

section Maps

variable {step : Step σ} {step' : Step τ} {f : σ → τ}

theorem runStage_mapState (hstep : ∀ c x s, (step c x s).mapState f = step' c (f x) s)
    (fed : Option Bytes) (c : Command) (x : σ) (s : Streams) :
    (runStage step fed c x s).mapState f = runStage step' fed c (f x) s := by
  cases fed with
  | none => exact hstep c x s
  | some b => exact congrArg (Outcome.mapStreams (·.unfeed s)) (hstep c x (s.feed b))

theorem runStages_mapState (hstep : ∀ c x s, (step c x s).mapState f = step' c (f x) s)
    (fed : Option Bytes) (stages : List Command) (x : σ) (s : Streams) :
    (runStages step fed stages x s).mapState f = runStages step' fed stages (f x) s := by
  induction stages generalizing fed x s with
  | nil => rfl
  | cons c rest ih =>
    rcases eq_or_ne rest [] with rfl | hrest
    · exact runStage_mapState hstep fed c x s
    · rw [runStages_cons step fed c hrest, runStages_cons step' fed c hrest,
        ← runStage_mapState hstep fed c x s.capture]
      rcases runStage step fed c x s.capture with ⟨(e | (code | code)), x, a⟩
      · rfl
      · exact ih _ x (a.release s)
      · rfl

/-- A map that commutes with a single command commutes with pipelines. -/
theorem runPipeline_mapState (hstep : ∀ c x s, (step c x s).mapState f = step' c (f x) s)
    (stages : List Command) (x : σ) (s : Streams) :
    (runPipeline step stages x s).mapState f = runPipeline step' stages (f x) s :=
  runStages_mapState hstep none stages x s

end Maps

/-! ### Invariants -/

section Invariants

variable {step : Step σ} {P : σ → Prop}

theorem runStage_invariant (hstep : ∀ c x s, P x → P (step c x s).2.1) (fed : Option Bytes)
    (c : Command) {x : σ} (hx : P x) (s : Streams) : P (runStage step fed c x s).2.1 := by
  cases fed with
  | none => exact hstep c x s hx
  | some b => exact hstep c x (s.feed b) hx

theorem runStages_invariant (hstep : ∀ c x s, P x → P (step c x s).2.1) (fed : Option Bytes)
    (stages : List Command) {x : σ} (hx : P x) (s : Streams) :
    P (runStages step fed stages x s).2.1 := by
  induction stages generalizing fed x s with
  | nil => exact hx
  | cons c rest ih =>
    rcases eq_or_ne rest [] with rfl | hrest
    · exact runStage_invariant hstep fed c hx s
    · have hstage := runStage_invariant hstep fed c hx s.capture
      rw [runStages_cons step fed c hrest]
      generalize runStage step fed c x s.capture = o at hstage ⊢
      rcases o with ⟨(e | (code | code)), x, a⟩
      · exact hstage
      · exact ih _ hstage (a.release s)
      · exact hstage

/-- What every command preserves, a pipeline preserves. -/
theorem runPipeline_invariant (hstep : ∀ c x s, P x → P (step c x s).2.1)
    (stages : List Command) {x : σ} (hx : P x) (s : Streams) :
    P (runPipeline step stages x s).2.1 := runStages_invariant hstep none stages hx s

end Invariants

/-! ### The log -/

section Log

/-- A step that also notes the command that it is given, after those before. -/
def Step.logged (step : Step σ) : Step (σ × List Command) := fun c (x, log) s =>
  match step c x s with
  | (result, x, s) => (result, (x, log ++ [c]), s)

variable (step : Step σ)

/-- The commands of a pipeline that run, in order. -/
def executed (stages : List Command) (x : σ) (s : Streams) : List Command :=
  (runPipeline step.logged stages (x, []) s).2.1.2

/-- A run with a log is the same run. -/
theorem runPipeline_logged (stages : List Command) (x : σ) (log : List Command) (s : Streams) :
    (runPipeline step.logged stages (x, log) s).mapState Prod.fst
      = runPipeline step stages x s :=
  runPipeline_mapState (fun _ _ _ => rfl) stages (x, log) s

/-- A stage is noted, whatever it does. -/
theorem log_runStage (fed : Option Bytes) (c : Command) (x : σ) (log : List Command)
    (s : Streams) : (runStage step.logged fed c (x, log) s).2.1.2 = log ++ [c] := by
  cases fed <;> rfl

/-- The log grows by stages from the first one on, by all of them if the last completes. -/
theorem log_runStages (fed : Option Bytes) (stages : List Command) (x : σ) (log : List Command)
    (s : Streams) :
    ∃ front, (runStages step.logged fed stages (x, log) s).2.1.2 = log ++ front ∧
      front <+: stages ∧
      ∀ code, (runStages step.logged fed stages (x, log) s).1 = .ok (.completed code) →
        front = stages := by
  induction stages generalizing fed x log s with
  | nil => exact ⟨[], (List.append_nil log).symm, List.nil_prefix, fun _ _ => rfl⟩
  | cons c rest ih =>
    rcases eq_or_ne rest [] with rfl | hrest
    · exact ⟨[c], log_runStage step fed c x log s, List.prefix_rfl, fun _ _ => rfl⟩
    · have hstage := log_runStage step fed c x log s.capture
      rw [runStages_cons step.logged fed c hrest]
      generalize runStage step.logged fed c (x, log) s.capture = o at hstage ⊢
      rcases o with ⟨(e | (code | code)), ⟨y, l⟩, a⟩
      -- a stage that stops the pipeline is noted, and is the last
      · exact ⟨[c], hstage, ⟨rest, rfl⟩, fun _ h => absurd h (by simp)⟩
      · obtain ⟨front, hlog, hprefix, hall⟩ := ih (some a.output.written) y l (a.release s)
        obtain rfl : l = log ++ [c] := hstage
        refine ⟨c :: front, ?_, List.cons_prefix_cons.mpr ⟨rfl, hprefix⟩, fun code h => ?_⟩
        · rw [hlog, List.append_assoc, List.singleton_append]
        · rw [hall code h]
      · exact ⟨[c], hstage, ⟨rest, rfl⟩, fun _ h => absurd h (by simp)⟩

/-- The commands that run are stages from the first one on. -/
theorem executed_prefix (stages : List Command) (x : σ) (s : Streams) :
    executed step stages x s <+: stages := by
  obtain ⟨front, hlog, hprefix, -⟩ := log_runStages step none stages x [] s
  rwa [executed, runPipeline, hlog, List.nil_append]

/-- If a pipeline completes, all of its stages have run. -/
theorem executed_eq_of_completed {stages : List Command} {x : σ} {s : Streams} {code : Int32}
    (h : (runPipeline step stages x s).1 = .ok (.completed code)) :
    executed step stages x s = stages := by
  obtain ⟨front, hlog, -, hall⟩ := log_runStages step none stages x [] s
  have hsame : (runStages step.logged none stages (x, []) s).1 = .ok (.completed code) := by
    rw [← h, ← runPipeline_logged step stages x [] s]
    rfl
  rw [executed, runPipeline, hlog, List.nil_append, hall code hsame]

end Log

end CommandShell
