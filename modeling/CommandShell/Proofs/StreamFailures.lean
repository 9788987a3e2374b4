import CommandShell.Proofs.Answers
import CommandShell.Proofs.LineResults
import CommandShell.Proofs.StatusVariable

/-!
# Streams that fail

A stream of the shell may fail whenever a command reads or writes.  A builtin tells of it and gives
a status, and a complaint that cannot be written is dropped.  So a line of builtins always runs to
its end, and it makes no difference what has become of the error stream.

That two runs do not differ but in their error streams is said by an equation: they are the same
once the error streams are *hushed*.  The equation is proved for an answer, and carried through
commands, pipelines, lines and sessions.

## Main definitions

* `Streams.hush` — the same streams with a fresh error stream.
* `Shell.OnlyBuiltins` — all commands of a line are builtins.
* `LineSettled` — a line that can be read records its status.
* `Shell.outcomes`, `LineOutcome.apart` — what the lines of a session give, the error streams apart.

## Main results

* `runStages_hush` — what holds of commands holds of pipelines.
* `runLine_settled`, `runLine_hush` — lines of builtins.
* `onlyBuiltins_outlast_failures` — **no failing stream stops a session of builtins.**
-/

namespace CommandShell

/-! ### Hushed streams -/

/-- The same streams with an error stream that works, and to which nothing has been written. -/
def Streams.hush (s : Streams) : Streams := { s with error := .fresh }

/-- The same outcome with hushed streams. -/
def Outcome.hush {σ : Type} (o : Outcome σ) : Outcome σ := o.mapStreams Streams.hush

theorem Outcome.hush_eq_iff {σ : Type} {result result' : Except ShellError Status} {x x' : σ}
    {s s' : Streams} : Outcome.hush (result, x, s) = Outcome.hush (result', x', s') ↔
      result = result' ∧ x = x' ∧ s.hush = s'.hush := by
  simp [hush, mapStreams]

/-- An answer does not depend on the error stream. -/
theorem Answer.outcome_hush (a : Answer) (name : Text) (m : Machine) (s : Streams) :
    (a.outcome name m s).hush = (a.outcome name m s.hush).hush := by
  cases a with
  | print text =>
    have hput : s.hush.output = s.output := rfl
    simp only [outcome, give, emit, Streams.putOutput, hput]
    rcases s.output.put (Utf8.encode text) with ⟨_ | _, output⟩
    · rfl
    · rfl
  | complain message => rfl
  | change after => rfl
  | leave code complaint => rfl

/-! ### Commands -/

section Commands

variable {c : Command} (hc : c.IsBuiltin) (host : Host) (m : Machine) (s : Streams)
include hc

/-- A builtin ends with a status, whatever its streams do. -/
theorem exists_status_runCommand :
    ∃ status, (runCommand Registry.standard host c m s).1 = .ok status := by
  obtain ⟨a, rest, -, hrun⟩ := exists_outcome hc host m s.input
  exact ⟨_, congrArg Prod.fst (hrun s rfl)⟩

/-- A builtin does not depend on its error stream. -/
theorem runCommand_hush :
    (runCommand Registry.standard host c m s).hush
      = (runCommand Registry.standard host c m s.hush).hush := by
  obtain ⟨a, rest, -, hrun⟩ := exists_outcome hc host m s.input
  rw [hrun s rfl, hrun s.hush rfl]
  exact a.outcome_hush c.name m { s with input := rest }

end Commands

/-! ### Pipelines -/

section Pipelines

variable {σ : Type} {step : Step σ} {stages : List Command}

/-- If every command ends with a status, so does a pipeline. -/
theorem exists_status_runStages
    (hstep : ∀ c ∈ stages, ∀ x s, ∃ status, (step c x s).1 = .ok status) (fed : Option Bytes)
    (x : σ) (s : Streams) : ∃ status, (runStages step fed stages x s).1 = .ok status := by
  induction stages generalizing fed x s with
  | nil => exact ⟨.success, rfl⟩
  | cons c rest ih =>
    have hfirst (s : Streams) : ∃ status, (runStage step fed c x s).1 = .ok status := by
      cases fed with
      | none => exact hstep c List.mem_cons_self x s
      | some b => exact hstep c List.mem_cons_self x (s.feed b)
    rcases eq_or_ne rest [] with rfl | hrest
    · exact hfirst s
    · obtain ⟨status, hstatus⟩ := hfirst s.capture
      rw [runStages_cons step fed c hrest]
      generalize runStage step fed c x s.capture = o at hstatus ⊢
      rcases o with ⟨(e | (code | code)), x, a⟩
      · cases hstatus
      · exact ih (fun c hc => hstep c (List.mem_cons_of_mem _ hc)) _ x (a.release s)
      · exact ⟨_, rfl⟩

theorem runStage_hush {c : Command}
    (hstep : ∀ x s, (step c x s).hush = (step c x s.hush).hush) (fed : Option Bytes) (x : σ)
    (s : Streams) : (runStage step fed c x s).hush = (runStage step fed c x s.hush).hush := by
  cases fed with
  | none => exact hstep x s
  | some b => exact congrArg (Outcome.mapStreams (·.unfeed s.hush)) (hstep x (s.feed b))

/-- If no command depends on its error stream, no pipeline does. -/
theorem runStages_hush
    (hstep : ∀ c ∈ stages, ∀ x s, (step c x s).hush = (step c x s.hush).hush)
    (fed : Option Bytes) (x : σ) (s : Streams) :
    (runStages step fed stages x s).hush = (runStages step fed stages x s.hush).hush := by
  induction stages generalizing fed x s with
  | nil => rfl
  | cons c rest ih =>
    have hfirst := runStage_hush (hstep c List.mem_cons_self) fed x
    rcases eq_or_ne rest [] with rfl | hrest
    · exact hfirst s
    · have hcapture : (runStage step fed c x s.capture).hush
          = (runStage step fed c x s.hush.capture).hush := hfirst s.capture
      rw [runStages_cons step fed c hrest, runStages_cons step fed c hrest]
      generalize runStage step fed c x s.capture = o at hcapture ⊢
      generalize runStage step fed c x s.hush.capture = o' at hcapture ⊢
      obtain ⟨result, x, a⟩ := o
      obtain ⟨result', x', a'⟩ := o'
      obtain ⟨rfl, rfl, ha⟩ := Outcome.hush_eq_iff.mp hcapture
      have houtput : a.output = a'.output := by
        show a.hush.output = a'.hush.output
        rw [ha]
      have hrelease : (a.release s).hush = (a'.release s.hush).hush := by
        show (a.hush.release s.hush).hush = (a'.hush.release s.hush).hush
        rw [ha]
      rcases result with e | (code | code)
      · exact Outcome.hush_eq_iff.mpr ⟨rfl, rfl, hrelease⟩
      · -- both runs hand on the same output, and the rest hears of no error stream
        have hrest := ih (fun c hc => hstep c (List.mem_cons_of_mem _ hc)) (some a.output.written) x
        rw [houtput] at hrest
        have hleft := hrest (a.release s)
        rw [hrelease] at hleft
        simp only [houtput]
        exact hleft.trans (hrest (a'.release s.hush)).symm
      · exact Outcome.hush_eq_iff.mpr ⟨rfl, rfl, hrelease⟩

end Pipelines

/-! ### Lines -/

namespace Shell

/-- All commands of a line are builtins, if it can be read. -/
def OnlyBuiltins (sh : Shell) (line : Text) : Prop :=
  ∀ stages, readLine line sh.vars = .ok stages → ∀ c ∈ stages, c.IsBuiltin

end Shell

/-- **What a line of builtins gives.**  It is never stopped by a stream that fails. -/
structure LineSettled (sh : Shell) (line : Text) (o : LineOutcome) : Prop where
  /-- The line gives a status, or it cannot be read. -/
  returns : (∃ status, o.1 = .ok status) ∨ ∃ e, o.1 = .error (.line e)
  /-- A line that can be read and is not blank gives a status, and that is recorded. -/
  recorded : ∀ stages, readLine line sh.vars = .ok stages → stages ≠ [] →
    ∃ status, o.1 = .ok status ∧ o.2.1.lastStatus = status.code ∧
      o.2.1.vars.get? statusName = some (decimalInt32 status.code)

/-- To record a status has nothing to do with the error stream. -/
theorem hush_close (sh : Shell) (o : Outcome Machine) :
    Outcome.hush (sh.close o) = sh.close o.hush := by
  rcases o with ⟨e | status, machine, s⟩ <;> rfl

section Lines

variable {sh : Shell} {line : Text} (h : sh.OnlyBuiltins line) (host : Host) (s : Streams)
include h

theorem runLine_settled : LineSettled sh line (sh.runLine Registry.standard host line s) := by
  cases hread : readLine line sh.vars with
  | error e =>
    rw [Shell.runLine_of_error hread]
    exact ⟨.inr ⟨e, rfl⟩, fun stages hstages => by simp [hread] at hstages⟩
  | ok stages =>
    rcases eq_or_ne stages [] with rfl | hne
    · rw [Shell.runLine_of_nil hread]
      refine ⟨.inl ⟨_, rfl⟩, fun stages hstages hne => ?_⟩
      obtain rfl : [] = stages := by simpa [hread] using hstages
      exact absurd rfl hne
    · obtain ⟨status, hstatus⟩ := exists_status_runStages
        (fun c hc x s => exists_status_runCommand (h _ hread c hc) host x s) none sh.machine s
      rw [Shell.runLine_of_ok hread hne, runPipeline, Shell.close_of_ok sh hstatus]
      exact ⟨.inl ⟨status, rfl⟩, fun _ _ _ => ⟨status, rfl, rfl, Shell.get?_vars_recordStatus _ _⟩⟩

/-- A line of builtins does not depend on the error stream. -/
theorem runLine_hush : Outcome.hush (sh.runLine Registry.standard host line s)
    = Outcome.hush (sh.runLine Registry.standard host line s.hush) := by
  cases hread : readLine line sh.vars with
  | error e =>
    rw [Shell.runLine_of_error hread, Shell.runLine_of_error hread]
    rfl
  | ok stages =>
    rcases eq_or_ne stages [] with rfl | hne
    · rw [Shell.runLine_of_nil hread, Shell.runLine_of_nil hread]
      rfl
    · have hrun := runStages_hush
        (fun c hc x s => runCommand_hush (h _ hread c hc) host x s) none sh.machine s
      rw [Shell.runLine_of_ok hread hne, Shell.runLine_of_ok hread hne, hush_close, hush_close,
        runPipeline, hrun]
      rfl

end Lines

/-! ### Sessions -/

/-- An event with a hushed error stream. -/
def SessionEvent.hush : SessionEvent → SessionEvent
  | .line host text s => .line host text s.hush
  | .record code => .record code
  | .files tree => .files tree

/-- An event is no line, or a line of builtins. -/
def SessionEvent.OnlyBuiltins (sh : Shell) : SessionEvent → Prop
  | .line _ text _ => sh.OnlyBuiltins text
  | .record _ | .files _ => True

/-- What a line gives, the error stream apart: the result, the session after it, what is left of the
input, and the output. -/
def LineOutcome.apart (o : LineOutcome) :
    Except ShellError Status × Shell × Input × Output :=
  (o.1, o.2.1, o.2.2.input, o.2.2.output)

namespace Shell

/-- What an event gives, if it is a line. -/
def outcome? (sh : Shell) : SessionEvent → Option LineOutcome
  | .line host text s => some (sh.runLine Registry.standard host text s)
  | .record _ | .files _ => none

/-- What the lines of a session give. -/
def outcomes : Shell → List SessionEvent → List LineOutcome
  | _, [] => []
  | sh, e :: rest => (sh.outcome? e).toList ++ (sh.after e).outcomes rest

/-- Every line of a session is one of builtins when it is run. -/
def KeepsToBuiltins : Shell → List SessionEvent → Prop
  | _, [] => True
  | sh, e :: rest => e.OnlyBuiltins sh ∧ (sh.after e).KeepsToBuiltins rest

end Shell

section Sessions

variable {sh : Shell} {e : SessionEvent} {events : List SessionEvent}

theorem onlyBuiltins_hush : e.hush.OnlyBuiltins sh ↔ e.OnlyBuiltins sh := by
  cases e <;> rfl

/-- A session goes on in the same way if an error stream is hushed. -/
theorem after_hush (h : e.OnlyBuiltins sh) : sh.after e.hush = sh.after e := by
  cases e with
  | line host text s =>
    have hrun := runLine_hush h host s
    exact (congrArg (fun o : LineOutcome => o.2.1) hrun).symm
  | record code => rfl
  | files tree => rfl

/-- A line gives the same if its error stream is hushed, the error stream apart. -/
theorem outcome?_hush (h : e.OnlyBuiltins sh) :
    (sh.outcome? e.hush).map LineOutcome.apart = (sh.outcome? e).map LineOutcome.apart := by
  cases e with
  | line host text s =>
    have hrun := runLine_hush h host s
    exact congrArg some (congrArg LineOutcome.apart hrun).symm
  | record code => rfl
  | files tree => rfl

/-- A session of builtins gives the same if all error streams are hushed. -/
theorem outcomes_hush (h : sh.KeepsToBuiltins events) :
    (sh.outcomes (events.map SessionEvent.hush)).map LineOutcome.apart
      = (sh.outcomes events).map LineOutcome.apart := by
  induction events generalizing sh with
  | nil => rfl
  | cons e rest ih =>
    obtain ⟨hfirst, hrest⟩ := h
    have hline := outcome?_hush hfirst
    rw [List.map_cons, Shell.outcomes, Shell.outcomes, List.map_append, List.map_append,
      after_hush hfirst, ih hrest]
    simp only [← Option.toList_map, hline]

/-- Whether a session keeps to builtins does not depend on the error streams. -/
theorem keepsToBuiltins_hush :
    sh.KeepsToBuiltins (events.map SessionEvent.hush) ↔ sh.KeepsToBuiltins events := by
  induction events generalizing sh with
  | nil => rfl
  | cons e rest ih =>
    rw [List.map_cons, Shell.KeepsToBuiltins, Shell.KeepsToBuiltins, onlyBuiltins_hush]
    refine and_congr_right fun hfirst => ?_
    rw [after_hush hfirst, ih]

end Sessions

/-- **No failing stream stops a session of builtins.**  Whatever its streams do, a line of builtins
gives a status, which is recorded, unless it is blank or cannot be read.  And if the lines of two
sessions get the same streams but for the error stream, which may fail in one of them, all lines
give the same results, leave the same sessions and inputs, and write the same output. -/
theorem onlyBuiltins_outlast_failures (sh : Shell) :
    (∀ host line s, sh.OnlyBuiltins line →
      LineSettled sh line (sh.runLine Registry.standard host line s)) ∧
    ∀ events events', sh.KeepsToBuiltins events →
      events.map SessionEvent.hush = events'.map SessionEvent.hush →
      (sh.outcomes events).map LineOutcome.apart = (sh.outcomes events').map LineOutcome.apart := by
  refine ⟨fun host line s h => runLine_settled h host s, fun events events' h hsame => ?_⟩
  have h' : sh.KeepsToBuiltins events' := by
    rwa [← keepsToBuiltins_hush, ← hsame, keepsToBuiltins_hush]
  rw [← outcomes_hush h, hsame, outcomes_hush h']

/-- Every stream fails, and still `cat` is run and its status is recorded, whether it can complain
or not. -/
theorem onlyBuiltins_outlast_failures_cat :
    let host : Host := fun _ files => (.failed .notFound, files)
    let sh : Shell := .start ⟨.empty, ⟨[], []⟩⟩ .empty
    let s : Streams := ⟨⟨[0x78], true⟩, ⟨[], .flushFails⟩, .fresh, false, false⟩
    let deaf : Streams := { s with error := ⟨[], .writeFails⟩ }
    sh.OnlyBuiltins "cat | wc x" ∧
    LineSettled sh "cat | wc x" (sh.runLine Registry.standard host "cat | wc x" s) ∧
    sh.KeepsToBuiltins [.line host "cat | wc x" s] ∧
    [SessionEvent.line host "cat | wc x" s].map SessionEvent.hush
      = [SessionEvent.line host "cat | wc x" deaf].map SessionEvent.hush ∧
    (sh.outcomes [.line host "cat | wc x" s]).map LineOutcome.apart
      = (sh.outcomes [.line host "cat | wc x" deaf]).map LineOutcome.apart := by
  intro host sh s deaf
  have hread : readLine "cat | wc x" sh.vars
      = .ok [.plain "cat" [], .plain "wc" ["x".toList]] := rfl
  have honly : sh.OnlyBuiltins "cat | wc x" := by
    intro stages hstages
    obtain rfl := Except.ok.inj (hread.symm.trans hstages)
    decide
  obtain ⟨hsettled, hsame⟩ := onlyBuiltins_outlast_failures sh
  have hkeeps : sh.KeepsToBuiltins [.line host "cat | wc x" s] := ⟨honly, trivial⟩
  exact ⟨honly, hsettled host _ s honly, hkeeps, rfl, hsame _ _ hkeeps rfl⟩

end CommandShell
