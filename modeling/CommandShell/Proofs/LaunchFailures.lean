import CommandShell.Proofs.ScriptRuns

/-!
# Commands that cannot be started

A program of the host is given all of the input, so the input is read before the program is looked
for.  If there is no such program, or if it cannot be started, what has been read is lost.  Nothing
else of the session is touched: there is a complaint and a status, and the rest of the pipeline goes
on from the state that the command has found.

In a script this has a price.  The input is the rest of the script, so a line that begins with a
misspelled command is the last line that is run.

## Main definitions

* `FailsToLaunch` — the first command of a line is no builtin and cannot be started.
* `Streams.unlaunched` — the streams after such a command.
* `Unlaunched` — what comes of such a line.

## Main results

* `runCommand_of_failed` — a command that cannot be started changes no state.
* `unlaunched_of_failsToLaunch` — **a command that cannot be started takes the input.**
-/

namespace CommandShell

/-- The status of a command that cannot be started tells whether there is such a program. -/
theorem launchFailure_status (program : Text) (cause : Cause) :
    (launchFailure program cause).2 = if cause = .notFound then 127 else 126 := by
  cases cause <;> rfl

/-- Streams after a command that cannot be started: nothing is left of the input, and there is a
complaint. -/
def Streams.unlaunched (s : Streams) (message : Text) : Streams :=
  { s with input := .ofBytes [] }.putError message

/-- **A command that cannot be started changes no state.**  What is left of the input is read and
lost, and there is a status and a complaint. -/
theorem runCommand_of_failed {registry : Registry} {host : Host} {c : Command} {m : Machine}
    {s : Streams} {cause : Cause} {files : FileTree} (hunknown : registry.get? c.name = none)
    (hpiped : s.inputIsTerminal = false) (hreadable : s.input.failing = false)
    (hfailed : host (.ofCommand c m.state s.input.bytes) m.files = (.failed cause, files)) :
    runCommand registry host c m s
      = (.ok (.completed (launchFailure c.name cause).2), { m with files := files },
          s.unlaunched (launchFailure c.name cause).1) := by
  obtain ⟨⟨bytes, failing⟩, output, error, inTerminal, outTerminal⟩ := s
  obtain rfl : inTerminal = false := hpiped
  obtain rfl : failing = false := hreadable
  have hrun : registry.run? m.files c m.state
      ⟨⟨bytes, false⟩, output, error, false, outTerminal⟩ = none := by
    rw [Registry.run?, hunknown, Option.map_none]
  have hext : runExternal host c m.state m.files ⟨⟨bytes, false⟩, output, error, false, outTerminal⟩
      = (.ok (.completed (launchFailure c.name cause).2), files, Streams.unlaunched
          ⟨⟨bytes, false⟩, output, error, false, outTerminal⟩ (launchFailure c.name cause).1) := by
    simp only [runExternal, Bool.false_eq_true, if_false, Streams.readAll, Input.readAll, hfailed]
    rfl
  simp only [runCommand, hrun, hext]

/-! ### Lines -/

section Lines

variable (registry : Registry) (host : Host) (sh : Shell) (line : Text) (s : Streams)
  (c : Command) (rest : List Command) (cause : Cause) (files : FileTree)

/-- **The first command of a line cannot be started**: it is no builtin, its input is not the
terminal and can be read, and the start fails. -/
structure FailsToLaunch : Prop where
  /-- The line has a first command. -/
  read_eq : readLine line sh.vars = .ok (c :: rest)
  /-- It is no builtin. -/
  unknown : registry.get? c.name = none
  /-- The input of the shell is not the terminal. -/
  piped : s.inputIsTerminal = false
  /-- It can be read to its end. -/
  readable : s.input.failing = false
  /-- The program cannot be started. -/
  failed : host (.ofCommand c sh.machine.state s.input.bytes) sh.machine.files
    = (.failed cause, files)

/-- **What comes of a line whose first command cannot be started.** -/
structure Unlaunched : Prop where
  /-- The status is 127 if there is no such program, and 126 if it is not to be started. -/
  status : (launchFailure c.name cause).2 = if cause = .notFound then 127 else 126
  /-- The command leaves the state, and with it the variables and the current folder. -/
  stage : runCommand registry host c sh.machine s
    = (.ok (.completed (launchFailure c.name cause).2), { sh.machine with files := files },
        s.unlaunched (launchFailure c.name cause).1)
  /-- The other commands of the line are run, fed with nothing. -/
  runLine_eq : sh.runLine registry host line s
    = sh.close (if rest = [] then runCommand registry host c sh.machine s
        else runStages (runCommand registry host) (some []) rest
          { sh.machine with files := files } (s.unlaunched (launchFailure c.name cause).1))
  /-- Nothing is left of the input. -/
  input : (sh.runLine registry host line s).2.2.input = .ofBytes []
  /-- In a script, no line is run after this one. -/
  script : ∀ (b raw : Bytes) (start : Shell × Streams) (front back : List Round)
    (unread : List Bytes) (ended : Except ShellError Int32 × Shell × Streams),
    ScriptRun registry host (brokenAfter 0x0A b) start (front ++ ⟨raw, sh, s⟩ :: back) unread
      ended → scriptLine raw = line → back = []

end Lines

/-! ### Scripts -/

section Scripts

variable {registry : Registry} {host : Host}

/-- No piece of a script is empty. -/
theorem nil_not_mem_brokenAfter (b : Bytes) : [] ∉ brokenAfter 0x0A b := by
  fun_induction brokenAfter 0x0A b with
  | case1 => exact List.not_mem_nil
  | case2 xs ih => simp [ih]
  | case3 x xs hx hnil ih => simp
  | case4 x xs hx piece rest hcons ih =>
    rw [hcons] at ih
    simp only [List.mem_cons, not_or] at ih
    simp [ih.2]

/-- What follows a line is what it finds as its input. -/
theorem Chained.input_eq {unread : List Bytes} {x y : Shell × Streams} {front back : List Round}
    {r : Round} (h : Chained registry host unread x (front ++ r :: back) y) :
    r.streams.input = .ofBytes (back.map Round.raw ++ unread).flatten := by
  induction front generalizing x with
  | nil =>
    cases h with
    | cons hs _ => rw [hs]
  | cons q front ih =>
    cases h with
    | cons _ htail => exact ih htail

/-- A line that leaves nothing of its input is the last of a script that is run. -/
theorem ScriptRun.last_of_input_after {b : Bytes} {start : Shell × Streams}
    {front back : List Round} {r : Round} {unread : List Bytes}
    {ended : Except ShellError Int32 × Shell × Streams}
    (h : ScriptRun registry host (brokenAfter 0x0A b) start (front ++ r :: back) unread ended)
    (hafter : (r.after registry host).2.input = .ofBytes []) : back = [] := by
  rcases back with _ | ⟨next, back⟩
  · rfl
  exfalso
  -- a line that another follows leaves its input, but that begins with the line that follows
  have hkept := (h.continues r (by simp)).2
  rw [hafter, h.chained.input_eq] at hkept
  have hflat : (((next :: back).map Round.raw ++ unread).flatten : Bytes) = [] :=
    (congrArg Input.bytes hkept).symm
  have hnext : next.raw = [] := List.flatten_eq_nil_iff.mp hflat _ (by simp)
  have hpiece : next.raw ∈ brokenAfter 0x0A b := by
    rw [← h.pieces_eq]
    simp
  rw [hnext] at hpiece
  exact nil_not_mem_brokenAfter b hpiece

/-- A complaint about a line does not touch the input. -/
theorem Round.input_after (r : Round) :
    (r.after registry host).2.input = (r.outcome registry host).2.2.input := by
  rw [Round.after]
  generalize r.outcome registry host = o
  rcases o with ⟨(e | e) | status, sh, s⟩
  · rfl
  · rfl
  · rfl

end Scripts

/-! ### What comes of such a line -/

section Main

variable {registry : Registry} {host : Host} {sh : Shell} {line : Text} {s : Streams}
  {c : Command} {rest : List Command} {cause : Cause} {files : FileTree}

namespace FailsToLaunch

variable (h : FailsToLaunch registry host sh line s c rest cause files)
include h

/-- The command is run as it would be run by itself, and the others are fed with nothing. -/
theorem runPipeline_eq : runPipeline (runCommand registry host) (c :: rest) sh.machine s
    = if rest = [] then runCommand registry host c sh.machine s
      else runStages (runCommand registry host) (some []) rest
        { sh.machine with files := files } (s.unlaunched (launchFailure c.name cause).1) := by
  split
  · next hrest =>
    subst hrest
    rfl
  · next hrest =>
    have hstage := runCommand_of_failed (s := s.capture) h.unknown h.piped h.readable h.failed
    rw [runPipeline, runStages_cons _ _ c hrest, runStage, hstage]
    rfl

/-- The line goes on without the command. -/
theorem runLine_eq : sh.runLine registry host line s
    = sh.close (if rest = [] then runCommand registry host c sh.machine s
        else runStages (runCommand registry host) (some []) rest
          { sh.machine with files := files } (s.unlaunched (launchFailure c.name cause).1)) := by
  rw [Shell.runLine_of_ok h.read_eq (List.cons_ne_nil c rest), h.runPipeline_eq]

/-- Nothing is left of the input. -/
theorem input_runLine : (sh.runLine registry host line s).2.2.input = .ofBytes [] := by
  rw [h.runLine_eq, Shell.streams_close]
  split
  · rw [runCommand_of_failed h.unknown h.piped h.readable h.failed]
    rfl
  · rw [input_runStages_fed]
    rfl

end FailsToLaunch

/-- **A command that cannot be started takes the input.**  Let the first command of a line be no
builtin, and let its program be not found or not be started.  Then it changes neither the variables
nor the current folder; there is a complaint and the status 127 or 126, and the rest of the line is
run.  But the input, unless it is the terminal, has been read to its end before, whoever it was
meant for.  So in a script such a line is the last that is run. -/
theorem unlaunched_of_failsToLaunch
    (h : FailsToLaunch registry host sh line s c rest cause files) :
    Unlaunched registry host sh line s c rest cause files where
  status := launchFailure_status c.name cause
  stage := runCommand_of_failed h.unknown h.piped h.readable h.failed
  runLine_eq := h.runLine_eq
  input := h.input_runLine
  script := by
    rintro b raw start front back unread ended hrun rfl
    refine hrun.last_of_input_after ?_
    rw [Round.input_after]
    exact h.input_runLine

/-- A misspelled command before another, and a script that goes on after them. -/
theorem unlaunched_of_failsToLaunch_misspelled :
    let host : Host := fun _ files => (.failed .notFound, files)
    let sh : Shell := .start ⟨.empty, ⟨[], []⟩⟩ .empty
    let s : Streams := ⟨.ofBytes (Utf8.encode "exit 5".toList), .fresh, .fresh, false, false⟩
    FailsToLaunch Registry.standard host sh "ech a | wc".toList s
        (.plain "ech".toList ["a".toList]) [.plain "wc".toList []] .notFound .empty ∧
      Unlaunched Registry.standard host sh "ech a | wc".toList s
        (.plain "ech".toList ["a".toList]) [.plain "wc".toList []] .notFound .empty := by
  intro host sh s
  have h : FailsToLaunch Registry.standard host sh "ech a | wc".toList s
      (.plain "ech".toList ["a".toList]) [.plain "wc".toList []] .notFound .empty :=
    ⟨by rfl, by rfl, rfl, rfl, rfl⟩
  exact ⟨h, unlaunched_of_failsToLaunch h⟩

end Main

/-- The input is not kept for what comes after: a misspelled command takes all of it, and a line
that would end the session with the status 5 is not run. -/
theorem input_lost_misspelled :
    let host : Host := fun _ files => (.failed .notFound, files)
    let sh : Shell := .start ⟨.empty, ⟨[], []⟩⟩ .empty
    let s : Streams := ⟨.ofBytes (Utf8.encode "exit 5".toList), .fresh, .fresh, false, false⟩
    FailsToLaunch Registry.standard host sh "ech".toList s (.plain "ech".toList []) [] .notFound
        .empty ∧
      (sh.runLine Registry.standard host "ech".toList s).2.2.input ≠ s.input ∧
      (sh.runScript Registry.standard host ⟨[], false, false⟩
        { s with input := .ofBytes (Utf8.encode "ech\nexit 5".toList) }).1 = .ok 127 := by
  intro host sh s
  have h : FailsToLaunch Registry.standard host sh "ech".toList s (.plain "ech".toList []) []
      .notFound .empty := ⟨by rfl, by rfl, rfl, rfl, rfl⟩
  refine ⟨h, ?_, by rfl⟩
  rw [h.input_runLine]
  decide

end CommandShell
