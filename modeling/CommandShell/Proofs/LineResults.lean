import CommandShell.Shell

/-!
# What a line gives

A line cannot be read, or is blank, or is run as a pipeline.  In the first two cases nothing happens
to the session.  In the third the session is *closed* over what the pipeline has given: its machine
is the one that the pipeline has left, and a status is recorded if there is one.

What holds of a line is shown in the three cases, and there it follows from what holds of pipelines.

## Main definitions

* `Shell.location` — the folders of a session.
* `Shell.close` — a session after a pipeline.

## Main results

* `Shell.runLine_of_error`, `Shell.runLine_of_nil`, `Shell.runLine_of_ok` — the three cases.
-/

namespace CommandShell.Shell

/-- The home folder and the current folder of a session. -/
def location (sh : Shell) : Location := sh.machine.state.location

/-- A session after a pipeline: the status is recorded, if there is one. -/
def close (sh : Shell) : Outcome Machine → LineOutcome
  | (.ok status, machine, s) =>
      (.ok status, { sh with machine := machine }.recordStatus status.code, s)
  | (.error e, machine, s) => (.error e, { sh with machine := machine }, s)

section Close

variable (sh : Shell) (o : Outcome Machine)

@[simp] theorem streams_close : (sh.close o).2.2 = o.2.2 := by
  rcases o with ⟨e | status, machine, s⟩ <;> rfl

/-- To record a status does not move the session. -/
@[simp] theorem location_close : (sh.close o).2.1.location = o.2.1.state.location := by
  rcases o with ⟨e | status, machine, s⟩ <;> rfl

/-- To record a status sets one variable. -/
theorem get?_vars_close {name : Text} (h : name ≠ statusName) :
    (sh.close o).2.1.vars.get? name = o.2.1.state.vars.get? name := by
  rcases o with ⟨e | status, machine, s⟩
  · rfl
  · exact Dictionary.get?_insert_of_ne _ _ h

variable {o} in
theorem close_of_ok {status : Status} (h : o.1 = .ok status) :
    sh.close o = (.ok status, { sh with machine := o.2.1 }.recordStatus status.code, o.2.2) := by
  obtain ⟨result, machine, s⟩ := o
  obtain rfl : result = .ok status := h
  rfl

end Close

section Cases

variable {registry : Registry} {host : Host} {sh : Shell} {line : Text} {s : Streams}

/-- A line that cannot be read. -/
theorem runLine_of_error {e : LineError} (h : readLine line sh.vars = .error e) :
    sh.runLine registry host line s = (.error (.line e), sh, s) := by
  rw [runLine, h]

/-- A line without commands. -/
theorem runLine_of_nil (h : readLine line sh.vars = .ok []) :
    sh.runLine registry host line s = (.ok .success, sh, s) := by
  rw [runLine, h]

/-- A line with commands is run as a pipeline. -/
theorem runLine_of_ok {stages : List Command} (h : readLine line sh.vars = .ok stages)
    (hne : stages ≠ []) : sh.runLine registry host line s
      = sh.close (runPipeline (runCommand registry host) stages sh.machine s) := by
  obtain ⟨c, rest, rfl⟩ := List.exists_cons_of_ne_nil hne
  simp only [runLine, h]
  generalize runPipeline (runCommand registry host) (c :: rest) sh.machine s = o
  rcases o with ⟨e | status, machine, after⟩ <;> rfl

end Cases

end CommandShell.Shell
