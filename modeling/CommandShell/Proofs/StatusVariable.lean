import CommandShell.Proofs.Assignments

/-!
# The variable that holds the last status

The last status is kept twice, as a number and in the variable `?`.  Both are written together
when a line has run to its end.  A line that a stream of the shell fails is left before that,
with what its commands have done to the variables, and a command may set `?`, although no
assignment that is written `NAME=value` can.  So the two may come apart.  They do exactly if,
since they were last written together, a line has failed after one of its commands had set `?`
to something else.

To say so, a session is followed with the value that was last set in this way.

## Main definitions

* `SessionEvent`, `Shell.after` — what may happen to a session.
* `Shell.executed` — the commands of a line that run.
* `Shell.records` — whether a line records its status.
* `Watched` — a session with the value that a failed line has left in `?`.

## Main results

* `Watched.statusVariable_run` — what `?` holds at any time of any session.
* `statusVariable_iff` — **the exact condition under which it is the last status.**
-/

namespace CommandShell

/-! ### Sessions -/

/-- What may happen to a session. -/
inductive SessionEvent where
  /-- A line is run, on a host and with streams of its own. -/
  | line (host : Host) (text : Text) (streams : Streams)
  /-- A status is recorded from outside. -/
  | record (code : Int32)
  /-- The files are changed from outside. -/
  | files (files : FileTree)

namespace Shell

/-- A session after an event. -/
def after (sh : Shell) : SessionEvent → Shell
  | .line host text s => (sh.runLine Registry.standard host text s).2.1
  | .record code => sh.recordStatus code
  | .files files => { sh with machine := { sh.machine with files := files } }

/-- The commands of a line that run. -/
def executed (sh : Shell) (host : Host) (line : Text) (s : Streams) : List Command :=
  match readLine line sh.vars with
  | .error _ => []
  | .ok stages =>
      CommandShell.executed (runCommand Registry.standard host) stages sh.machine s

/-- A line has commands and runs to its end, so that its status is recorded. -/
def records (sh : Shell) (host : Host) (line : Text) (s : Streams) : Bool :=
  match readLine line sh.vars, (sh.runLine Registry.standard host line s).1 with
  | .ok (_ :: _), .ok _ => true
  | _, _ => false

/-! ### Lines -/

@[simp] theorem lastStatus_recordStatus (sh : Shell) (code : Int32) :
    (sh.recordStatus code).lastStatus = code := rfl

@[simp] theorem get?_vars_recordStatus (sh : Shell) (code : Int32) :
    (sh.recordStatus code).vars.get? statusName = some (decimalInt32 code) :=
  Dictionary.get?_insert_self _ _ _

/-- A line that records its status ends with that. -/
theorem runLine_of_records {sh : Shell} {host : Host} {line : Text} {s : Streams}
    (h : sh.records host line s = true) :
    ∃ (before : Shell) (code : Int32),
      (sh.runLine Registry.standard host line s).2.1 = before.recordStatus code := by
  rw [records, runLine] at h
  rw [runLine]
  generalize readLine line sh.vars = read at h ⊢
  rcases read with e | (_ | ⟨c, rest⟩)
  · exact absurd h (by simp)
  · exact absurd h (by simp)
  · simp only at h ⊢
    generalize runPipeline (runCommand _ host) (c :: rest) sh.machine s = ended at h ⊢
    rcases ended with ⟨e | status, machine, s'⟩
    · exact absurd h (by simp)
    · exact ⟨_, _, rfl⟩

/-- Any other line leaves the last status as it is, and variables as its commands leave them. -/
theorem runLine_of_not_records {sh : Shell} {host : Host} {line : Text} {s : Streams}
    (h : sh.records host line s = false) (name : Text) :
    (sh.runLine Registry.standard host line s).2.1.lastStatus = sh.lastStatus ∧
    (sh.runLine Registry.standard host line s).2.1.vars.get? name
      = (lastAssigned name (sh.executed host line s)).or (sh.vars.get? name) := by
  rw [records, runLine] at h
  rw [runLine, executed]
  generalize readLine line sh.vars = read at h ⊢
  -- nothing runs on a line that cannot be read or is blank; else a stream has failed
  rcases read with e | (_ | ⟨c, rest⟩)
  · exact ⟨rfl, rfl⟩
  · exact ⟨rfl, rfl⟩
  · have hvars := get?_vars_runPipeline host (c :: rest) sh.machine s name
    simp only at h ⊢
    generalize runPipeline (runCommand _ host) (c :: rest) sh.machine s = ended at h hvars ⊢
    rcases ended with ⟨e | status, machine, s'⟩
    · exact ⟨rfl, hvars⟩
    · exact absurd h (by simp)

end Shell

/-! ### Sessions that are watched -/

/-- A session with the value that a failed line has left in `?`, if there is one since a status
was last recorded. -/
structure Watched where
  /-- The session. -/
  shell : Shell
  /-- The value. -/
  stray : Option Text

namespace Watched

/-- A session in which nothing has run. -/
def start (state : ShellState) (files : FileTree) : Watched := ⟨.start state files, none⟩

/-- What has been left in `?` after an event. -/
def strayAfter (x : Watched) : SessionEvent → Option Text
  | .line host text s =>
      if x.shell.records host text s then none
      else (lastAssigned statusName (x.shell.executed host text s)).or x.stray
  | .record _ => none
  | .files _ => x.stray

/-- A watched session after an event. -/
def after (x : Watched) (e : SessionEvent) : Watched := ⟨x.shell.after e, x.strayAfter e⟩

/-- A watched session after any number of events. -/
def run (x : Watched) (events : List SessionEvent) : Watched := events.foldl after x

/-- To watch a session does not change it. -/
theorem shell_run (x : Watched) (events : List SessionEvent) :
    (x.run events).shell = events.foldl Shell.after x.shell := by
  induction events generalizing x with
  | nil => rfl
  | cons e events ih => exact ih (x.after e)

/-- The variable `?` holds what a failed line has left there, or else the last status. -/
def Holds (x : Watched) : Prop :=
  x.shell.vars.get? statusName = some (x.stray.getD (decimalInt32 x.shell.lastStatus))

theorem holds_start (state : ShellState) (files : FileTree) : (start state files).Holds := by
  rw [Holds, start, Shell.start, Shell.get?_vars_recordStatus, Option.getD_none,
    Shell.lastStatus_recordStatus]

theorem Holds.after {x : Watched} (h : x.Holds) (e : SessionEvent) : (x.after e).Holds := by
  cases e with
  | record code => exact Shell.get?_vars_recordStatus x.shell code
  | files files => exact h
  | line host text s =>
    rw [Holds, Watched.after, strayAfter, Shell.after]
    -- a recorded status replaces whatever commands have left in `?`
    by_cases hrec : x.shell.records host text s = true
    · obtain ⟨before, code, hend⟩ := Shell.runLine_of_records hrec
      rw [if_pos hrec, hend, Shell.get?_vars_recordStatus]
      rfl
    · rw [Bool.not_eq_true] at hrec
      obtain ⟨hstatus, hvars⟩ := Shell.runLine_of_not_records hrec statusName
      rw [if_neg (by simp [hrec]), hvars, hstatus, h]
      cases lastAssigned statusName (x.shell.executed host text s) <;> rfl

/-- At any time of any session, `?` holds what a failed line has left there since a status was
last recorded, and the last status if there is no such value. -/
theorem statusVariable_run (state : ShellState) (files : FileTree) (events : List SessionEvent) :
    ((start state files).run events).Holds := by
  have key : ∀ x : Watched, x.Holds → (x.run events).Holds := by
    induction events with
    | nil => exact fun x h => h
    | cons e events ih => exact fun x h => ih (x.after e) (h.after e)
  exact key _ (holds_start state files)

end Watched

/-- **When the variable `?` holds the last status.**  From any start and after any events, with
any lines, results and streams, `?` exists.  It holds the last status in decimal unless, since a
status was last recorded, commands of lines that were not run to their end have set `?`, and the
last of them to something else. -/
theorem statusVariable_iff (state : ShellState) (files : FileTree)
    (events : List SessionEvent) :
    let sh := events.foldl Shell.after (Shell.start state files)
    let stray := ((Watched.start state files).run events).stray
    (sh.vars.get? statusName).isSome ∧
    (sh.vars.get? statusName = some (decimalInt32 sh.lastStatus) ↔
      ∀ value ∈ stray, value = decimalInt32 sh.lastStatus) := by
  have hholds := Watched.statusVariable_run state files events
  rw [Watched.Holds, Watched.shell_run] at hholds
  refine ⟨?_, ?_⟩
  · exact Option.isSome_of_eq_some hholds
  · refine (Eq.congr_left hholds).trans ?_
    cases ((Watched.start state files).run events).stray <;> simp [Watched.start]

/-- A session whose only line has failed: its first stage has set `?`, and its second, a program
that writes a line, could not write to the output of the shell. -/
def strayed : Shell :=
  [SessionEvent.line (fun _ files => (.ran [0x68, 0x69, 0x0A] [] (.exited 0), files))
      "= ? 5 | sh -c 'echo hi'" ⟨.ofBytes [], ⟨[], .writeFails⟩, .fresh, false, false⟩].foldl
    Shell.after (.start ⟨.empty, ⟨[], []⟩⟩ .empty)

/-- In it `?` holds 5, while the last status is still 0. -/
theorem statusVariable_strayed :
    strayed.vars.get? statusName = some ['5'] ∧ strayed.lastStatus = 0 ∧
      strayed.vars.get? statusName ≠ some (decimalInt32 strayed.lastStatus) := by
  have hvalue : strayed.vars.get? statusName = some ['5'] := by decide
  have hstatus : strayed.lastStatus = 0 := by decide
  refine ⟨hvalue, hstatus, ?_⟩
  rw [hvalue, hstatus]
  decide

end CommandShell
