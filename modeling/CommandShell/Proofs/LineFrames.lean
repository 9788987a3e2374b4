import CommandShell.Proofs.Answers
import CommandShell.Proofs.LineResults
import CommandShell.Proofs.Paths
import CommandShell.Proofs.StatusVariable
import CommandShell.Proofs.Tokenizing

/-!
# What lines change

A session is its variables, its folders and its last status.  Any command of a line could change
them, and a line may stop at any of its commands.  Still, all that becomes of a session can be told
from the commands that have run: the values that assignments have set, and the folder that a `cd`
has gone to.

To tell where a session is, it does not suffice to know which commands have run, since a `cd` may
fail, and what it is seen from depends on those before.  So a run is traced: for every command the
trace has the state that it was run in and the result that it gave.

## Main definitions

* `Call`, `Step.traced`, `calls` — the commands that run, with what they find and give.
* `Call.Moves`, `Call.entered?` — whether a command has gone to a folder, and which.
* `Location.Grounded` — where sessions that begin at an absolute path can be.
* `LineFrame` — what a line may change.

## Main results

* `leads_runCommand`, `traceLeads_runPipeline` — where commands and pipelines lead.
* `grounded_session` — the folders of a session at any time.
* `lineFrame_of_session` — **what a line changes, in any session.**
-/

namespace CommandShell

/-! ### Traces -/

/-- A command that has run. -/
structure Call (σ : Type) where
  /-- The command. -/
  command : Command
  /-- The state that it was run in. -/
  before : σ
  /-- The result that it gave. -/
  result : Except ShellError Status

section Traces

variable {σ : Type} (step : Step σ)

/-- A step that also notes the call, after those before. -/
def Step.traced : Step (σ × List (Call σ)) := fun c (x, trace) s =>
  match step c x s with
  | (result, after, s) => (result, (after, trace ++ [⟨c, x, result⟩]), s)

/-- The commands of a pipeline that run, in order, with what they find and give. -/
def calls (stages : List Command) (x : σ) (s : Streams) : List (Call σ) :=
  (runPipeline step.traced stages (x, []) s).2.1.2

/-- A run with a trace is the same run. -/
theorem runPipeline_traced (stages : List Command) (x : σ) (trace : List (Call σ)) (s : Streams) :
    (runPipeline step.traced stages (x, trace) s).mapState Prod.fst
      = runPipeline step stages x s :=
  runPipeline_mapState (fun _ _ _ => rfl) stages (x, trace) s

/-- The commands of the calls are those that run. -/
theorem map_command_calls (stages : List Command) (x : σ) (s : Streams) :
    (calls step stages x s).map Call.command = executed step stages x s := by
  have hstep (c : Command) (x : σ × List (Call σ)) (s : Streams) :
      (step.traced c x s).mapState (Prod.map id (List.map Call.command))
        = step.logged c (x.1, x.2.map Call.command) s := by
    simp [Step.traced, Step.logged, Outcome.mapState]
  exact congrArg (fun o => o.2.1.2) (runPipeline_mapState hstep stages (x, []) s)

end Traces

/-! ### Where commands lead -/

/-- A `cd` that was not asked for help, and has succeeded. -/
def Call.Moves (call : Call Machine) : Prop :=
  call.command.name = Builtin.cd.name ∧ call.command.options.has helpOption = false ∧
    call.result = .ok .success

/-- The folder that a command has gone to, seen from where the session was. -/
def Call.entered? (call : Call Machine) : Option Path :=
  if call.command.options.has helpOption = false ∧ call.result.toOption = some .success then
    call.command.destination? call.before.state.location
  else none

/-- Where a session can be that began at an absolute path. -/
structure Location.Grounded (l : Location) : Prop where
  /-- Its home folder has a straight path. -/
  home : l.home.Straight
  /-- So has the current folder. -/
  cwd : l.cwd.Straight

/-- A command goes to a straight path, if it goes anywhere. -/
theorem Location.Grounded.straight_destination {l : Location} (h : l.Grounded) {c : Command}
    {target : Path} (hdest : c.destination? l = some target) : target.Straight := by
  rw [Command.destination?] at hdest
  split at hdest
  · split at hdest
    · cases hdest; exact h.home
    · cases hdest; exact Location.straight_resolve h.cwd _
    · cases hdest
  · cases hdest

theorem Call.moves_of_entered? {call : Call Machine} {target : Path}
    (h : call.entered? = some target) : call.Moves := by
  rw [entered?] at h
  split at h
  · next hdone =>
    obtain ⟨hquiet, hresult⟩ := hdone
    refine ⟨Command.name_of_destination? h, hquiet, ?_⟩
    cases hcall : call.result with
    | error e => simp [hcall, Except.toOption] at hresult
    | ok status => simpa [hcall, Except.toOption] using hresult
  · cases h

/-- After a call the session is where the call has gone to, or where it was. -/
structure Call.Leads (call : Call Machine) (after : Location) : Prop where
  /-- Only the current folder is another one, and only if the call has gone to one. -/
  location : after = { call.before.state.location with
    cwd := call.entered?.getD call.before.state.location.cwd }
  /-- A `cd` that has succeeded has gone to a folder. -/
  moves : call.Moves → call.entered?.isSome = true
  /-- The folder was there, and its path is straight. -/
  folder : ∀ target ∈ call.entered?,
    call.before.files.isFolder [] target = true ∧ target.Straight

/-- Any other call leads nowhere. -/
theorem Call.leads_of_not_moves {call : Call Machine} (h : ¬ call.Moves) :
    call.Leads call.before.state.location := by
  have hnone : call.entered? = none :=
    Option.eq_none_iff_forall_ne_some.mpr fun _ hentered => h (moves_of_entered? hentered)
  refine ⟨?_, fun hmoves => absurd hmoves h, ?_⟩
  · rw [hnone, Option.getD_none]
  · rw [hnone]
    exact fun target htarget => absurd htarget (Option.not_mem_none target)

section Commands

variable {m : Machine} (h : m.state.location.Grounded) {c : Command}
include h

/-- An answer to a command leads where the command goes. -/
theorem Answer.leads {a : Answer} (ha : a.Answers m.files c m.state) (s : Streams) :
    (Call.mk c m (.ok (a.give c.name m.state s).1)).Leads
      (a.give c.name m.state s).2.1.location := by
  have hfailure : Status.failure ≠ Status.success := by decide
  obtain ⟨⟨hasked, -⟩, text, rfl⟩ | ⟨hhelp, hfits⟩ := ha
  · refine Call.leads_of_not_moves fun ⟨_, hquiet, _⟩ => ?_
    exact absurd (hasked.symm.trans hquiet) (by decide)
  · cases a with
    | print text =>
      refine Call.leads_of_not_moves fun ⟨hname, _, _⟩ => hfits ?_
      exact List.mem_cons_of_mem _ (hname ▸ List.mem_singleton_self _)
    | complain message =>
      exact Call.leads_of_not_moves fun ⟨_, _, hresult⟩ => hfailure (Except.ok.inj hresult)
    | leave code complaint =>
      exact Call.leads_of_not_moves fun ⟨_, _, hresult⟩ =>
        Status.noConfusion (Except.ok.inj hresult)
    | change after =>
      obtain ⟨name, value, hassigned, rfl⟩ | ⟨target, hdest, hfolder, rfl⟩ := hfits
      · have hname := (Command.assigned?_eq_some_iff.mp hassigned).1
        refine Call.leads_of_not_moves fun ⟨hcd, _, _⟩ => ?_
        exact absurd (hname.symm.trans hcd) (by decide)
      · -- what is gone to is normalized before and after, which is the same for straight paths
        have hstraight := h.straight_destination hdest
        have hquiet := Command.not_asked_of_cd (Command.name_of_destination? hdest) hhelp
        have hentered : Call.entered? ⟨c, m, .ok .success⟩ = some target := by
          rw [Call.entered?, if_pos ⟨hquiet, rfl⟩, hdest]
        refine ⟨?_, fun _ => Option.isSome_of_eq_some hentered, fun other hother => ?_⟩
        · show m.state.location.changeDir target = _
          rw [Location.changeDir_of_straight hstraight, give, hentered, Option.getD_some]
        · obtain rfl : target = other := Option.some.inj (hentered.symm.trans hother)
          exact ⟨hfolder, hstraight⟩

/-- **Where a command leads**: to the folder that it has gone to, or nowhere. -/
theorem leads_runCommand (host : Host) (s : Streams) :
    (Call.mk c m (runCommand Registry.standard host c m s).1).Leads
      (runCommand Registry.standard host c m s).2.1.state.location := by
  by_cases hc : c.IsBuiltin
  · obtain ⟨a, rest, ha, hrun⟩ := exists_outcome hc host m s.input
    rw [hrun s rfl]
    exact Answer.leads h ha { s with input := rest }
  · -- a program of the host has no part in the state
    have hname : c.name ≠ Builtin.cd.name :=
      fun hname => hc (show c.name ∈ _ from hname ▸ by decide)
    rw [runCommand, run?_eq_none hc]
    exact Call.leads_of_not_moves fun hmoves => hname hmoves.1

end Commands

/-! ### Where pipelines lead -/

/-- The folders that calls have gone to. -/
def foldersEntered (trace : List (Call Machine)) : List Path := trace.filterMap Call.entered?

theorem foldersEntered_concat (trace : List (Call Machine)) (call : Call Machine) :
    foldersEntered (trace ++ [call]) = foldersEntered trace ++ call.entered?.toList := by
  cases h : call.entered? <;> simp [foldersEntered, h]

/-- Calls that began in a location, and lead to another. -/
structure TraceLeads (before : Location) (trace : List (Call Machine)) (after : Location) :
    Prop where
  /-- Only the current folder is another one: the last that was gone to, if there is any. -/
  location : after = { before with cwd := (foldersEntered trace).getLast?.getD before.cwd }
  /-- Every `cd` that has succeeded has gone to a folder. -/
  moves : ∀ call ∈ trace, call.Moves → call.entered?.isSome = true
  /-- Every folder that was gone to was there. -/
  folders : ∀ call ∈ trace, ∀ target ∈ call.entered?,
    call.before.files.isFolder [] target = true
  /-- The session has kept to straight paths. -/
  grounded : after.Grounded

/-- Without calls the session stays where it is. -/
theorem TraceLeads.nil {l : Location} (h : l.Grounded) : TraceLeads l [] l :=
  ⟨rfl, fun _ hcall => absurd hcall List.not_mem_nil,
    fun _ hcall => absurd hcall List.not_mem_nil, h⟩

/-- One more call leads on. -/
theorem TraceLeads.concat {before after : Location} {trace : List (Call Machine)}
    {call : Call Machine} (h : TraceLeads before trace call.before.state.location)
    (hcall : call.Leads after) : TraceLeads before (trace ++ [call]) after := by
  refine ⟨?_, fun c hc => ?_, fun c hc => ?_, ?_⟩
  · rw [hcall.location, foldersEntered_concat, h.location]
    cases call.entered? with
    | none => simp
    | some target => simp
  · rcases List.mem_append.mp hc with hc | hc
    · exact h.moves c hc
    · obtain rfl := List.mem_singleton.mp hc
      exact hcall.moves
  · rcases List.mem_append.mp hc with hc | hc
    · exact h.folders c hc
    · obtain rfl := List.mem_singleton.mp hc
      exact fun target htarget => (hcall.folder target htarget).1
  · rw [hcall.location]
    refine ⟨h.grounded.home, ?_⟩
    cases hentered : call.entered? with
    | none => exact h.grounded.cwd
    | some target => exact (hcall.folder target hentered).2

/-- **Where a pipeline leads**: to the last folder that one of its calls has gone to. -/
theorem traceLeads_runPipeline {m : Machine} (h : m.state.location.Grounded) (host : Host)
    (stages : List Command) (s : Streams) :
    TraceLeads m.state.location (calls (runCommand Registry.standard host) stages m s)
      (runPipeline (runCommand Registry.standard host) stages m s).2.1.state.location := by
  -- the invariant relates the location to the trace, call by call
  have hstep (c : Command) (x : Machine × List (Call Machine)) (s : Streams)
      (hx : TraceLeads m.state.location x.2 x.1.state.location) :
      TraceLeads m.state.location ((runCommand Registry.standard host).traced c x s).2.1.2
        ((runCommand Registry.standard host).traced c x s).2.1.1.state.location :=
    hx.concat (leads_runCommand hx.grounded host s)
  have hstart := TraceLeads.nil h
  rw [← runPipeline_traced (runCommand Registry.standard host) stages m [] s]
  exact runPipeline_invariant
    (P := fun x => TraceLeads m.state.location x.2 x.1.state.location) hstep stages
    (x := (m, [])) hstart s

/-! ### Lines -/

theorem readLine_eq_nil_iff (line : Text) (vars : Variables) :
    readLine line vars = .ok [] ↔ allBlank line = true := by
  rw [readLine]
  constructor
  · intro h
    rcases tokenize_cases line with ⟨hblank, -⟩ | ⟨t, ht, e⟩ | ⟨-, e⟩ | ⟨-, e⟩
    · exact hblank
    · rw [e] at h
      exact absurd (List.map_eq_nil_iff.mp (Except.ok.inj h)) (readLayout_ne_nil ht.nonempty)
    · rw [e] at h
      cases h
    · rw [e] at h
      cases h
  · intro h
    rw [tokenize_of_allBlank h]
    rfl

namespace Shell

/-- The commands of a line that run, with what they find and give. -/
def calls (sh : Shell) (host : Host) (line : Text) (s : Streams) : List (Call Machine) :=
  match readLine line sh.vars with
  | .error _ => []
  | .ok stages => CommandShell.calls (runCommand Registry.standard host) stages sh.machine s

theorem map_command_calls (sh : Shell) (host : Host) (line : Text) (s : Streams) :
    (sh.calls host line s).map Call.command = sh.executed host line s := by
  rw [calls, executed]
  cases readLine line sh.vars with
  | error e => rfl
  | ok stages => exact CommandShell.map_command_calls _ stages sh.machine s

/-- A line leaves variables as its commands leave them, the status apart. -/
theorem get?_vars_runLine (sh : Shell) (host : Host) (line : Text) (s : Streams) {name : Text}
    (hname : name ≠ statusName) :
    (sh.runLine Registry.standard host line s).2.1.vars.get? name
      = (lastAssigned name (sh.executed host line s)).or (sh.vars.get? name) := by
  rw [executed]
  cases hread : readLine line sh.vars with
  | error e =>
    rw [runLine_of_error hread]
    rfl
  | ok stages =>
    rcases eq_or_ne stages [] with rfl | hne
    · rw [runLine_of_nil hread]
      rfl
    · rw [runLine_of_ok hread hne, get?_vars_close _ _ hname]
      exact get?_vars_runPipeline host stages sh.machine s name

/-- A line leads where its commands lead. -/
theorem traceLeads_runLine {sh : Shell} (h : sh.location.Grounded) (host : Host) (line : Text)
    (s : Streams) : TraceLeads sh.location (sh.calls host line s)
      (sh.runLine Registry.standard host line s).2.1.location := by
  rw [calls]
  cases hread : readLine line sh.vars with
  | error e =>
    rw [runLine_of_error hread]
    exact .nil h
  | ok stages =>
    rcases eq_or_ne stages [] with rfl | hne
    · rw [runLine_of_nil hread]
      exact .nil h
    · rw [runLine_of_ok hread hne, location_close]
      exact traceLeads_runPipeline h host stages s

end Shell

/-- **What a line may change.**  The line is run in the session `sh`, and gives `o`. -/
structure LineFrame (sh : Shell) (host : Host) (line : Text) (s : Streams) (o : LineOutcome) :
    Prop where
  /-- A blank line succeeds, and nothing has happened to the session or to a stream. -/
  blank : allBlank line = true → o = (.ok .success, sh, s)
  /-- Nothing has happened either if the line cannot be read, and that is the error. -/
  unread : ∀ e, readLine line sh.vars = .error e → o = (.error (.line e), sh, s)
  /-- The calls are those of the commands that have run. -/
  called : (sh.calls host line s).map Call.command = sh.executed host line s
  /-- A variable has the value that it was given last by a command that has run, or the one that it
  had.  Only `?` may have another one. -/
  assigned : ∀ name ≠ statusName, o.2.1.vars.get? name
    = (lastAssigned name (sh.executed host line s)).or (sh.vars.get? name)
  /-- The home folder is the same. -/
  home : o.2.1.location.home = sh.location.home
  /-- The current folder is the one that a command has gone to last, or the same. -/
  moved : o.2.1.cwd = (foldersEntered (sh.calls host line s)).getLast?.getD sh.cwd
  /-- A command has gone to a folder if and only if it is a `cd` that was not asked for help, and
  has succeeded. -/
  entered : ∀ call ∈ sh.calls host line s, call.entered?.isSome = true ↔ call.Moves
  /-- What a command has gone to was a folder then. -/
  folders : ∀ call ∈ sh.calls host line s, ∀ target ∈ call.entered?,
    call.before.files.isFolder [] target = true

theorem lineFrame_runLine {sh : Shell} (h : sh.location.Grounded) (host : Host) (line : Text)
    (s : Streams) : LineFrame sh host line s (sh.runLine Registry.standard host line s) := by
  have hleads := Shell.traceLeads_runLine h host line s
  refine ⟨fun hblank => ?_, fun e he => ?_, sh.map_command_calls host line s,
    fun name hname => sh.get?_vars_runLine host line s hname, ?_, ?_,
    fun call hcall => ⟨fun hsome => ?_, hleads.moves call hcall⟩, hleads.folders⟩
  · exact Shell.runLine_of_nil ((readLine_eq_nil_iff line sh.vars).mpr hblank)
  · exact Shell.runLine_of_error he
  · rw [hleads.location]
  · exact congrArg Location.cwd hleads.location
  · obtain ⟨target, htarget⟩ := Option.isSome_iff_exists.mp hsome
    exact Call.moves_of_entered? htarget

/-! ### Sessions -/

theorem Location.grounded_start {base : Path} (h : base.isAbsolute = true) :
    (Location.start base).Grounded :=
  ⟨Path.straight_normalize h, Path.straight_normalize h⟩

/-- An event leaves the home folder as it is, and the session on straight paths. -/
theorem grounded_after {sh : Shell} (h : sh.location.Grounded) (e : SessionEvent) :
    (sh.after e).location.Grounded ∧ (sh.after e).location.home = sh.location.home := by
  cases e with
  | line host text s =>
    exact ⟨(Shell.traceLeads_runLine h host text s).grounded,
      (lineFrame_runLine h host text s).home⟩
  | record code => exact ⟨h, rfl⟩
  | files tree => exact ⟨h, rfl⟩

/-- So does any number of events. -/
theorem grounded_session {sh : Shell} (h : sh.location.Grounded) (events : List SessionEvent) :
    (events.foldl Shell.after sh).location.Grounded ∧
      (events.foldl Shell.after sh).location.home = sh.location.home := by
  induction events generalizing sh with
  | nil => exact ⟨h, rfl⟩
  | cons e rest ih =>
    obtain ⟨hgrounded, hhome⟩ := grounded_after h e
    obtain ⟨hend, hsame⟩ := ih hgrounded
    exact ⟨hend, hsame.trans hhome⟩

/-- **What lines change, over whole sessions.**  A session has begun at an absolute path.  At any
later time its home folder is the one that it began with, and its current folder has a straight
path: absolute, and without a name that is empty, `.` or `..`.  And every line that may follow, on
any host and with any streams, changes no more than its frame allows. -/
theorem lineFrame_of_session {base : Path} (h : base.isAbsolute = true) (vars : Variables)
    (files : FileTree) (events : List SessionEvent) :
    let sh := events.foldl Shell.after (Shell.start ⟨vars, Location.start base⟩ files)
    sh.location.home = base.normalize ∧ sh.cwd.Straight ∧
      ∀ host line s, LineFrame sh host line s (sh.runLine Registry.standard host line s) := by
  have hstart : (Shell.start ⟨vars, Location.start base⟩ files).location.Grounded :=
    Location.grounded_start h
  obtain ⟨hgrounded, hhome⟩ := grounded_session hstart events
  exact ⟨hhome, hgrounded.cwd, lineFrame_runLine hgrounded⟩

/-- A line that fails at its last command.  Before that it has set a variable and has gone to `/a`
and from there to `/a/b`. -/
theorem lineFrame_of_session_cd :
    let base : Path := Utf8.encode "/./x/..//"
    let files : FileTree := ⟨[([Utf8.encode "a"], .folder),
      ([Utf8.encode "a", Utf8.encode "b"], .folder)]⟩
    let host : Host := fun _ files => (.ran [0x78] [] (.exited 0), files)
    let sh := Shell.start ⟨.empty, Location.start base⟩ files
    let s : Streams := ⟨.ofBytes [], ⟨[], .writeFails⟩, .fresh, false, false⟩
    let o := sh.runLine Registry.standard host "x=1 | cd a | cd b/../b | cd --help | yes" s
    base.isAbsolute = true ∧ LineFrame sh host "x=1 | cd a | cd b/../b | cd --help | yes" s o ∧
      o.1.toOption = none ∧ o.2.1.vars.get? ['x'] = some ['1'] ∧
      sh.cwd = Utf8.encode "/" ∧ o.2.1.cwd = Utf8.encode "/a/b" := by
  intro base files host sh s o
  have habsolute : base.isAbsolute = true := by decide
  obtain ⟨-, -, hframe⟩ := lineFrame_of_session habsolute .empty files []
  exact ⟨habsolute, hframe host _ s, by decide +kernel, by decide +kernel, by decide +kernel,
    by decide +kernel⟩

end CommandShell
