import CommandShell.Proofs.Answers
import CommandShell.Proofs.Executions

/-!
# What commands do to variables

Of all commands only the assignment touches the variables, and it touches one.  The value of a
variable after a pipeline is therefore the one that was last assigned to it by the commands that
have run, whether the pipeline completes or not, or else the value that it had.

## Main definitions

* `Command.assign` — the variables after a command.
* `lastAssigned` — the value that a list of commands leaves in a variable.

## Main results

* `vars_runCommand` — what a single command does to the variables.
* `get?_vars_runPipeline` — **what a pipeline leaves in a variable.**
-/

namespace CommandShell

/-- The value that a command gives to a variable. -/
def Command.assignedTo? (name : Text) (c : Command) : Option Text :=
  c.assigned?.bind fun (set, value) => if set = name then some value else none

/-- The value that a list of commands leaves in a variable, if one of them sets it. -/
def lastAssigned (name : Text) (cs : List Command) : Option Text :=
  (cs.filterMap (Command.assignedTo? name)).getLast?

theorem lastAssigned_concat (name : Text) (cs : List Command) (c : Command) :
    lastAssigned name (cs ++ [c]) = (c.assignedTo? name).or (lastAssigned name cs) := by
  rw [lastAssigned, List.filterMap_append, List.getLast?_append]
  cases h : c.assignedTo? name <;> simp [h, lastAssigned]

/-! ### Single commands -/

/-- The variables after a command. -/
def Command.assign (c : Command) (vars : Variables) : Variables :=
  match c.assigned? with
  | some (name, value) => vars.insert name value
  | none => vars

theorem Command.assign_of_eq_none {c : Command} (h : c.assigned? = none) (vars : Variables) :
    c.assign vars = vars := by
  rw [assign, h]

/-- An answer to a command gives a value to the variable that the command sets, if it sets one. -/
theorem Answer.vars_give {files : FileTree} {c : Command} {state : ShellState} {a : Answer}
    (ha : a.Answers files c state) (s : Streams) :
    (a.give c.name state s).2.1.vars = c.assign state.vars := by
  obtain ⟨⟨-, hname⟩, text, rfl⟩ | ⟨-, hfits⟩ := ha
  · have hother : c.name ≠ assignmentName := fun h => hname (h ▸ List.mem_cons_self)
    exact (Command.assign_of_eq_none (if_neg hother) state.vars).symm
  · cases a with
    | print text =>
      have hother : c.name ≠ assignmentName := fun h => hfits (h ▸ List.mem_cons_self)
      exact (Command.assign_of_eq_none (if_neg hother) state.vars).symm
    | complain message => exact (Command.assign_of_eq_none hfits.2 state.vars).symm
    | leave code complaint =>
      have hother : c.name ≠ assignmentName := fun h => absurd (h.symm.trans hfits) (by decide)
      exact (Command.assign_of_eq_none (if_neg hother) state.vars).symm
    | change after =>
      obtain ⟨name, value, hassigned, rfl⟩ | ⟨target, hdest, -, rfl⟩ := hfits
      · rw [Command.assign, hassigned]
        rfl
      · have hother : c.name ≠ assignmentName := by
          rw [Command.name_of_destination? hdest]
          decide
        exact (Command.assign_of_eq_none (if_neg hother) state.vars).symm

/-- **Of all commands only the assignment changes the variables**, and it changes one. -/
theorem vars_runCommand (host : Host) (c : Command) (m : Machine) (s : Streams) :
    (runCommand Registry.standard host c m s).2.1.state.vars = c.assign m.state.vars := by
  by_cases hc : c.IsBuiltin
  · obtain ⟨a, rest, ha, hrun⟩ := exists_outcome hc host m s.input
    rw [hrun s rfl]
    exact a.vars_give ha { s with input := rest }
  · -- a program of the host has no part in the state
    have hother : c.name ≠ assignmentName :=
      fun hname => hc (show c.name ∈ _ from hname ▸ by decide)
    rw [runCommand, run?_eq_none hc]
    exact (Command.assign_of_eq_none (if_neg hother) m.state.vars).symm

theorem get?_assign (c : Command) (vars : Variables) (name : Text) :
    (c.assign vars).get? name = (c.assignedTo? name).or (vars.get? name) := by
  rw [Command.assign, Command.assignedTo?]
  cases c.assigned? with
  | none => rfl
  | some entry =>
    obtain ⟨set, value⟩ := entry
    by_cases h : set = name
    · simp [h]
    · simp [h, Dictionary.get?_insert_of_ne _ _ (Ne.symm h)]

/-! ### Pipelines -/

/-- **What a pipeline leaves in a variable**: the value that was assigned to it last, by one of
the commands that have run, or the value that it had. -/
theorem get?_vars_runPipeline (host : Host) (stages : List Command) (m : Machine) (s : Streams)
    (name : Text) :
    (runPipeline (runCommand Registry.standard host) stages m s).2.1.state.vars.get? name
      = (lastAssigned name (executed (runCommand Registry.standard host) stages m s)).or
          (m.state.vars.get? name) := by
  -- the invariant relates the variables to the log, step by step
  have hstep : ∀ (c : Command) (x : Machine × List Command) (s : Streams),
      x.1.state.vars.get? name = (lastAssigned name x.2).or (m.state.vars.get? name) →
      ((runCommand Registry.standard host).logged c x s).2.1.1.state.vars.get? name
        = (lastAssigned name ((runCommand Registry.standard host).logged c x s).2.1.2).or
            (m.state.vars.get? name) := by
    intro c x s hx
    have hvars := congrArg (·.get? name) (vars_runCommand host c x.1 s)
    simp only [get?_assign, hx] at hvars
    rw [Step.logged, lastAssigned_concat, Option.or_assoc]
    exact hvars
  have hlog := runPipeline_invariant
    (P := fun x => x.1.state.vars.get? name
      = (lastAssigned name x.2).or (m.state.vars.get? name))
    hstep stages (x := (m, [])) rfl s
  rw [← runPipeline_logged (runCommand Registry.standard host) stages m [] s]
  exact hlog

end CommandShell
