import CommandShell.Builtin.Basic

/-!
# Ending a session and setting variables

## Main definitions

* `Builtin.exit` — the end of the session.
* `Builtin.assign` — what `NAME=value` becomes.
-/

namespace CommandShell.Builtin

/-- Ask to end the session with a status, zero if none is given and two if it is no number. -/
def runExit : BuiltinRun := reading fun _ c _ s =>
  match c.args with
  | [] => (.exit 0, s)
  | arg :: _ =>
      match readInt32? arg with
      | some code => (.exit code, s)
      | none =>
          (.exit 2, s.putError ("exit: numeric argument required (".toList ++ arg ++ [')', '\n']))

/-- The builtin `exit`. -/
def exit : Builtin := ⟨"exit", none, runExit⟩

/-- Give a variable a value. -/
def runAssign : BuiltinRun := fun _ c state s =>
  match c.args with
  | [name, value] => (.success, { state with vars := state.vars.insert name value }, s)
  | _ =>
      match complain "incorrect set variable statement" s with
      | (status, s) => (status, state, s)

/-- The builtin that assignments become. -/
def assign : Builtin := ⟨assignmentName, none, runAssign⟩

end CommandShell.Builtin
