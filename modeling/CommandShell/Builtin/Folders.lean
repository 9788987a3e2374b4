import CommandShell.Builtin.Basic

/-!
# Moving through folders

## Main definitions

* `Builtin.pwd` — the current folder.
* `Builtin.cd` — another current folder.
* `listing`, `Builtin.ls` — the entries of a folder.
-/

namespace CommandShell

/-- The entries of a folder as they are shown: each name as text, with a slash after that of a
folder, in the order of the texts shown, one to a line. -/
def listing (members : List (Bytes × Bool)) : Text :=
  let shown := members.map fun (name, isFolder) =>
    Utf8.decodeLossy name ++ if isFolder then ['/'] else []
  (shown.mergeSort textLe).flatMap fun line => line ++ ['\n']

namespace Builtin

/-- Print the current folder. -/
def runPwd : BuiltinRun := reading fun _ c state s =>
  if c.args = [] then emit "pwd" (Path.display state.location.cwd ++ ['\n']) s
  else complain "pwd does not have args" s

/-- The builtin `pwd`. -/
def pwd : Builtin := ⟨"pwd", some "Get current work directory\n", runPwd⟩

/-- Go to a folder, which must be there; the home folder if none is named. -/
def runCd : BuiltinRun := fun files c state s =>
  let stay (answer : Status × Streams) : Status × ShellState × Streams :=
    (answer.1, state, answer.2)
  let go (target : Path) : Status × ShellState × Streams :=
    match files.stat [] target with
    | .ok (_, .folder) =>
        (.success, { state with location := state.location.changeDir target }, s)
    | .ok _ => stay (complain ("cd: not a directory (".toList ++ Path.display target ++ [')']) s)
    | .error _ =>
        stay (complain ("cd: directory doesn't exist (".toList ++ Path.display target ++ [')']) s)
  match c.args with
  | [] => go state.location.home
  | [folder] => go (state.location.resolve (Path.ofText folder))
  | _ => stay (complain "cd: too many arguments" s)

/-- The builtin `cd`. -/
def cd : Builtin := ⟨"cd", some "Change current working directory\n", runCd⟩

/-- Print the entries of a folder, the current one if none is named. -/
def runLs : BuiltinRun := reading fun files c state s =>
  let show_ (target : Path) : Status × Streams :=
    match files.list [] target with
    | .ok members => emit "ls" (listing members) s
    | .error _ =>
        complain ("ls: cannot resolve path: ".toList ++ c.args.head?.getD ['.']) s
  match c.args with
  | [] => show_ state.location.cwd
  | [folder] => show_ (state.location.resolve (Path.ofText folder))
  | _ => complain "ls can take arguments eq or less 1 arg" s

/-- The builtin `ls`. -/
def ls : Builtin :=
  ⟨"ls", some "List files and directories in the current working directory.\n", runLs⟩

end Builtin

end CommandShell
