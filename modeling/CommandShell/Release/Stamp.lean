import CommandShell.External
import CommandShell.Text.Blank
import CommandShell.Text.Decimal

/-!
# Stamping a build

Before the program is built, the builder is told from which state of the sources, and when.
Both may be given; otherwise the tools of the host are asked.  The builder is also told what
the stamp depends on, so that it is renewed when that changes.

## Main definitions

* `Workplace` — where a build takes place.
* `Workplace.ask?` — what a tool of the host answers.
* `Stamp`, `Workplace.stamp` — the stamp.
* `Workplace.instructions` — what the builder is told.
-/

namespace CommandShell

/-- Where a build takes place. -/
structure Workplace where
  /-- The programs of the host. -/
  host : Host
  /-- The environment. -/
  vars : List (Text × Text)
  /-- The folder of the sources. -/
  cwd : Path
  /-- The files. -/
  files : FileTree
  /-- The seconds since the beginning of 1970. -/
  now : Nat

/-- What a build is stamped with. -/
structure Stamp where
  /-- The state of the sources. -/
  commit : Text
  /-- The time of the build. -/
  built : Text
  deriving DecidableEq, Repr

/-- The variable that gives the state of the sources. -/
def commitVariable : Text := "CLISH_BUILD_GIT_HASH"

/-- The variable that gives the time of the build. -/
def builtVariable : Text := "CLISH_BUILD_TIMESTAMP"

/-- The file that tells the current state of the sources, or where that is told. -/
def headFile : Text := ".git/HEAD"

namespace Workplace

/-- What a tool answers, and the files after that.  An answer is a text that is not blank,
from a tool that succeeds. -/
def ask? (w : Workplace) (files : FileTree) (tool : Text) (args : List Text) :
    Option Text × FileTree :=
  match w.host ⟨tool, args, w.cwd, w.vars, []⟩ files with
  | (.ran output _ (.exited 0), files) =>
      (((Utf8.decode? output).map trim).filter (· ≠ []), files)
  | (_, files) => (none, files)

/-- The stamp: what the environment gives, else what the tools of the host answer. -/
def stamp (w : Workplace) : Stamp :=
  let (commit, files) := match w.vars.lookup commitVariable with
    | some given => (given, w.files)
    | none =>
        match w.ask? w.files "git" ["rev-parse", "--short=12", "HEAD"] with
        | (answer, files) => (answer.getD "unknown", files)
  let built := match w.vars.lookup builtVariable with
    | some given => given
    | none => (w.ask? files "date" ["-u", "+%Y-%m-%dT%H:%M:%SZ"]).1.getD
        ("unix:".toList ++ decimal w.now)
  ⟨commit, built⟩

/-- Where the current state of the sources is told, if the head file only refers to it. -/
def headReference? (w : Workplace) : Option Text :=
  match w.files.readText (Path.names w.cwd) (Path.ofText headFile) with
  | .ok text => "ref: ".toList.isPrefixOf? (trim text)
  | .error _ => none

/-- What the builder is told. -/
def instructions (w : Workplace) : List Text :=
  let stamp := w.stamp
  let fileWatched (path : Text) : Text := "cargo:rerun-if-changed=".toList ++ path
  let variableWatched (name : Text) : Text := "cargo:rerun-if-env-changed=".toList ++ name
  let passed (name value : Text) : Text :=
    "cargo:rustc-env=".toList ++ name ++ '=' :: value
  fileWatched headFile ::
    (w.headReference?.toList.map fun r => fileWatched (".git/".toList ++ r)) ++
    [variableWatched commitVariable, variableWatched builtVariable,
      passed commitVariable stamp.commit, passed builtVariable stamp.built]

end Workplace

end CommandShell
