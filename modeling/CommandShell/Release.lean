import CommandShell.Text.Basic

/-!
# The release

What the program tells about itself: its name, its version, and from which state of its
sources it was built, and when.

## Main definitions

* `Release`, `Release.current` — a release, and the one that this is.
* `Release.brief`, `Release.full` — the version in one line, and with the build.
* `Release.build` — the build alone.
-/

namespace CommandShell

/-- A release of the program. -/
structure Release where
  /-- The name of the program. -/
  name : Text
  /-- What the program is, in a line. -/
  summary : Text
  /-- The version. -/
  version : Text
  /-- The state of the sources. -/
  commit : Text
  /-- The time of the build. -/
  built : Text
  deriving DecidableEq, Repr

namespace Release

/-- This release. -/
def current : Release where
  name := "clish"
  summary := "A small interactive command shell with pipelines, variables and builtins"
  version := "0.1.0"
  commit := "0123456789ab"
  built := "2000-01-01T00:00:00Z"

/-- The name and the version. -/
def brief (r : Release) : Text := r.name ++ ' ' :: r.version

/-- The name, the version and the build, a line each. -/
def full (r : Release) : Text :=
  r.brief ++ "\ncommit: ".toList ++ r.commit ++ "\nbuilt: ".toList ++ r.built

/-- The build, under a heading. -/
def build (r : Release) : Text :=
  "Build metadata:\n  commit: ".toList ++ r.commit ++ "\n  built: ".toList ++ r.built

end Release

end CommandShell
