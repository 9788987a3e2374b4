import CommandShell.Files.Tree
import CommandShell.Settings.Layer

/-!
# Finding the settings

The settings file is the one that was asked for; else the one in the current folder, if it can
be read as text; else the one of the user, if that can be read; else there is none.

## Main definitions

* `Source` — where the settings come from.
* `SettingsError`, `SettingsError.message` — why there are no settings.
* `settingsRoot` — the folder of the settings of the user.
* `settingsText`, `loadSettings` — the settings file, and the settings.
-/

namespace CommandShell

/-- Where the settings come from. -/
inductive Source where
  /-- A file that was asked for. -/
  | explicit (p : Path)
  /-- The file in the current folder. -/
  | local
  /-- The file of the user. -/
  | global (p : Path)
  /-- No file. -/
  | defaults
  deriving DecidableEq, Repr

/-- Why there are no settings. -/
inductive SettingsError where
  /-- The file that was asked for cannot be read. -/
  | unreadable (cause : Cause)
  /-- The file is not well formed. -/
  | malformed
  /-- The filter of logged events is blank. -/
  | blankFilter
  deriving DecidableEq, Repr

/-- The report of an error.  Of a file that is not well formed only the kind of the error is
told here. -/
def SettingsError.message : SettingsError → Text
  | .unreadable cause => "config: io: ".toList ++ cause.text
  | .malformed => "config: toml: "
  | .blankFilter => "config: invalid config: logging.filter must not be empty"

/-- The name of a settings file. -/
def settingsFile : Path := Path.ofText "clish.toml"

/-- The name of the folder of the settings of this program. -/
def settingsFolder : Path := Path.ofText "clish"

/-- The folder of the settings of the user: the one that the environment names, unless that is
blank, else one in the home folder of the user. -/
def settingsRoot (env : Text → Option Text) (home : Option Path) : Option Path :=
  match ((env "XDG_CONFIG_HOME").map trim).filter (· ≠ []) with
  | some named => some (Path.ofText named)
  | none => home.map fun h => h.join (Path.ofText ".config")

/-- The text of the settings file, and where it comes from. -/
def settingsText (read : Path → Except Cause Text) (root : Option Path) (asked : Option Path) :
    Except SettingsError (Text × Source) :=
  match asked with
  | some p =>
      match read p with
      | .ok text => .ok (text, .explicit p)
      | .error cause => .error (.unreadable cause)
  | none =>
      match read settingsFile with
      | .ok text => .ok (text, .local)
      | .error _ =>
          match root.map fun r => (r.join settingsFolder).join settingsFile with
          | none => .ok ([], .defaults)
          | some p =>
              match read p with
              | .ok text => .ok (text, .global p)
              | .error _ => .ok ([], .defaults)

/-- The settings and where they come from, given how files are read and understood.  If the user has
no folder of settings, the platform may have one. -/
def loadSettings (read : Path → Except Cause Text) (understand : Text → Option Layer)
    (env : Text → Option Text) (home platform : Option Path) (asked : Option Path) :
    Except SettingsError (Settings × Source) := do
  let (text, source) ← settingsText read ((settingsRoot env home).or platform) asked
  match understand text with
  | none => .error .malformed
  | some file =>
      let settings := ((Layer.ofEnvironment env).atop file).settle
      if settings.isValid then .ok (settings, source) else .error .blankFilter

/-- The home folder of the user: the one that the environment names, if any, else another. -/
def homeFolder (env : Text → Option Text) (registered : Path) : Path :=
  match (env "HOME").filter (· ≠ []) with
  | some named => Path.ofText named
  | none => registered

end CommandShell
