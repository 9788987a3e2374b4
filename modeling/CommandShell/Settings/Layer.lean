import CommandShell.Text.Blank
import CommandShell.Toml.Reader

/-!
# Layers of settings

A layer says nothing about most settings.  A setting has the value of the highest layer that
says something about it: the environment, then the settings file, then the defaults.

## Main definitions

* `Layer`, `Layer.atop` — what some source says, and two sources together.
* `Settings`, `Layer.settle` — the settings, and what a layer makes of the defaults.
* `Layer.ofFile?` — what a settings file says.
* `Layer.ofEnvironment` — what the environment says.
-/

namespace CommandShell

/-- What a source says about the settings. -/
structure Layer where
  /-- The text of the prompt. -/
  prompt : Option Text
  /-- The prompt has colour. -/
  color : Option Bool
  /-- The variables of the process become variables of the session. -/
  importEnv : Option Bool
  /-- Which events are logged. -/
  filter : Option Text
  deriving DecidableEq, Repr

/-- The settings of a session. -/
structure Settings where
  /-- The text of the prompt. -/
  prompt : Text
  /-- The prompt has colour. -/
  color : Bool
  /-- The variables of the process become variables of the session. -/
  importEnv : Bool
  /-- Which events are logged. -/
  filter : Text
  deriving DecidableEq, Repr

/-- The settings about which nothing is said. -/
def Settings.default : Settings := ⟨"> ", true, true, "warn"⟩

/-- The settings are usable: the filter is not blank. -/
def Settings.isValid (s : Settings) : Bool := !allBlank s.filter

namespace Layer

/-- A layer that says nothing. -/
def silent : Layer := ⟨none, none, none, none⟩

/-- A layer on top of another. -/
def atop (upper lower : Layer) : Layer where
  prompt := upper.prompt.or lower.prompt
  color := upper.color.or lower.color
  importEnv := upper.importEnv.or lower.importEnv
  filter := upper.filter.or lower.filter

/-- The settings that a layer makes of the defaults. -/
def settle (l : Layer) : Settings where
  prompt := l.prompt.getD Settings.default.prompt
  color := l.color.getD Settings.default.color
  importEnv := l.importEnv.getD Settings.default.importEnv
  filter := l.filter.getD Settings.default.filter

/-! ### The settings file -/

/-- The only field of a group of settings.  The group may also be given as a row, of which the
first item is the field, and a date stands for a group without fields.  The inner `none` says
that the field is not given, the outer one that the group is of another kind. -/
def groupField (field : String) : Toml.Value → Option (Option Toml.Value)
  | .table entries => some (Toml.Table.get? entries field)
  | .array items => some items.head?
  | .moment => some none
  | .string _ | .boolean _ | .number => none

/-- A field of a group, if it is given, in the form that it must have. -/
def setting {α : Type} (form : Toml.Value → Option α) (t : Toml.Table) (group field : String) :
    Option (Option α) :=
  match t.get? group with
  | none => some none
  | some v =>
      match groupField field v with
      | none => none
      | some none => some none
      | some (some v) => (form v).map some

/-- The text that a value is. -/
def textForm : Toml.Value → Option Text
  | .string t => some t
  | _ => none

/-- The truth value that a value is. -/
def boolForm : Toml.Value → Option Bool
  | .boolean b => some b
  | _ => none

/-- What a settings file says, `none` if it is not well formed or a setting has another form
than it must have.  Other entries are passed over. -/
def ofFile? (text : Text) : Option Layer := do
  let t ← Toml.Table.ofText? text
  return {
    prompt := ← setting textForm t "prompt" "text"
    color := ← setting boolForm t "display" "color"
    importEnv := ← setting boolForm t "shell" "import_env"
    filter := ← setting textForm t "logging" "filter" }

/-! ### The environment -/

/-- What the environment says: the prompt, even an empty one; that there is no colour, by any
text but the empty one; and the filter, unless it is blank. -/
def ofEnvironment (env : Text → Option Text) : Layer where
  prompt := env "CLISH_PROMPT"
  color := (env "CLISH_NO_COLOR").bind fun value => if value = [] then none else some false
  importEnv := none
  filter := (env "CLISH_LOG").filter fun value => !allBlank value

end Layer

/-- The filter of logged events: another one given for the process replaces that of the
settings unless it is blank. -/
def effectiveFilter (configured : Text) (given : Option Text) : Text :=
  (given.filter fun value => !allBlank value).getD configured

end CommandShell
