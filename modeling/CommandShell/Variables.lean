import CommandShell.Dictionary

/-!
# Variables

The variables of a session are named by arbitrary texts, but only those with an identifier
for a name can be written with `NAME=value` and reach a child process.

## Main definitions

* `isIdentifier` — a letter or underscore, then letters, digits and underscores, all ASCII.
* `Variables` — the variables of a session.
* `Variables.value` — the value of a variable, empty if it was never set.
* `Variables.exported` — the variables that a child process receives.
* `statusName` — the name of the variable that holds the last status.
-/

namespace CommandShell

/-- An ASCII letter or an underscore. -/
def isNameStart (c : Char) : Bool :=
  ('a' ≤ c && c ≤ 'z') || ('A' ≤ c && c ≤ 'Z') || c == '_'

/-- An ASCII letter, an ASCII digit or an underscore. -/
def isNameChar (c : Char) : Bool := isNameStart c || ('0' ≤ c && c ≤ '9')

/-- The names that `NAME=value` can set and `$NAME` can read. -/
def isIdentifier : Text → Bool
  | [] => false
  | c :: rest => isNameStart c && rest.all isNameChar

/-- The variables of a session. -/
abbrev Variables := Dictionary Text

/-- The name of the variable that holds the last status. -/
def statusName : Text := ['?']

/-- The value of a variable; a variable that was never set is empty. -/
def Variables.value (vars : Variables) (name : Text) : Text := (vars.get? name).getD []

/-- The variables that a child process receives: those with an identifier for a name. -/
def Variables.exported (vars : Variables) : List (Text × Text) :=
  vars.entries.filter fun (name, _) => isIdentifier name

/-- The name of the last status is no identifier, so the last status is never exported. -/
@[simp] theorem isIdentifier_statusName : isIdentifier statusName = false := rfl

end CommandShell
