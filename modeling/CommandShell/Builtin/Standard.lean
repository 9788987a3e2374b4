import CommandShell.Builtin.Control
import CommandShell.Builtin.Folders
import CommandShell.Builtin.Printing
import CommandShell.Builtin.Search

/-!
# The standard builtins

## Main definitions

* `Registry.standard` — the builtins that every session has.
-/

namespace CommandShell

/-- The builtins that every session has. -/
def Registry.standard : Registry := [
  Builtin.wc, Builtin.assign, Builtin.pwd, Builtin.ls, Builtin.grep, Builtin.exit, Builtin.echo,
  Builtin.cd, Builtin.cat]

end CommandShell
