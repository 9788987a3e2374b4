import CommandShell.Invocation.Arguments
import CommandShell.Release

/-!
# What is said about the command line

## Main definitions

* `helpText` — all there is to know about the command line.
* `Switch.usage` — the usage that is shown with an error.
* `UsageError.message` — the report of an error.
* `Halt.text` — what is shown in place of a session.
-/

namespace CommandShell

namespace Switch

/-- What a switch does. -/
def purpose : Switch → Text
  | command => "Run one command line and exit with its status"
  | config => "Path to config file (default: ./clish.toml or ~/.config/clish/clish.toml)"
  | prompt => "Override the prompt text"
  | noColor => "Disable color output"
  | help => "Print help"
  | version => "Print version"

/-- The width of the longest switch as it is shown. -/
def shownWidth : Nat := (all.map fun s => s.shown.length).foldl max 0

/-- The row of a switch in the help text. -/
def row (s : Switch) : Text :=
  let letter := match s.letter? with
    | some c => ['-', c, ',', ' ']
    | none => List.replicate 4 ' '
  "  ".toList ++ letter ++ s.shown ++ List.replicate (shownWidth - s.shown.length + 2) ' ' ++
    s.purpose ++ ['\n']

/-- The usage that is shown with an error: the switches in use and those in question, each
once, or just that there are switches. -/
def usage (switches : List Switch) : Text :=
  "Usage: ".toList ++ joinWith [' ']
    (Release.current.name ::
      if switches.isEmpty then ["[OPTIONS]".toList] else switches.eraseDups.map shown)

end Switch

/-- All there is to know about the command line. -/
def helpText : Text :=
  Release.current.summary ++ "\n\n".toList ++ Switch.usage [] ++
    "\n\nOptions:\n".toList ++ (Switch.all.map Switch.row).flatten ++
    '\n' :: Release.current.build ++ ['\n']

/-- What is wrong. -/
def UsageError.complaint : UsageError → Text
  | .unexpected argument _ _ => "unexpected argument '".toList ++ argument ++ "' found".toList
  | .valueMissing s =>
      "a value is required for '".toList ++ s.shown ++ "' but none was supplied".toList
  | .repeated s =>
      "the argument '".toList ++ s.shown ++ "' cannot be used multiple times".toList
  | .valueUnwanted s value _ =>
      "unexpected value '".toList ++ value ++ "' for '".toList ++ s.shown ++
        "' found; no more were expected".toList

/-- What else there is to say: what was probably meant, and the usage. -/
def UsageError.advice : UsageError → List Text
  | .unexpected _ none inUse => [Switch.usage inUse]
  | .unexpected _ (some s) inUse =>
      ["  tip: a similar argument exists: '--".toList ++ s.name ++ ['\''],
        Switch.usage (inUse ++ [s])]
  | .valueMissing _ => []
  | .repeated _ => [Switch.usage []]
  | .valueUnwanted s _ inUse => [Switch.usage (inUse ++ [s])]

/-- The report of an error, in paragraphs. -/
def UsageError.message (e : UsageError) : Text :=
  joinWith "\n\n".toList (("error: ".toList ++ e.complaint) :: e.advice ++
    ["For more information, try '--help'.".toList]) ++ ['\n']

/-- What is shown in place of a session. -/
def Halt.text : Halt → Text
  | .help => helpText
  | .version true => Release.current.full ++ ['\n']
  | .version false => Release.current.brief ++ ['\n']
  | .misuse e => e.message

end CommandShell
