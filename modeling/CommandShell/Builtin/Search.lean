import CommandShell.Builtin.Basic
import CommandShell.Regex

/-!
# Searching lines

`grep` prints the lines that match a pattern, and so many lines after each of them.

## Main definitions

* `SearchRequest`, `SearchRequest.ofCommand` — what is asked for.
* `highlight` — a line with its matches coloured.
* `selectLines` — the lines to be printed.
* `Builtin.grep` — the builtin.
-/

namespace CommandShell

/-! ### What is asked for -/

/-- What is to be searched for, and how. -/
structure SearchRequest where
  /-- The pattern, or the text if only whole words are to be found. -/
  pattern : Text
  /-- The file to search, the input if there is none. -/
  file : Option Text
  /-- The number of lines to print after a line that matches. -/
  context : Nat
  /-- Letters match without regard to case. -/
  ignoreCase : Bool
  /-- Only whole words are to be found. -/
  wholeWord : Bool
  /-- Matches are coloured. -/
  color : Bool
  deriving DecidableEq, Repr

/-- What is wrong with a request. -/
inductive SearchFault where
  /-- The pattern is missing, where a number of lines was asked for or not. -/
  | missing (withContext : Bool)
  /-- The number of lines is no number. -/
  | badContext
  deriving DecidableEq, Repr

/-- The sentence that reports a bad request. -/
def SearchFault.message : SearchFault → Text
  | .missing withContext =>
      "grep: invalid number of arguments or empty input stream\n".toList ++
        if withContext then "grep [options] -A <number> <pattern> [file]".toList
        else "grep [options] <pattern> [file]".toList
  | .badContext => "grep: Invalid number for -A option"

namespace SearchRequest

/-- The number of lines after a match, and the arguments that are left: the number is the value
of the option `-A` or, if it has none, the first argument, which a pattern must follow. -/
def contextOf (o : Options) (args : List Text) : Except SearchFault (Nat × List Text) :=
  let number (written : Text) (rest : List Text) : Except SearchFault (Nat × List Text) :=
    match readNatBelow? (Nat.pow 2 64) written with
    | some n => .ok (n, rest)
    | none => .error .badContext
  if !o.has ['A'] then .ok (0, args)
  else match o.first? ['A'], args with
    | some written, _ => number written args
    | none, written :: next :: rest => number written (next :: rest)
    | none, _ => .error (.missing true)

/-- The request that a command makes. -/
def ofCommand (c : Command) : Except SearchFault SearchRequest := do
  match ← contextOf c.options c.args with
  | (_, []) => .error (.missing (c.options.has ['A']))
  | (context, pattern :: rest) =>
      .ok {
        pattern := pattern
        file := rest.head?
        context := context
        ignoreCase := c.options.has ['i']
        wholeWord := c.options.has ['w']
        color := c.options.has ['c'] || c.options.has "color" }

/-- The pattern of a request, ready for searching. -/
def regex (r : SearchRequest) : Except RegexError Regex :=
  if r.wholeWord then Regex.wholeWords r.ignoreCase r.pattern
  else Regex.ofText r.ignoreCase r.pattern

end SearchRequest

/-! ### Lines -/

/-- What switches a terminal to another colour. -/
def controlSequence (code : String) : Text := Char.ofNat 0x1B :: '[' :: code.toList

/-- A text in red. -/
def red (t : Text) : Text := controlSequence "38;5;9m" ++ t ++ controlSequence "39m"

/-- The rest of a line from a place on, with matches in red; empty matches do not show. -/
def highlightFrom (line : Text) (start : Nat) : List (Nat × Nat) → Text
  | [] => line.drop start
  | (first, stop) :: rest =>
      if first = stop then highlightFrom line start rest
      else (line.take first).drop start ++ red ((line.take stop).drop first) ++
        highlightFrom line stop rest

/-- A line with its matches in red. -/
def highlight (spans : Text → List (Nat × Nat)) (line : Text) : Text :=
  highlightFrom line 0 (spans line)

/-- The lines that match, each shown in some way, and `context` lines after each of them.  The
first number says how many lines are still to be printed after a match before the first. -/
def selectLinesFrom (isMatch : Text → Bool) (shown : Text → Text) (context : Nat) :
    Nat → List Text → Text
  | _, [] => []
  | remaining, line :: rest =>
      if isMatch line then
        shown line ++ ['\n'] ++ selectLinesFrom isMatch shown context context rest
      else match remaining with
        | 0 => selectLinesFrom isMatch shown context 0 rest
        | remaining + 1 =>
            line ++ ['\n'] ++ selectLinesFrom isMatch shown context remaining rest

/-- The lines that match and `context` lines after each of them, with matches in red if so
wished. -/
def selectLines (isMatch : Text → Bool) (spans : Text → List (Nat × Nat)) (context : Nat)
    (color : Bool) (lines : List Text) : Text :=
  selectLinesFrom isMatch (if color then highlight spans else id) context 0 lines

namespace Builtin

/-- The text to be searched: a file, or the input. -/
def searchText (files : FileTree) (r : SearchRequest) (state : ShellState) (s : Streams) :
    Except Text Text × Streams :=
  match r.file with
  | some file =>
      let result := match files.readText [] (state.location.resolve (Path.ofText file)) with
        | .ok text => .ok text
        | .error .notFound => .error (file ++ ": No such file or directory".toList)
        | .error cause => .error (file ++ [':', ' '] ++ cause.text)
      (result, s)
  | none =>
      match s.readText with
      | (some text, s) => (.ok text, s)
      | (none, s) => (.error Cause.stream.text, s)

/-- Print the lines of a file or of the input that match a pattern. -/
def runGrep : BuiltinRun := reading fun files c state s =>
  match SearchRequest.ofCommand c with
  | .error fault => complain fault.message s
  | .ok request =>
      match searchText files request state s with
      | (.error message, s) => complain ("grep: ".toList ++ message) s
      | (.ok text, s) =>
          match request.regex with
          | .error e => complain ("grep: invalid pattern: ".toList ++ e.message) s
          | .ok regex =>
              emit "grep"
                (selectLines regex.occursIn regex.spans request.context request.color
                  (lines text)) s

/-- The builtin `grep`. -/
def grep : Builtin :=
  ⟨"grep",
    some ("Print lines matching a pattern.\n".toList ++
      "grep [-i] [-w] [-c|--color] [-A N] <pattern> [file]\n".toList),
    runGrep⟩

end Builtin

end CommandShell
