import CommandShell.Builtin.Basic
import CommandShell.Text.Blank

/-!
# Printing texts and files

## Main definitions

* `Builtin.echo` — its arguments.
* `Builtin.cat` — files, or the input, one after the other.
* `Counts`, `Builtin.wc` — the numbers of lines, words and bytes.
-/

namespace CommandShell

/-- The contents of files in order; the first file that cannot be read is the answer
otherwise. -/
def readFiles (files : FileTree) (location : Location) :
    List Text → Except Text (List (Text × Bytes))
  | [] => .ok []
  | name :: rest =>
      match files.read [] (location.resolve (Path.ofText name)) with
      | .ok bytes => (readFiles files location rest).map ((name, bytes) :: ·)
      | .error _ => .error name

namespace Builtin

/-! ### Arguments -/

/-- Print the arguments with a blank between neighbours, and a newline unless `-n` is given. -/
def runEcho : BuiltinRun := reading fun _ c _ s =>
  emit "echo" (joinWith [' '] c.args ++ if c.options.has ['n'] then [] else ['\n']) s

/-- The builtin `echo`. -/
def echo : Builtin := ⟨"echo", some "Display a line of text.\n", runEcho⟩

/-! ### Contents -/

/-- Print files, or the input if none is named.  Nothing is printed unless all of them can be
read; bytes that are no text are replaced. -/
def runCat : BuiltinRun := reading fun files c state s =>
  if c.args = [] then
    match s.readText with
    | (some text, s) => emit "cat" text s
    | (none, s) => complain "cat: error reading input stream" s
  else
    match readFiles files state.location c.args with
    | .ok contents => emit "cat" (contents.flatMap fun (_, bytes) => Utf8.decodeLossy bytes) s
    | .error name => complain ("cat: cannot read file ".toList ++ name) s

/-- The builtin `cat`. -/
def cat : Builtin := ⟨"cat", some "Get files' content\n", runCat⟩

end Builtin

/-! ### Counting -/

/-- The numbers of lines, words and bytes. -/
structure Counts where
  /-- The number of lines. -/
  lines : Nat
  /-- The number of words. -/
  words : Nat
  /-- The number of bytes. -/
  bytes : Nat
  deriving DecidableEq, Repr

namespace Counts

/-- The counts of a byte string; lines and words are those of its text. -/
def of (b : Bytes) : Counts :=
  let text := Utf8.decodeLossy b
  ⟨(CommandShell.lines text).length, countWords text, b.length⟩

/-- The counts of nothing. -/
def zero : Counts := ⟨0, 0, 0⟩

/-- The counts of two byte strings together. -/
def add (a b : Counts) : Counts := ⟨a.lines + b.lines, a.words + b.words, a.bytes + b.bytes⟩

/-- The counts that the options ask for, all of them if they ask for none, and a name. -/
def render (o : Options) (name : Option Text) (c : Counts) : Text :=
  let all := !(o.has ['l'] || o.has ['w'] || o.has ['c'])
  let column (key : Char) (n : Nat) : List Text :=
    if all || o.has [key] then [decimal n] else []
  joinWith [' '] (column 'l' c.lines ++ column 'w' c.words ++ column 'c' c.bytes ++ name.toList) ++
    ['\n']

end Counts

namespace Builtin

/-- Print a row of counts for each file, and for all of them if there are several; for the
input if none is named. -/
def runWc : BuiltinRun := reading fun files c state s =>
  if c.args = [] then
    match s.readAll with
    | (some bytes, s) => emit "wc" ((Counts.of bytes).render c.options none) s
    | (none, s) => complain "wc: error reading input stream" s
  else
    match readFiles files state.location c.args with
    | .ok contents =>
        let rows := contents.map fun (name, bytes) => (name, Counts.of bytes)
        let total := rows.foldl (fun total row => total.add row.2) Counts.zero
        emit "wc" ((rows.flatMap fun (name, counts) => counts.render c.options (some name)) ++
          if c.args.length > 1 then total.render c.options (some "total") else []) s
    | .error name => complain ("wc: cannot read file ".toList ++ name) s

/-- The builtin `wc`. -/
def wc : Builtin := ⟨"wc", some "Print lines, words and bytes in file.\n", runWc⟩

end Builtin

end CommandShell
