import CommandShell.Text.Decimal
import CommandShell.Text.Lines
import CommandShell.Unix.Process

/-!
# The programs of the modelled host

## Main definitions

* `echo`, `printf` — printing.
* `cat`, `sort`, `head`, `countAll`, `environ` — streams, files and variables.
* `listFolder`, `makeFolders`, `removeFiles`, `touch` — files.
* `test` — conditions.
* `programs` — the programs by their names.
-/

namespace CommandShell.Unix

/-! ### Printing -/

/-- The value of a digit below eight. -/
def octalDigit? (c : Char) : Option Nat :=
  if '0' ≤ c && c ≤ '7' then some (c.toNat - '0'.toNat) else none

/-- The byte that at most so many octal digits spell, after a value so far, and what follows. -/
def octal : Nat → Nat → Text → Char × Text
  | 0, n, rest => (Char.ofNat (n % 256), rest)
  | _, n, [] => (Char.ofNat (n % 256), [])
  | more + 1, n, c :: rest =>
      match octalDigit? c with
      | some d => octal more (n * 8 + d) rest
      | none => (Char.ofNat (n % 256), c :: rest)

/-- The character that a letter behind a backslash stands for. -/
def escapeLetter? (c : Char) : Option Char :=
  match c with
  | '\\' => some '\\'
  | 'a' => some (Char.ofNat 7)
  | 'b' => some (Char.ofNat 8)
  | 'f' => some (Char.ofNat 12)
  | 'n' => some '\n'
  | 'r' => some '\r'
  | 't' => some '\t'
  | 'v' => some (Char.ofNat 11)
  | _ => none

/-- A text with its escapes read, and whether printing goes on after it.  Octal numbers start
with a zero if `zero` says so.  The fuel bounds the characters. -/
def unescape (zero : Bool) : Nat → Text → Text × Bool
  | 0, _ => ([], true)
  | _, [] => ([], true)
  | fuel + 1, '\\' :: c :: rest =>
      let onward (d : Char) (rest : Text) : Text × Bool :=
        match unescape zero fuel rest with
        | (t, more) => (d :: t, more)
      if zero && c == 'c' then ([], false)
      else if zero && c == '0' then
        let (d, rest) := octal 3 0 rest
        onward d rest
      else if !zero && (octalDigit? c).isSome then
        let (d, rest) := octal 3 0 (c :: rest)
        onward d rest
      else match escapeLetter? c with
        | some d => onward d rest
        | none =>
            match unescape zero fuel (c :: rest) with
            | (t, more) => ('\\' :: t, more)
  | fuel + 1, c :: rest =>
      match unescape zero fuel rest with
      | (t, more) => (c :: t, more)

/-- Print the arguments with their escapes read. -/
def echo : Program := fun args p =>
  let (newline, args) := match args with
    | ['-', 'n'] :: rest => (false, rest)
    | _ => (true, args)
  let text := joinWith [' '] args
  let (shown, more) := unescape true (text.length + 1) text
  (p.write (shown ++ if newline && more then ['\n'] else [])).withStatus 0

/-- A number as an argument of a format. -/
def formatNumber (arg : Text) : Int := (readInt? arg).getD 0

/-- A text in a field of a given width. -/
def inField (left : Bool) (fill : Char) (width : Nat) (t : Text) : Text :=
  let pad := List.replicate (width - t.length) (if left then ' ' else fill)
  if left then t ++ pad else pad ++ t

/-- One pass over a format: what is printed, the arguments that are left, and whether printing
goes on.  The fuel bounds the characters. -/
def formatPass : Nat → Text → List Text → Text × List Text × Bool
  | 0, _, args => ([], args, true)
  | _, [], args => ([], args, true)
  | fuel + 1, '%' :: '%' :: rest, args =>
      match formatPass fuel rest args with
      | (t, args, more) => ('%' :: t, args, more)
  | fuel + 1, '%' :: rest, args =>
      let flags := rest.takeWhile fun c => c == '-' || c == '0' || c == '+' || c == ' '
      let rest := rest.drop flags.length
      let digits := rest.takeWhile isDigit
      let width := (digitsValue? digits).getD 0
      let rest := rest.drop digits.length
      let precision := match rest with
        | '.' :: rest => some ((digitsValue? (rest.takeWhile isDigit)).getD 0)
        | _ => none
      let rest := match rest with
        | '.' :: rest => rest.dropWhile isDigit
        | _ => rest
      let field (fill : Char) (t : Text) : Text := inField (flags.contains '-') fill width t
      let arg := args.headD []
      let clipped := match precision with
        | some n => arg.take n
        | none => arg
      let onward (t : Text) (rest : Text) : Text × List Text × Bool :=
        match formatPass fuel rest args.tail with
        | (more, args, on) => (t ++ more, args, on)
      match rest with
      | 's' :: rest => onward (field ' ' clipped) rest
      | 'b' :: rest =>
          match unescape true (arg.length + 1) arg with
          | (t, true) => onward (field ' ' t) rest
          | (t, false) => (t, [], false)
      | 'c' :: rest => onward (field ' ' (arg.take 1)) rest
      | 'd' :: rest | 'i' :: rest | 'u' :: rest =>
          let n := formatNumber arg
          let sign := if 0 ≤ n && flags.contains '+' then ['+'] else []
          onward (field (if flags.contains '0' then '0' else ' ') (sign ++ decimalInt n)) rest
      | 'x' :: rest =>
          onward (field (if flags.contains '0' then '0' else ' ')
            (Nat.toDigits 16 (formatNumber arg).toNat)) rest
      | 'o' :: rest => onward (field ' ' (Nat.toDigits 8 (formatNumber arg).toNat)) rest
      | rest =>
          match formatPass fuel rest args with
          | (t, args, more) => ('%' :: t, args, more)
  | fuel + 1, '\\' :: c :: rest, args =>
      let (d, rest) :=
        if (octalDigit? c).isSome then
          let (d, rest) := octal 3 0 (c :: rest)
          ([d], rest)
        else match escapeLetter? c with
          | some d => ([d], rest)
          | none => (['\\', c], rest)
      match formatPass fuel rest args with
      | (t, args, more) => (d ++ t, args, more)
  | fuel + 1, c :: rest, args =>
      match formatPass fuel rest args with
      | (t, args, more) => (c :: t, args, more)

/-- Passes over a format until no argument is left. -/
def formatPasses (format : Text) : Nat → List Text → Text
  | 0, _ => []
  | fuel + 1, args =>
      match formatPass (format.length + 1) format args with
      | (t, left, more) =>
          if more && !left.isEmpty && left.length < args.length then
            t ++ formatPasses format fuel left
          else t

/-- Print the arguments in a format. -/
def printf : Program := fun args p =>
  match args with
  | [] => p.refuseInScript 2 "printf: usage: printf format [arg ...]"
  | format :: args => (p.write (formatPasses format (args.length + 1) args)).withStatus 0

/-! ### Streams, files and variables -/

/-- The contents of files one after the other, `-` standing for the input; a file that cannot
be read is complained about. -/
def readAll (program : Text) : List Text → Process → Text × Process
  | [], p => ([], p)
  | ['-'] :: rest, p =>
      match readAll program rest { p with input := [] } with
      | (t, after) => (p.input ++ t, after)
  | name :: rest, p =>
      match p.files.read p.cwd (Process.path name) with
      | .ok content =>
          match readAll program rest p with
          | (t, p) => (bytesAsText content ++ t, p)
      | .error cause =>
          let reason := (cause.text.takeWhile (· ≠ '(')).dropLast
          readAll program rest (p.refuse 1 (program ++ [':', ' '] ++ name ++ [':', ' '] ++ reason))

/-- The arguments that are no options. -/
def operands (args : List Text) : List Text :=
  (args.filter fun a => a = ['-'] ∨ a.head? ≠ some '-')

/-- One of the arguments is an option with a given letter. -/
def hasLetter (letter : Char) (args : List Text) : Bool :=
  args.any fun a => a.head? = some '-' && a.contains letter

/-- Print files, or the input. -/
def cat : Program := fun args p =>
  let files := if (operands args).isEmpty then [['-']] else operands args
  let (t, p) := readAll "cat" files (p.withStatus 0)
  p.write t

/-- The number that a line begins with, zero if it begins with none. -/
def leadingNumber (line : Text) : Rat :=
  let (negative, t) := match line.dropWhile fun c => c == ' ' || c == '\t' with
    | '-' :: rest => (true, rest)
    | t => (false, t)
  let fraction := match t.dropWhile isDigit with
    | '.' :: rest => rest.takeWhile isDigit
    | _ => []
  let digits := (digitsValue? (t.takeWhile isDigit ++ fraction)).getD 0
  let value := mkRat digits (Nat.pow 10 fraction.length)
  if negative then -value else value

/-- The order of lines: by their bytes, or first by the numbers that they begin with. -/
def lineLe (numeric : Bool) (s t : Text) : Bool :=
  if numeric && leadingNumber s != leadingNumber t then
    decide (leadingNumber s ≤ leadingNumber t)
  else textLe s t

/-- Print the lines of files, or of the input, in order. -/
def sort : Program := fun args p =>
  let files := if (operands args).isEmpty then [['-']] else operands args
  let (t, p) := readAll "sort" files (p.withStatus 0)
  let sorted := ((brokenAfter '\n' t).map fun line =>
    if line.getLast? = some '\n' then line.dropLast else line).mergeSort
      (lineLe (hasLetter 'n' args))
  let distinct := if hasLetter 'u' args then sorted.eraseDups else sorted
  let ordered := if hasLetter 'r' args then distinct.reverse else distinct
  p.write (ordered.flatMap fun line => line ++ ['\n'])

/-- Print the first lines of the input, or its first bytes. -/
def head : Program := fun args p =>
  let first (bytes : Bool) (n : Nat) : Process :=
    let shown := if bytes then p.input.take n else ((brokenAfter '\n' p.input).take n).flatten
    ({ p with input := [] }.write shown).withStatus 0
  let number (t : Text) : Nat := (digitsValue? t).getD 10
  match args with
  | ['-', 'n'] :: n :: _ => first false (number n)
  | ['-', 'c'] :: n :: _ => first true (number n)
  | ('-' :: 'n' :: n) :: _ => first false (number n)
  | ('-' :: 'c' :: n) :: _ => first true (number n)
  | ('-' :: n) :: _ => first false (number n)
  | _ => first false 10

/-- Print how many lines, words and bytes the input has, or only one of these numbers. -/
def countAll : Program := fun args p =>
  let words := (p.input.foldl (fun ((n, inside) : Nat × Bool) c =>
    let blank := c == ' ' || (9 ≤ c.toNat && c.toNat ≤ 13)
    (if blank || inside then n else n + 1, !blank)) (0, false)).1
  let counts := [('l', p.input.count '\n'), ('w', words), ('c', p.input.length)]
  let wanted := counts.filter fun (letter, _) => hasLetter letter args
  let shown := match wanted with
    | [(_, n)] => decimal n
    | [] => joinWith [' '] (counts.map fun (_, n) => inField false ' ' 7 (decimal n))
    | _ => joinWith [' '] (wanted.map fun (_, n) => inField false ' ' 7 (decimal n))
  ({ p with input := [] }.write (shown ++ ['\n'])).withStatus 0

/-- Print the variables. -/
def environ : Program := fun _ p =>
  (p.write (p.environment.flatMap fun (name, value) => name ++ ['='] ++ value ++ ['\n'])).withStatus
    0

/-- Print the current folder. -/
def printFolder : Program := fun _ p =>
  (p.write (bytesAsText (Path.build true p.cwd) ++ ['\n'])).withStatus 0

/-- Print the names in a folder, apart from hidden ones. -/
def listFolder : Program := fun args p =>
  let folder := (operands args).headD ['.']
  match p.files.list p.cwd (Process.path folder) with
  | .ok names =>
      let shown := (names.map fun member => bytesAsText member.1).filter
        fun t => t.head? ≠ some '.'
      let sorted := shown.mergeSort textLe
      (p.write (sorted.flatMap fun t => t ++ ['\n'])).withStatus 0
  | .error _ =>
      p.refuse 2 ("ls: cannot access '".toList ++ folder ++
        "': No such file or directory".toList)

/-- Make folders; with `-p`, also those on the way. -/
def makeFolders : Program := fun args p =>
  (operands args).foldl (fun p name =>
    if hasLetter 'p' args then
      let way := if name.head? = some '/' then [] else p.cwd
      { p with files := p.files.makeFolders (way ++ Path.names (Process.path name)) }
    else match p.files.makeFolder p.cwd (Process.path name) with
      | .ok files => { p with files := files }
      | .error cause =>
          p.refuse 1 ("mkdir: cannot create directory '".toList ++ name ++ "': ".toList ++
            (cause.text.takeWhile (· ≠ '(')).dropLast))
    (p.withStatus 0)

/-- Take files away; with `-r` folders too, with `-f` without complaint about missing ones. -/
def removeFiles : Program := fun args p =>
  (operands args).foldl (fun p name =>
    let complain (reason : String) : Process :=
      p.refuse 1 ("rm: cannot remove '".toList ++ name ++ "': ".toList ++ reason.toList)
    match p.files.walk false p.cwd (Process.path name) with
    | .error _ => if hasLetter 'f' args then p else complain "No such file or directory"
    | .ok way =>
        match p.files.find? way with
        | none => if hasLetter 'f' args then p else complain "No such file or directory"
        | some .folder =>
            if hasLetter 'r' args || hasLetter 'R' args then { p with files := p.files.remove way }
            else complain "Is a directory"
        | some _ => { p with files := p.files.remove way })
    (p.withStatus 0)

/-- Take empty folders away. -/
def removeFolders : Program := fun args p =>
  (operands args).foldl (fun p name =>
    match p.files.walk false p.cwd (Process.path name) with
    | .ok way =>
        if p.files.find? way = some .folder && (p.files.members way).isEmpty then
          { p with files := p.files.remove way }
        else p.refuse 1 ("rmdir: failed to remove '".toList ++ name ++ "'".toList)
    | .error _ => p.refuse 1 ("rmdir: failed to remove '".toList ++ name ++ "'".toList))
    (p.withStatus 0)

/-- Make files that are not there. -/
def touch : Program := fun args p =>
  (operands args).foldl (fun p name =>
    match p.files.write p.cwd (Process.path name) id false with
    | .ok files => { p with files := files }
    | .error _ => p)
    (p.withStatus 0)

/-! ### Conditions -/

/-- The condition that arguments state; `none` if they state none. -/
def condition (p : Process) : List Text → Option Bool
  | [] => some false
  | [t] => some (t ≠ [])
  | ['!'] :: rest => (condition p rest).map not
  | [['-', letter], t] =>
      let entry := (p.files.stat p.cwd (Process.path t)).toOption.map Prod.snd
      match letter with
      | 'n' => some (t ≠ [])
      | 'z' => some (t = [])
      | 'e' | 'r' | 'w' => some entry.isSome
      | 'd' => some (entry = some .folder)
      | 'f' => some (entry.any fun e => e ≠ .folder)
      | 'x' => some (entry.any fun
          | .file _ executable => executable
          | _ => true)
      | 's' => some (entry.any fun
          | .file content _ => !content.isEmpty
          | _ => true)
      | _ => none
  | [a, op, b] =>
      let numbers (f : Int → Int → Bool) : Option Bool :=
        return f (← readInt? a) (← readInt? b)
      match String.ofList op with
      | "=" => some (a = b)
      | "!=" => some (a ≠ b)
      | "-eq" => numbers (· == ·)
      | "-ne" => numbers (· != ·)
      | "-lt" => numbers fun m n => decide (m < n)
      | "-le" => numbers fun m n => decide (m ≤ n)
      | "-gt" => numbers fun m n => decide (n < m)
      | "-ge" => numbers fun m n => decide (n ≤ m)
      | _ => none
  | _ => none

/-- Succeed if a condition holds. -/
def test : Program := fun args p =>
  p.withStatus (match condition p args with
    | some true => 0
    | some false => 1
    | none => 2)

/-- The same with a closing bracket. -/
def bracketTest : Program := fun args p =>
  if args.getLast? = some [']'] then test args.dropLast p else p.refuseInScript 2 "[: missing ]"

/-- The programs by their names, apart from the script language. -/
def programs : List (String × Program) := [
  ("cat", cat), ("sort", sort), ("env", environ), ("echo", echo), ("printf", printf),
  ("true", fun _ p => p.withStatus 0), ("false", fun _ p => p.withStatus 1),
  ("pwd", printFolder), ("mkdir", makeFolders), ("rm", removeFiles), ("rmdir", removeFolders),
  ("touch", touch), ("ls", listFolder), ("head", head), ("wc", countAll),
  ("test", test), ("[", bracketTest), ("sleep", fun _ p => p.withStatus 0)]

/-- The program with a name. -/
def program? (name : Text) : Option Program :=
  (programs.find? fun entry => entry.1.toList = name).map Prod.snd

end CommandShell.Unix
