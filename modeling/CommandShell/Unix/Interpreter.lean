import CommandShell.Unix.Programs
import CommandShell.Unix.Statement

/-!
# Running shell scripts

A script runs in a process of the modelled host.  The fuel bounds the depth of statements,
substitutions and programs within each other, and the rounds of loops.

## Main definitions

* `Fields` — the fields that a word expands to, under construction.
* `searchPath` — where a program is.
* `beginScript`, `scriptEnvironment` — the variables of a script.
* `expandWord`, `runStatement`, `runScript`, `runShell`, `runEntry` — the interpreter.
-/

namespace CommandShell.Unix

/-! ### Fields -/

/-- The fields that words expand to. -/
structure Fields where
  /-- The finished fields. -/
  done : List Text
  /-- The current field, once it has begun. -/
  current : Option Text

namespace Fields

/-- Nothing has been expanded. -/
def none : Fields := ⟨[], .none⟩

/-- More text for the current field. -/
def add (f : Fields) (t : Text) : Fields := { f with current := some (f.current.getD [] ++ t) }

/-- The current field ends. -/
def cut (f : Fields) : Fields := ⟨f.done ++ f.current.toList, .none⟩

/-- A text whose blanks separate fields. -/
def addSplit (f : Fields) (t : Text) : Fields :=
  t.foldl (fun f c => if c = ' ' ∨ c = '\t' ∨ c = '\n' then f.cut else f.add [c]) f

/-- Several fields, of which the first and the last may be joined to others. -/
def addMany (f : Fields) : List Text → Fields
  | [] => f
  | [t] => f.add t
  | t :: rest => (f.add t).cut.addMany rest

end Fields

/-! ### Parameters and programs -/

/-- The number of the process, as far as scripts can tell. -/
def processNumber : Text := "4242"

/-- The value of a parameter of a script. -/
def parameter (p : Process) (name : Text) : Text :=
  match name with
  | ['#'] => decimal p.args.length
  | ['*'] | ['@'] => joinWith [' '] p.args
  | ['?'] => decimal p.status
  | ['$'] => processNumber
  | ['0'] => p.name
  | '#' :: rest => decimal (p.value rest).length
  | _ =>
      match digitsValue? name with
      | some n => p.args.getD (n - 1) []
      | none =>
          let value := p.vars.get? (name.takeWhile isNameChar)
          let nonempty := value.filter (· ≠ [])
          match name.dropWhile isNameChar with
          | ':' :: '-' :: other => nonempty.getD other
          | '-' :: other => value.getD other
          | ':' :: '+' :: other => if nonempty.isSome then other else []
          | '+' :: other => if value.isSome then other else []
          | _ => value.getD []

/-- The signals by their names. -/
def signals : List (String × Nat) := [
  ("HUP", 1), ("INT", 2), ("QUIT", 3), ("ABRT", 6), ("KILL", 9), ("USR1", 10), ("SEGV", 11),
  ("USR2", 12), ("PIPE", 13), ("ALRM", 14), ("TERM", 15)]

/-- The signal that an argument names by its number or name. -/
def signal? (t : Text) : Option Nat :=
  match digitsValue? t with
  | some n => some n
  | none =>
      let name := if "SIG".toList.isPrefixOf t then t.drop 3 else t
      (signals.find? fun entry => entry.1.toList = name).map Prod.snd

/-- Send a signal to the process itself. -/
def kill (args : List Text) (p : Process) : Process :=
  let (signal, targets) := match args with
    | ['-', 's'] :: name :: rest => (signal? name, rest)
    | ('-' :: name) :: rest => (signal? name, rest)
    | rest => (some 15, rest)
  match signal, targets with
  | some 0, _ => p.withStatus 0
  | some n, [target] =>
      if target = processNumber then { p with ending := some (.signalled n) }
      else p.refuse 1 "kill: No such process"
  | _, _ => p.refuse 2 "kill: usage"

/-- The folders in which a script looks for programs if nothing else is said. -/
def usualFolders : Text := "/usr/local/sbin:/usr/local/bin:/usr/sbin:/usr/bin:/sbin:/bin"

/-- The place of a program: the name itself if it has a slash, else the first folder that has
it. -/
def searchPath (p : Process) (name : Text) : Option Entry :=
  let at_ (path : Text) : Option Entry :=
    match p.files.stat p.cwd (Process.path path) with
    | .ok (_, .program n) => some (.program n)
    | .ok (_, .file content true) => some (.file content true)
    | _ => none
  if name.contains '/' then at_ name
  else
    (((p.vars.get? "PATH").getD usualFolders).splitOn ':').findSome? fun folder =>
      at_ (if folder = [] then name else folder ++ '/' :: name)

/-- A process that begins to run a script: it knows its folder, and where programs are. -/
def beginScript (p : Process) : Process :=
  let vars := p.vars.insert "PWD" (bytesAsText (Path.build true p.cwd))
  { p with
    vars := if (vars.get? "PATH").isSome then vars else vars.insert "PATH" usualFolders
    exported := p.exported ++ ["PWD".toList] }

/-- The variables as a program changes them that runs another one with different variables, and
the name and arguments of that other one. -/
def changedVariables : List Text → Dictionary Text → Dictionary Text × List Text
  | ['-', 'i'] :: rest, _ => changedVariables rest .empty
  | ['-', 'u'] :: name :: rest, vars =>
      changedVariables rest ⟨vars.entries.filter fun e => e.1 ≠ name⟩
  | arg :: rest, vars =>
      match cutAt '=' arg with
      | some (name, value) => changedVariables rest (vars.insert name value)
      | none => (vars, arg :: rest)
  | [], vars => (vars, [])

/-- The row of a variable among the 39 rows in which a script keeps them. -/
def variableRow (name : Text) : Nat :=
  ((name.headD (Char.ofNat 0)).toNat * 16 + name.foldl (fun n c => n + c.toNat) 0) % 39

/-- The variables that a script gives to the programs it starts, row by row. -/
def scriptEnvironment (p : Process) : Dictionary Text :=
  ⟨p.environment.mergeSort fun v w => variableRow v.1 ≤ variableRow w.1⟩

/-- The programs that the script language has built in. -/
def builtinPrograms : List String := ["echo", "printf", "true", "false", "pwd", "test", "["]

/-- The interpreter that a script names in its first line, if any. -/
def interpreterOf (content : Text) : Option (List Text) :=
  match content with
  | '#' :: '!' :: rest =>
      some (((rest.takeWhile (· ≠ '\n')).splitOn ' ').filter (· ≠ []))
  | _ => none

/-! ### Reading a line -/

/-- A line of input as variables receive it: a backslash hides the character behind it. -/
def unhide : Text → Text
  | '\\' :: c :: rest => c :: unhide rest
  | ['\\'] => []
  | c :: rest => c :: unhide rest
  | [] => []

/-- A line given to variables: each takes a word, the last all that is left. -/
def distribute : List Text → Text → List (Text × Text)
  | [], _ => []
  | [name], t =>
      [(name, ((t.dropWhile isGap).reverse.dropWhile isGap).reverse)]
  | name :: rest, t =>
      let t := t.dropWhile isGap
      (name, t.takeWhile fun c => !isGap c) :: distribute rest (t.dropWhile fun c => !isGap c)

/-- Set a variable. -/
def setVariable (p : Process) (name value : Text) : Process :=
  { p with vars := p.vars.insert name value }

/-- Read a line of input into variables. -/
def readLineInto (args : List Text) (p : Process) : Process :=
  let raw := hasLetter 'r' args
  let (line, rest) := takeLine '\n' p.input
  let ended := line.getLast? = some '\n'
  let body := if ended then line.dropLast else line
  let names := operands args
  let p := (distribute names (if raw then body else unhide body)).foldl
    (fun p (name, value) => setVariable p name value) { p with input := rest }
  p.withStatus (if ended then 0 else 1)

/-- Go to another folder. -/
def changeFolder (args : List Text) (p : Process) : Process :=
  let target := args.headD (p.value "HOME")
  match p.files.stat p.cwd (Process.path target) with
  | .ok (way, .folder) =>
      setVariable { p with cwd := way, status := 0 } "PWD" (bytesAsText (Path.build true way))
  | _ => p.refuseInScript 2 ("cd: can't cd to ".toList ++ target)

/-- Let programs be given variables. -/
def exportVariables (args : List Text) (p : Process) : Process :=
  args.foldl (fun p arg =>
    match cutAt '=' arg with
    | some (name, value) => { setVariable p name value with exported := name :: p.exported }
    | none => { p with exported := arg :: p.exported }) (p.withStatus 0)

/-- End the process with a given status, or with that of its last command. -/
def leave (args : List Text) (p : Process) : Process :=
  match args with
  | [] => p.exit p.status
  | t :: _ =>
      match digitsValue? t with
      | some n => p.exit n
      | none => (p.refuseInScript 2 ("exit: Illegal number: ".toList ++ t)).exit 2

/-- The commands of the script language that work on its own process. -/
def ownCommand? (name : Text) : Option (List Text → Process → Process) :=
  match String.ofList name with
  | ":" => some fun _ p => p.withStatus 0
  | "exit" => some leave
  | "cd" => some changeFolder
  | "export" => some exportVariables
  | "unset" => some fun args p =>
      { p with vars := ⟨p.vars.entries.filter fun e => !args.contains e.1⟩, status := 0 }
  | "shift" => some fun args p =>
      { p with args := p.args.drop ((args.head?.bind digitsValue?).getD 1), status := 0 }
  | "set" => some fun args p => { p with args := args.dropWhile (· = ['-', '-']), status := 0 }
  | "read" => some readLineInto
  | "kill" => some kill
  | _ => none

/-! ### The interpreter -/

/-- The name and the value of a word that is an assignment. -/
def assignmentOf? : ScriptWord → Option (Text × ScriptWord)
  | .plain t :: rest =>
      match cutAt '=' t with
      | some (name, value) =>
          if isIdentifier name then some (name, .plain value :: rest) else none
      | none => none
  | _ => none

/-- The leading assignments of a command, and its other words. -/
def leadingAssignments : List ScriptWord → List (Text × ScriptWord) × List ScriptWord
  | w :: rest =>
      match assignmentOf? w with
      | some assignment =>
          match leadingAssignments rest with
          | (assignments, words) => (assignment :: assignments, words)
      | none => ([], w :: rest)
  | [] => ([], [])

/-- What a statement that ran in a copy of a process leaves for the process: files, streams and
a status, and an end by a signal. -/
def rejoin (p child : Process) : Process :=
  { p with
    files := child.files
    input := child.input
    buffers := child.buffers
    status := match child.ending with
      | some (.signalled n) => 128 + n
      | _ => child.status }

/-- A signal ends the process as well as its copy. -/
def rejoinSignal (p child : Process) : Process :=
  match child.ending with
  | some (.signalled n) => { rejoin p child with ending := some (.signalled n) }
  | _ => rejoin p child

/-- A process with its output kept in a new buffer. -/
def capturing (p : Process) : Process :=
  { p with buffers := p.buffers ++ [[]], output := .buffer p.buffers.length }

/-- What a copy with a buffer of its own has written there, and the process after it. -/
def captured (p child : Process) : Text × Process :=
  (child.buffers.getD p.buffers.length [],
    rejoinSignal p { child with buffers := child.buffers.take p.buffers.length })

/-- Lead a stream to a file or to where another stream leads. -/
def redirect (r : Redirection) (target : Text) (p : Process) : Except Text Process :=
  let lead (t : Target) : Process :=
    if r.stream = 2 then { p with error := t } else { p with output := t }
  let cannot (what reason : String) : Except Text Process :=
    .error ("cannot ".toList ++ what.toList ++ [' '] ++ target ++ [':', ' '] ++ reason.toList)
  if r.kind = ['>', '&'] then
    .ok (lead (if target = ['2'] then p.error else p.output))
  else if r.kind = ['<', '&'] then .ok p
  else if target = "/dev/null".toList then
    .ok (if r.kind = ['<'] then { p with input := [] } else lead .nowhere)
  else if r.kind = ['<'] then
    match p.files.read p.cwd (Process.path target) with
    | .ok content => .ok { p with input := bytesAsText content }
    | .error _ => cannot "open" "No such file"
  else
    match p.files.write p.cwd (Process.path target)
        (if r.kind = ['>', '>'] then id else fun _ => []) false,
      p.files.walk true p.cwd (Process.path target) with
    | .ok files, .ok way => .ok { lead (.file way) with files := files }
    | .error .isFolder, _ => cannot "create" "Is a directory"
    | _, _ => cannot "create" "Directory nonexistent"

mutual

/-- The fields that a word expands to, after those so far. -/
def expandWord : Nat → ScriptWord → Fields → Process → Fields × Process
  | 0, _, f, p => (f, p)
  | _, [], f, p => (f, p)
  | fuel + 1, part :: rest, f, p =>
      match part with
      | .plain t | .quoted t => expandWord fuel rest (f.add t) p
      | .value ['@'] true => expandWord fuel rest (f.addMany p.args) p
      | .value name true => expandWord fuel rest (f.add (parameter p name)) p
      | .value name false => expandWord fuel rest (f.addSplit (parameter p name)) p
      | .output script inQuotes =>
          let (written, p) := captured p (runText fuel script (capturing p))
          let value := (written.reverse.dropWhile (· = '\n')).reverse
          expandWord fuel rest (if inQuotes then f.add value else f.addSplit value) p

/-- The fields that words expand to. -/
def expandWords : Nat → List ScriptWord → Process → List Text × Process
  | 0, _, p => ([], p)
  | _, [], p => ([], p)
  | fuel + 1, w :: rest, p =>
      let w := if w = [.quoted [], .value ['@'] true] then [.value ['@'] true] else w
      let (f, p) := expandWord fuel w .none p
      let (more, p) := expandWords fuel rest p
      (f.cut.done ++ more, p)

/-- The text that a word expands to where it cannot be split. -/
def expandWhole : Nat → ScriptWord → Process → Text × Process
  | 0, _, p => ([], p)
  | fuel + 1, w, p =>
      let (f, p) := expandWord fuel (w.map fun
        | .value name _ => .value (if name = ['@'] then ['*'] else name) true
        | .output script _ => .output script true
        | part => part) .none p
      (f.cut.done.flatten, p)

/-- Perform assignments. -/
def assignAll : Nat → List (Text × ScriptWord) → Process → Process
  | 0, _, p => p
  | _, [], p => p
  | fuel + 1, (name, w) :: rest, p =>
      let (value, p) := expandWhole fuel w p
      assignAll fuel rest (setVariable p name value)

/-- Perform redirections. -/
def redirectAll : Nat → List Redirection → Process → Except Text Process
  | 0, _, p => .ok p
  | _, [], p => .ok p
  | fuel + 1, r :: rest, p =>
      let (target, p) := expandWhole fuel r.target p
      match redirect r target p with
      | .ok p => redirectAll fuel rest p
      | .error message => .error message

/-- Run something with redirections in force. -/
def withRedirections : Nat → List Redirection → (Process → Process) → Process → Process
  | fuel, redirections, run, p =>
      match redirectAll fuel redirections p with
      | .error message => p.refuseInScript 2 message
      | .ok q =>
          let q' := run q
          { q' with
            output := p.output
            error := p.error
            input := if redirections.any (·.stream = 0) then p.input else q'.input }

/-- Run a command by its name. -/
def runNamed : Nat → Text → List Text → Process → Process
  | 0, _, _, p => p
  | fuel + 1, name, args, p =>
      match String.ofList name, args with
      | "eval", _ => runText fuel (joinWith [' '] args) p
      | "exec", next :: rest =>
          let q := runNamed fuel next rest p
          if q.ending.isSome then q else q.exit q.status
      | _, _ =>
          match ownCommand? name with
          | some run => run args p
          | none =>
              if builtinPrograms.any fun b => b.toList = name then
                ((program? name).getD fun _ p => p) args p
              else match searchPath p name with
                | some entry =>
                    let child := { p with
                      name := name, args := args, status := 0,
                      vars := scriptEnvironment p }
                    rejoin p (runEntry fuel entry name args child)
                | none => p.refuseInScript 127 (name ++ ": not found".toList)

/-- Run a statement. -/
def runStatement : Nat → Statement → Process → Process
  | 0, _, p => p
  | fuel + 1, statement, p =>
      if p.ending.isSome then p
      else match statement with
        | .nothing => p
        | .simple words redirections =>
            let (assignments, words) := leadingAssignments words
            let (fields, p) := expandWords fuel words p
            match fields with
            | [] =>
                withRedirections fuel redirections (assignAll fuel assignments)
                  (p.withStatus (if words.isEmpty then 0 else p.status))
            | name :: args =>
                let q := withRedirections fuel redirections (fun p =>
                  let inner := assignAll fuel assignments p
                  let inner := { inner with exported := assignments.map Prod.fst ++ p.exported }
                  runNamed fuel name args inner) p
                if assignments.isEmpty then q
                else { q with vars := p.vars, exported := p.exported }
        | .seq first second => runStatement fuel second (runStatement fuel first p)
        | .both first second =>
            let q := runStatement fuel first p
            if q.status = 0 then runStatement fuel second q else q
        | .either first second =>
            let q := runStatement fuel first p
            if q.status = 0 then q else runStatement fuel second q
        | .negated inner =>
            let q := runStatement fuel inner p
            q.withStatus (if q.status = 0 then 1 else 0)
        | .pipe first second =>
            let (written, q) := captured p (runStatement fuel first (capturing p))
            rejoinSignal q (runStatement fuel second { q with input := written })
        | .branch condition yes no =>
            let q := runStatement fuel condition p
            if q.status = 0 then runStatement fuel yes q
            else runStatement fuel no (q.withStatus 0)
        | .loop condition body isUntil =>
            let q := runStatement fuel condition p
            if (q.status = 0) = !isUntil then
              runStatement fuel (.loop condition body isUntil) (runStatement fuel body q)
            else q.withStatus 0
        | .each name words body =>
            let (fields, p) := expandWords fuel words p
            fields.foldl (fun p field => runStatement fuel body (setVariable p name field))
              (p.withStatus 0)
        | .group inner redirections =>
            withRedirections fuel redirections (runStatement fuel inner) p
        | .inside inner redirections =>
            withRedirections fuel redirections
              (fun p => rejoinSignal p (runStatement fuel inner p)) p

/-- Run a script. -/
def runText : Nat → Text → Process → Process
  | 0, _, p => p
  | fuel + 1, script, p =>
      match readScript script with
      | some statement => runStatement fuel statement p
      | none =>
          (p.refuseInScript 2 (if (scriptTokens script).isNone then
              "Syntax error: Unterminated quoted string"
            else "Syntax error: end of file unexpected")).exit 2

/-- Run the script language as a program. -/
def runShell : Nat → List Text → Process → Process
  | 0, _, p => p
  | fuel + 1, args, p =>
      let p := beginScript p
      match args with
      | ['-', 'c'] :: script :: rest =>
          match rest with
          | [] => runText fuel script { p with args := [] }
          | name :: args => runText fuel script { p with name := name, args := args }
      | ['-', 'c'] :: [] => p.refuse 2 "sh: 0: -c requires an argument"
      | file :: rest =>
          match p.files.read p.cwd (Process.path file) with
          | .ok content => runText fuel (bytesAsText content) { p with name := file, args := rest }
          | .error _ =>
              p.refuse 2 ("sh: 0: cannot open ".toList ++ file ++ ": No such file".toList)
      | [] => runText fuel p.input { p with args := [], input := [] }

/-- Run what is found under the name of a program. -/
def runEntry : Nat → Entry → Text → List Text → Process → Process
  | 0, _, _, _, p => p
  | fuel + 1, entry, name, args, p =>
      match entry with
      | .program n =>
          if n = "sh".toList then runShell fuel args p
          else if n = "env".toList then
            let (vars, rest) := changedVariables args ⟨p.environment⟩
            let q := { p with vars := vars, exported := vars.keys }
            match rest with
            | [] => environ [] q
            | name :: args =>
                match searchPath q name with
                | some entry => runEntry fuel entry name args { q with name := name, args := args }
                | none =>
                    q.refuse 127 ("env: '".toList ++ name ++
                      "': No such file or directory".toList)
          else ((program? n).getD fun _ p => p.withStatus 0) args p
      | .file content _ =>
          match interpreterOf (bytesAsText content) with
          | some (_ :: option) => runShell fuel (option ++ name :: args) p
          | _ => runShell fuel (name :: args) p
      | _ => p.withStatus 126

end

end CommandShell.Unix
