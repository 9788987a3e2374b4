import CommandShell.Unix.Interpreter

/-!
# Starting programs

A program is looked for as the operating system does it: a name with a slash is a path, any
other name is looked for in the folders of the variable `PATH`.  What is found must be a
program of the host or a file that may be executed.

## Main definitions

* `executable` — what is found at a path.
* `locate` — what is found under a name.
* `start`, `host` — the programs of the modelled host, started in either way, and as the shell
  does it.
* `standardFiles` — the files of a host on which nothing has been made.
-/

namespace CommandShell.Unix

/-- What can be executed at a path: a program, or a file with its interpreter or without. -/
def executable (files : FileTree) (cwd : Way) (p : Path) : Except Cause Entry := do
  match ← files.stat cwd p with
  | (_, .program n) => .ok (.program n)
  | (_, .file content true) =>
      match interpreterOf (bytesAsText content) with
      | some (interpreter :: _) =>
          match files.stat cwd (Process.path interpreter) with
          | .ok (_, .program _) => .ok (.file content true)
          | .ok _ => .error .notPermitted
          | .error cause => .error cause
      | _ => .error .notProgram
  | _ => .error .notPermitted

/-- What is found in the first of several folders that has a program of a name.  A file that
may not be executed is remembered in case nothing better is found; a file without interpreter
is a script if that is allowed. -/
def locateIn (bareScripts : Bool) (files : FileTree) (cwd : Way) (name : Bytes) :
    Option Cause → Cause → List Bytes → Except Cause (Path × Entry)
  | denied, last, [] => .error (denied.getD last)
  | denied, last, folder :: rest =>
      let path := if folder = [] then name else folder ++ Path.slash :: name
      match executable files cwd path with
      | .ok entry => .ok (path, entry)
      | .error .notPermitted => locateIn bareScripts files cwd name (some .notPermitted) last rest
      | .error .notFound => locateIn bareScripts files cwd name denied .notFound rest
      | .error .notFolder => locateIn bareScripts files cwd name denied .notFolder rest
      | .error .notProgram =>
          if bareScripts then (files.stat cwd path).map fun (_, entry) => (path, entry)
          else .error .notProgram
      | .error cause => .error cause

/-- What is found under the name of a program, and its path. -/
def locate (bareScripts : Bool) (files : FileTree) (cwd : Way) (path : Option Text)
    (name : Text) : Except Cause (Path × Entry) :=
  let bytes := Utf8.encode name
  if bytes = [] then .error .notFound
  else if bytes.contains Path.slash then
    (executable files cwd bytes).map fun entry => (bytes, entry)
  else if FileTree.nameLimit < bytes.length then .error .nameTooLong
  else locateIn bareScripts files cwd bytes none .notFound
    ((Utf8.encode (path.getD "/bin:/usr/bin")).splitOn 0x3A)

/-- A text contains a zero byte. -/
def hasZero (t : Text) : Bool := t.contains (Char.ofNat 0)

/-- A bound on the depth and the rounds of scripts. -/
def scriptFuel : Nat := 20000

/-- The programs of the modelled host, with or without scripts that name no interpreter. -/
def start (bareScripts : Bool) : Host := fun request files =>
  if hasZero request.program || request.args.any hasZero || request.cwd.contains 0 ||
      request.vars.any fun (name, value) => hasZero name || hasZero value then
    (.failed .zeroInArgument, files)
  else
    match files.stat [] request.cwd with
    | .error cause => (.failed cause, files)
    | .ok (cwd, .folder) =>
        let vars := (request.vars.mergeSort fun v w => textLe v.1 w.1).map
          fun (name, value) => (narrow name, narrow value)
        match locate bareScripts files cwd (request.vars.lookup "PATH".toList)
            request.program with
        | .error cause => (.failed cause, files)
        | .ok (path, entry) =>
            let name := match entry with
              | .program _ => narrow request.program
              | _ => bytesAsText path
            let args := request.args.map narrow
            let p := runEntry scriptFuel entry name args {
              name := name
              args := args
              vars := .ofList vars
              exported := vars.map Prod.fst
              cwd := cwd
              files := files
              input := bytesAsText request.input
              buffers := [[], []]
              output := .buffer 0
              error := .buffer 1
              status := 0
              ending := none }
            (.ran (textAsBytes (p.buffers.getD 0 [])) (textAsBytes (p.buffers.getD 1 []))
              (p.ending.getD (.exited (p.status % 256).toUInt8)), p.files)
    | .ok _ => (.failed .notFolder, files)

/-- The programs of the modelled host, as the shell starts them. -/
def host : Host := start true

/-- The files of a host on which nothing has been made. -/
def standardFiles : FileTree :=
  let folders := ["bin", "usr", "usr/bin", "tmp", "dev", "etc", "home", "root", "var", "opt",
    "proc", "sbin", "usr/sbin", "usr/local", "usr/local/bin", "usr/lib", "lib"]
  let made := folders.foldl (fun t folder => t.makeFolders (Path.names (Utf8.encode folder.toList)))
    FileTree.empty
  let names := "sh".toList :: programs.map fun entry => entry.1.toList
  let binary (folder : String) (t : FileTree) : FileTree :=
    names.foldl (fun t name =>
      t.put (Path.names (Utf8.encode folder.toList) ++ [Utf8.encode name]) (.program name)) t
  (binary "usr/bin" (binary "bin" made)).put (Path.names (Utf8.encode "dev/null".toList))
    (.file [] false)

end CommandShell.Unix
