import CommandShell.External

/-!
# Processes

A process of the modelled host has arguments, variables, a folder and streams.  Bytes are
characters below 256 here, so that texts of the program language can be compared with them.

## Main definitions

* `bytesAsText`, `textAsBytes` — the two views of bytes.
* `Target`, `Process` — where a stream leads, and the state of a process.
* `Process.write`, `Process.writeError` — writing.
* `Program` — what a program does to its process.
-/

namespace CommandShell.Unix

/-- Bytes as characters below 256. -/
def bytesAsText (b : Bytes) : Text := b.map fun x => Char.ofNat x.toNat

/-- Characters below 256 as bytes. -/
def textAsBytes (t : Text) : Bytes := t.map fun c => c.toNat.toUInt8

/-- The bytes of a text, as characters below 256. -/
def narrow (t : Text) : Text := bytesAsText (Utf8.encode t)

/-- Where a stream of output leads. -/
inductive Target where
  /-- To one of the buffers of a process. -/
  | buffer (n : Nat)
  /-- To the end of a file. -/
  | file (way : Way)
  /-- Nowhere. -/
  | nowhere
  deriving DecidableEq, Repr

/-- The state of a process. -/
structure Process where
  /-- The name that it was started under. -/
  name : Text
  /-- Its arguments. -/
  args : List Text
  /-- Its variables. -/
  vars : Dictionary Text
  /-- The names of the variables that programs it starts are given. -/
  exported : List Text
  /-- The folder that it is in. -/
  cwd : Way
  /-- The files. -/
  files : FileTree
  /-- What is left of its input. -/
  input : Text
  /-- What has been written. -/
  buffers : List Text
  /-- Where its output leads. -/
  output : Target
  /-- Where its error stream leads. -/
  error : Target
  /-- The status of its last command. -/
  status : Nat
  /-- How it has ended, once it has. -/
  ending : Option Ending

namespace Process

/-- Write to a target. -/
def writeTo (p : Process) (target : Target) (t : Text) : Process :=
  match target with
  | .nowhere => p
  | .buffer n => { p with buffers := p.buffers.modify n (· ++ t) }
  | .file way =>
      match p.files.find? way with
      | some (.file content executable) =>
          { p with files := p.files.put way (.file (content ++ textAsBytes t) executable) }
      | _ => p

/-- Write to the output. -/
def write (p : Process) (t : Text) : Process := p.writeTo p.output t

/-- Write to the error stream. -/
def writeError (p : Process) (t : Text) : Process := p.writeTo p.error t

/-- Set the status. -/
def withStatus (p : Process) (n : Nat) : Process := { p with status := n }

/-- Complain and fail with a status. -/
def refuse (p : Process) (n : Nat) (message : Text) : Process :=
  (p.writeError (message ++ ['\n'])).withStatus n

/-- Complain in the name of a script, and fail with a status. -/
def refuseInScript (p : Process) (n : Nat) (message : Text) : Process :=
  p.refuse n (p.name ++ ": 1: ".toList ++ message)

/-- The process is to end with a status. -/
def exit (p : Process) (n : Nat) : Process :=
  { p with status := n % 256, ending := some (.exited (n % 256).toUInt8) }

/-- A text as part of a path. -/
def path (t : Text) : Path := textAsBytes t

/-- The value of a variable. -/
def value (p : Process) (name : Text) : Text := (p.vars.get? name).getD []

/-- The variables that programs are given. -/
def environment (p : Process) : List (Text × Text) :=
  p.vars.entries.filter fun (name, _) => p.exported.contains name

end Process

/-- What a program does to its process. -/
abbrev Program := List Text → Process → Process

end CommandShell.Unix
