import CommandShell.Text.Likeness

/-!
# The command line

The program is invoked with switches, some of which take a value.  A value is attached to its
switch or is the next argument, but an argument that looks like a switch is always read as
one, even where a value is missing.  There are no other arguments.

A switch that waits for its value counts only when the next switch or the end of the arguments
is met.  So the errors come in the order in which they are noticed: a value that is missing is
noticed when the next known switch is met, and an argument that nobody knows before that.

## Main definitions

* `Switch` — the switches, with their names, letters and kinds of values.
* `Invocation` — what the program is asked to do.
* `UsageError`, `Halt` — why the arguments come to no session.
* `Reading` — how far the arguments are understood.
* `Invocation.ofArguments` — what the arguments ask for.
-/

namespace CommandShell

/-! ### Switches -/

/-- A switch of the command line. -/
inductive Switch where
  /-- The only line to run. -/
  | command
  /-- The settings file. -/
  | config
  /-- The text of the prompt. -/
  | prompt
  /-- No colour. -/
  | noColor
  /-- Show what there is to know about the command line. -/
  | help
  /-- Show the version. -/
  | version
  deriving DecidableEq, Repr

namespace Switch

/-- All switches, in the order in which they are listed. -/
def all : List Switch := [command, config, prompt, noColor, help, version]

/-- The name of a switch, without the two dashes. -/
def name : Switch → Text
  | command => "command"
  | config => "config"
  | prompt => "prompt"
  | noColor => "no-color"
  | help => "help"
  | version => "version"

/-- The letter that stands for a switch, if there is one. -/
def letter? : Switch → Option Char
  | command => some 'c'
  | help => some 'h'
  | version => some 'V'
  | config | prompt | noColor => none

/-- What the value of a switch is called, if it takes one. -/
def valueName? : Switch → Option Text
  | command => some "LINE"
  | config => some "PATH"
  | prompt => some "PROMPT"
  | noColor | help | version => none

/-- The switch takes a value. -/
def takesValue (s : Switch) : Bool := s.valueName?.isSome

/-- A switch as it is shown: its name, and what its value is called. -/
def shown (s : Switch) : Text :=
  "--".toList ++ s.name ++ match s.valueName? with
    | some value => " <".toList ++ value ++ ['>']
    | none => []

/-- The switch of a name. -/
def ofName? (name : Text) : Option Switch := all.find? fun s => s.name = name

/-- The switch of a letter. -/
def ofLetter? (c : Char) : Option Switch := all.find? fun s => s.letter? = some c

/-- The switch that was probably meant. -/
def meant? (name : Text) : Option Switch := mostAlike? Switch.name name all

end Switch

/-! ### Invocations -/

/-- What the program is asked to do. -/
structure Invocation where
  /-- The only line to run, instead of a script. -/
  command : Option Text
  /-- The settings file. -/
  config : Option Text
  /-- The text of the prompt. -/
  prompt : Option Text
  /-- No colour. -/
  noColor : Bool
  deriving DecidableEq, Repr

/-- What has been set makes an invocation. -/
def Invocation.ofSet (set : List (Switch × Text)) : Invocation where
  command := set.lookup .command
  config := set.lookup .config
  prompt := set.lookup .prompt
  noColor := (set.lookup .noColor).isSome

/-- Why the command line cannot be understood. -/
inductive UsageError where
  /-- An argument that nobody knows, the switch that was probably meant, and the switches in
  use before it. -/
  | unexpected (argument : Text) (meant : Option Switch) (inUse : List Switch)
  /-- A switch lacks its value. -/
  | valueMissing (s : Switch)
  /-- A switch is given twice. -/
  | repeated (s : Switch)
  /-- A switch has a value that it does not take; and the switches in use before it. -/
  | valueUnwanted (s : Switch) (value : Text) (inUse : List Switch)
  deriving DecidableEq, Repr

/-- Why there is no session. -/
inductive Halt where
  /-- The help text is asked for. -/
  | help
  /-- The version is asked for, in full or in brief. -/
  | version (full : Bool)
  /-- The command line cannot be understood. -/
  | misuse (e : UsageError)
  deriving DecidableEq, Repr

/-! ### Reading the arguments -/

/-- How far the arguments are understood. -/
structure Reading where
  /-- What has been set, with an empty value for a switch that takes none. -/
  set : List (Switch × Text)
  /-- The last switch if it takes a value that is not attached to it, and the value once it
  has been met. -/
  waiting : Option (Switch × Option Text)
  deriving DecidableEq, Repr

namespace Reading

/-- Nothing has been read. -/
def nothing : Reading := ⟨[], none⟩

/-- Set a switch, which must not have been set before.  A settings file has a name. -/
def give (r : Reading) (s : Switch) (value : Text) : Except Halt Reading :=
  if (r.set.lookup s).isSome then .error (.misuse (.repeated s))
  else if s = .config ∧ value = [] then .error (.misuse (.valueMissing s))
  else .ok { r with set := r.set ++ [(s, value)] }

/-- Set the switch that waits. -/
def settle (r : Reading) : Except Halt Reading :=
  match r.waiting with
  | none => .ok r
  | some (s, none) => .error (.misuse (.valueMissing s))
  | some (s, some value) => { r with waiting := none }.give s value

/-- The switches that have been set, in order. -/
def settled (r : Reading) : List Switch := r.set.map Prod.fst

/-- The switches that are set once the last one has its value; given twice, it is in use no
more. -/
def inUse (r : Reading) : List Switch :=
  match r.waiting with
  | some (s, some _) => if r.settled.contains s then r.settled.erase s else r.settled ++ [s]
  | _ => r.settled

/-- Meet a switch, by its name or its letter, with the value that is attached to it. -/
def meet (r : Reading) (s : Switch) (byName : Bool) (attached : Option Text) :
    Except Halt Reading :=
  match s.takesValue, attached with
  | true, none => do return { ← r.settle with waiting := some (s, none) }
  | true, some value => do (← r.settle).give s value
  | false, some value => .error (.misuse (.valueUnwanted s value r.settled))
  | false, none => do
      let r ← r.settle
      match s with
      | .help => .error .help
      | .version => .error (.version byName)
      | s => r.give s []

/-- Meet two dashes and more: a name, and after an equals sign a value. -/
def meetName (r : Reading) (text : Text) : Except Halt Reading :=
  let (name, attached) := match cutAt '=' text with
    | some (name, value) => (name, some value)
    | none => (text, none)
  match Switch.ofName? name with
  | some s => r.meet s true attached
  | none => .error (.misuse (.unexpected ("--".toList ++ name) (Switch.meant? name) r.inUse))

/-- Meet a dash and a letter: for a switch that takes a value the rest is that value, with or
without an equals sign. -/
def meetLetter (r : Reading) (c : Char) (rest : Text) : Except Halt Reading :=
  match Switch.ofLetter? c with
  | none => .error (.misuse (.unexpected ['-', c] none []))
  | some s =>
      r.meet s false <| if s.takesValue then
        match rest with
        | [] => none
        | '=' :: value => some value
        | value => some value
      else none

/-- Meet an argument before two bare dashes. -/
def take (r : Reading) : Text → Except Halt Reading
  | '-' :: '-' :: text => r.meetName text
  | '-' :: c :: rest => r.meetLetter c rest
  | argument =>
      match r.waiting with
      | some (s, none) => .ok { r with waiting := some (s, some argument) }
      | _ => .error (.misuse (.unexpected argument none []))

/-- Read all arguments.  After two bare dashes an argument is never a switch or a value, so
there is none. -/
def takeAll (r : Reading) : List Text → Except Halt Reading
  | [] => r.settle
  | ['-', '-'] :: [] => r.settle
  | ['-', '-'] :: argument :: _ => .error (.misuse (.unexpected argument none []))
  | argument :: rest => do (← r.take argument).takeAll rest

end Reading

/-- What the arguments ask for. -/
def Invocation.ofArguments (args : List Text) : Except Halt Invocation := do
  return .ofSet (← Reading.nothing.takeAll args).set

end CommandShell
