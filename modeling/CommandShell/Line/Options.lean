import CommandShell.Dictionary
import CommandShell.Text.Decimal

/-!
# Options

The words after a command's name are split into options and positional arguments.  A word
`--key` or `--key=value` is a long option, a word like `-abc` or `-abc=value` a group of
one-letter options, of which the last takes the value.  `--` ends the options.  A lone `-`, a
word such as `-5` and a word with an empty key are positional.

## Main definitions

* `Options` — the values that were given for each option.
* `WordRole`, `wordRole` — what a word before `--` is.
* `splitOptions` — the positional arguments and the options of a row of words.
-/

namespace CommandShell

/-- The options of a command: each name with the values given for it, none for a bare flag. -/
abbrev Options := Dictionary (List Text)

namespace Options

/-- Note that an option occurs, without a value. -/
def addFlag (o : Options) (key : Text) : Options := o.update key fun old => old.getD []

/-- Note a value for an option. -/
def addValue (o : Options) (key value : Text) : Options :=
  o.update key fun old => old.getD [] ++ [value]

/-- Options without values. -/
def ofFlags (keys : List Text) : Options := keys.foldl addFlag .empty

/-- The option was given. -/
def has (o : Options) (key : Text) : Bool := (o.get? key).isSome

/-- The first value that was given for an option. -/
def first? (o : Options) (key : Text) : Option Text := (o.get? key).bind List.head?

end Options

/-- What a word before `--` contributes. -/
inductive WordRole where
  /-- A positional argument. -/
  | positional
  /-- One long option, perhaps with a value. -/
  | long (key : Text) (value : Option Text)
  /-- One-letter options, the last of them perhaps with a value. -/
  | group (letters : Text) (value : Option Text)
  deriving DecidableEq, Repr

/-- A key with the value after its first `=`, if there is one. -/
def keyAndValue (body : Text) : Text × Option Text :=
  match cutAt '=' body with
  | none => (body, none)
  | some (key, value) => (key, some value)

/-- The role of a word other than `--` before the end of the options. -/
def wordRole : Text → WordRole
  | '-' :: '-' :: body =>
      let (key, value) := keyAndValue body
      if key = [] then .positional else .long key value
  | '-' :: c :: rest =>
      if c = '=' || isDigit c then .positional
      else
        let (letters, value) := keyAndValue (c :: rest)
        .group letters value
  | _ => .positional

namespace Options

/-- One option with or without a value. -/
def add (o : Options) (key : Text) : Option Text → Options
  | none => o.addFlag key
  | some value => o.addValue key value

/-- A group of one-letter options; the value belongs to the last. -/
def addGroup (o : Options) : Text → Option Text → Options
  | [], _ => o
  | [letter], value => o.add [letter] value
  | letter :: next :: rest, value => (o.addFlag [letter]).addGroup (next :: rest) value

end Options

/-- Split words, given the positional arguments and options found so far. -/
def splitOptionsFrom (args : List Text) (options : Options) :
    List Text → List Text × Options
  | [] => (args, options)
  | word :: rest =>
      if word = ['-', '-'] then (args ++ rest, options)
      else match wordRole word with
        | .positional => splitOptionsFrom (args ++ [word]) options rest
        | .long key value => splitOptionsFrom args (options.add key value) rest
        | .group letters value => splitOptionsFrom args (options.addGroup letters value) rest

/-- The positional arguments of a row of words, and its options. -/
def splitOptions (words : List Text) : List Text × Options :=
  splitOptionsFrom [] .empty words

end CommandShell
