import CommandShell.Line.Word
import CommandShell.Text.Blank

/-!
# The words of a line

A line is read one character at a time by a machine whose state is the quoting mode and the
stages and words read so far.

* Between single quotes every character stands for itself.
* Between double quotes `$` stays special; a backslash escapes `$`, a backquote, `"`, `\` and
  a newline, and stands for itself before any other character.
* Outside quotes a backslash escapes blanks, `|`, `$`, both quotes and `\`, and is kept before
  any other character and at the end of the line.  A pipe sign ends a stage and a blank ends a
  word; a quote starts a word even if nothing stands between it and its partner.

An empty stage is reported as soon as its pipe sign is read, before a quote that is never
closed further on.

## Main definitions

* `LineError` — the two ways in which a line can fail to be read.
* `Mode`, `Draft` — the state of the machine.
* `Draft.step`, `Draft.finish` — one character, and the end of the line.
* `tokenize` — the stages of a line.
-/

namespace CommandShell

/-- What is wrong with a line. -/
inductive LineError where
  /-- A quote is opened and never closed. -/
  | unclosedQuote
  /-- There is no word on one side of a pipe sign. -/
  | emptyPipe
  deriving DecidableEq, Repr

/-- The sentence that reports a line error. -/
def LineError.message : LineError → Text
  | .unclosedQuote => "Syntax error: String literal is not properly closed with a matching quote"
  | .emptyPipe =>
      "Syntax error: Pipe operator '|' cannot be empty (missing command on one or both sides)"

/-- How the next character is read. -/
inductive Mode where
  /-- Outside quotes. -/
  | plain
  /-- Outside quotes, after a backslash. -/
  | plainEscape
  /-- Between single quotes. -/
  | single
  /-- Between double quotes. -/
  | double
  /-- Between double quotes, after a backslash. -/
  | doubleEscape
  deriving DecidableEq, Repr

/-- Characters that a backslash escapes outside quotes. -/
def escapablePlain (c : Char) : Bool :=
  isBlank c || c == '|' || c == '$' || c == '"' || c == '\'' || c == '\\'

/-- Characters that a backslash escapes between double quotes. -/
def escapableDouble (c : Char) : Bool :=
  c == '$' || c.toNat == 0x60 || c == '"' || c == '\\' || c == '\n'

/-- What has been read of a line. -/
structure Draft where
  /-- The stages that ended in a pipe sign. -/
  stages : List Stage
  /-- The finished words of the current stage. -/
  words : List Word
  /-- The current word, once it has started. -/
  word : Option Word
  /-- How the next character is read. -/
  mode : Mode
  deriving DecidableEq, Repr

namespace Draft

/-- Nothing has been read. -/
def start : Draft := ⟨[], [], none, .plain⟩

/-- Continue in another mode. -/
def turn (d : Draft) (mode : Mode) : Draft := { d with mode := mode }

/-- Start a word unless one has started. -/
def openWord (d : Draft) : Draft := { d with word := some (d.word.getD .empty) }

/-- One more character of the current word. -/
def push (d : Draft) (c : Char) (expands quoted : Bool) : Draft :=
  { d with word := some ((d.word.getD .empty).push c expands quoted) }

/-- End the current word, if one has started. -/
def endWord (d : Draft) : Draft := { d with words := d.words ++ d.word.toList, word := none }

/-- End the current stage, which must have a word. -/
def endStage (d : Draft) : Except LineError Draft :=
  if d.endWord.words = [] then .error .emptyPipe
  else .ok { d.endWord with stages := d.stages ++ [d.endWord.words], words := [] }

/-- One character outside quotes. -/
def stepPlain (d : Draft) (c : Char) : Except LineError Draft :=
  if c = '\'' then .ok (d.openWord.turn .single)
  else if c = '"' then .ok (d.openWord.turn .double)
  else if c = '\\' then .ok (d.turn .plainEscape)
  else if c = '|' then d.endStage
  else if isBlank c then .ok d.endWord
  else .ok (d.push c true false)

/-- One character between double quotes. -/
def stepDouble (d : Draft) (c : Char) : Draft :=
  if c = '"' then d.turn .plain
  else if c = '\\' then d.turn .doubleEscape
  else d.push c true true

/-- One character of the line. -/
def step (d : Draft) (c : Char) : Except LineError Draft :=
  match d.mode with
  | .plain => d.stepPlain c
  | .plainEscape =>
      if escapablePlain c then .ok ((d.push c false true).turn .plain)
      else ((d.push '\\' false false).turn .plain).stepPlain c
  | .single => .ok (if c = '\'' then d.turn .plain else d.push c false true)
  | .double => .ok (d.stepDouble c)
  | .doubleEscape =>
      .ok (if escapableDouble c then (d.push c false true).turn .double
        else ((d.push '\\' false true).turn .double).stepDouble c)

/-- The end of a line outside quotes: a blank line has no stages, and any other must end in a
stage with a word. -/
def close (d : Draft) : Except LineError (List Stage) :=
  if d.stages = [] ∧ d.endWord.words = [] then .ok []
  else d.endStage.map Draft.stages

/-- The end of the line. -/
def finish (d : Draft) : Except LineError (List Stage) :=
  match d.mode with
  | .plain => d.close
  | .plainEscape => (d.push '\\' false false).close
  | .single | .double | .doubleEscape => .error .unclosedQuote

end Draft

/-- The stages of a line, each with its words; none if the line is blank. -/
def tokenize (line : Text) : Except LineError (List Stage) :=
  line.foldlM Draft.step .start >>= Draft.finish

end CommandShell
