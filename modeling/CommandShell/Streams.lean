import CommandShell.Files.Cause
import CommandShell.Text.Lines
import CommandShell.Text.Utf8

/-!
# Streams

A command reads one stream and writes two.  A stream of input is what is left to be read of
it; a stream of output is what has been written to it.

An input may fail where it would otherwise end; what the failing read has taken is lost.  An
output may fail when it is written to, or when it is flushed after that.

## Main definitions

* `Input`, `Input.readAll`, `Input.readUntil`, `Input.readLine` — reading.
* `Output`, `Output.put` — writing.
* `Streams` — the streams of a command.
-/

namespace CommandShell

/-! ### Input -/

/-- What is left to be read of a stream. -/
structure Input where
  /-- The bytes that are left. -/
  bytes : Bytes
  /-- The stream fails where it would end. -/
  failing : Bool
  deriving DecidableEq, Repr

namespace Input

/-- A stream that ends after some bytes. -/
def ofBytes (b : Bytes) : Input := ⟨b, false⟩

/-- All that is left; `none` if the stream fails. -/
def readAll (i : Input) : Option Bytes × Input :=
  (if i.failing then none else some i.bytes, { i with bytes := [] })

/-- All that is left, as text. -/
def readText (i : Input) : Option Text × Input :=
  match i.readAll with
  | (bytes, rest) => (bytes.map Utf8.decodeLossy, rest)

/-- The bytes up to and including the next newline, or all that is left if there is none;
`none` if the stream fails. -/
def readUntil (i : Input) : Option Bytes × Input :=
  match takeLine 0x0A i.bytes with
  | (line, rest) =>
      (if i.failing && line.getLast? != some 0x0A then none else some line,
        { i with bytes := rest })

/-- The next line, without the newline and a carriage return before it.  The outer `none`
stands for a failure, the inner one for the end of the stream. -/
def readLine (i : Input) : Option (Option Text) × Input :=
  match i.readUntil with
  | (line, rest) =>
      (line.map fun line =>
        if line = [] then none else some (Utf8.decodeLossy (chomp 0x0D 0x0A line)), rest)

end Input

/-! ### Output -/

/-- How a stream of output behaves. -/
inductive OutputMode where
  /-- It takes what is written. -/
  | working
  /-- Writing at least one byte fails. -/
  | writeFails
  /-- Flushing fails. -/
  | flushFails
  deriving DecidableEq, Repr

/-- What has been written to a stream. -/
structure Output where
  /-- The bytes written so far. -/
  written : Bytes
  /-- How it behaves. -/
  mode : OutputMode
  deriving DecidableEq, Repr

namespace Output

/-- A working stream to which nothing has been written. -/
def fresh : Output := ⟨[], .working⟩

/-- Write some bytes, without flushing. -/
def write (o : Output) (b : Bytes) : Except Cause Unit × Output :=
  if o.mode = .writeFails ∧ b ≠ [] then (.error .stream, o)
  else (.ok (), { o with written := o.written ++ b })

/-- Flush the stream. -/
def flush (o : Output) : Except Cause Unit :=
  if o.mode = .flushFails then .error .stream else .ok ()

/-- Write some bytes and flush them. -/
def put (o : Output) (b : Bytes) : Except Cause Unit × Output :=
  match o.write b with
  | (.ok (), o) => (o.flush, o)
  | failure => failure

end Output

/-! ### The streams of a command -/

/-- The streams of a command. -/
structure Streams where
  /-- What it reads. -/
  input : Input
  /-- Where it writes. -/
  output : Output
  /-- Where it complains. -/
  error : Output
  /-- The input is the terminal of the shell itself. -/
  inputIsTerminal : Bool
  /-- The output is the terminal of the shell itself. -/
  outputIsTerminal : Bool
  deriving DecidableEq, Repr

namespace Streams

/-- Write a text to the output. -/
def putOutput (s : Streams) (t : Text) : Except Cause Unit × Streams :=
  match s.output.put (Utf8.encode t) with
  | (result, output) => (result, { s with output := output })

/-- Write a text to the error stream; a failure is passed over. -/
def putError (s : Streams) (t : Text) : Streams :=
  { s with error := (s.error.put (Utf8.encode t)).2 }

/-- All that is left of the input. -/
def readAll (s : Streams) : Option Bytes × Streams :=
  match s.input.readAll with
  | (bytes, input) => (bytes, { s with input := input })

/-- All that is left of the input, as text. -/
def readText (s : Streams) : Option Text × Streams :=
  match s.input.readText with
  | (text, input) => (text, { s with input := input })

/-- The next line of the input. -/
def readLine (s : Streams) : Option (Option Text) × Streams :=
  match s.input.readLine with
  | (line, input) => (line, { s with input := input })

end Streams

end CommandShell
