import CommandShell.Toml.Scalar

/-!
# Reading settings files

## Main definitions

* `Scan` — a computation that takes characters off a text and may fail.
* `Scan.key`, `Scan.string`, `Scan.value` — the parts of a file.
* `Scan.line`, `Table.ofText?` — a line, and a whole file.
-/

namespace CommandShell.Toml

/-- A computation that takes characters off a text and may fail. -/
abbrev Scan := StateT Text Option

namespace Scan

/-- The next character. -/
def peek : Scan (Option Char) := return (← get).head?

/-- Fail. -/
def refuse {α : Type} : Scan α := fun _ => none

/-- Over a given text, if it comes next. -/
def accept (t : String) : Scan Bool := fun rest =>
  if t.toList.isPrefixOf rest then some (true, rest.drop t.length) else some (false, rest)

/-- Over a given text, which must come next. -/
def expect (t : String) : Scan Unit := do
  if !(← accept t) then refuse

/-- The characters with a property. -/
def takeWhile (p : Char → Bool) : Scan Text := fun rest => some (rest.takeWhile p, rest.dropWhile p)

/-- A blank within a line. -/
def isGap (c : Char) : Bool := c == ' ' || c == '\t'

/-- Over blanks. -/
def gaps : Scan Unit := discard (takeWhile isGap)

/-- A character that comments, and texts between single quotes, may hold. -/
def isVisible (c : Char) : Bool := c == '\t' || (0x20 ≤ c.toNat && c.toNat != 0x7F)

/-- Over a line end, if one comes next. -/
def lineEnd : Scan Bool := do
  if ← accept "\n" then return true
  accept "\r\n"

/-- Over a comment, if one comes next. -/
def comment : Scan Unit := do
  if ← accept "#" then discard (takeWhile isVisible)

/-- Over blanks, comments and line ends; the fuel bounds their number. -/
def spread : Nat → Scan Unit
  | 0 => return
  | fuel + 1 => do
      gaps
      comment
      if ← lineEnd then spread fuel

/-! ### Texts -/

/-- The value of so many hexadecimal digits as a character. -/
def codePoint (digits : Nat) : Scan Char := fun rest =>
  let written := rest.take digits
  let n := rowValue 16 written
  if written.length = digits ∧ written.all isHex ∧ n.isValidChar then
    some (Char.ofNat n, rest.drop digits)
  else none

/-- The character that an escape stands for, after the backslash. -/
def escape : Scan Char := do
  match (← takeOne) with
  | 'b' => return Char.ofNat 0x08
  | 't' => return '\t'
  | 'n' => return '\n'
  | 'f' => return Char.ofNat 0x0C
  | 'r' => return '\r'
  | '"' => return '"'
  | '\\' => return '\\'
  | 'u' => codePoint 4
  | 'U' => codePoint 8
  | _ => refuse
where
  /-- One character. -/
  takeOne : Scan Char := fun
    | c :: rest => some (c, rest)
    | [] => none

/-- A text in double quotes, after the first of them. -/
def basic : Nat → Scan Text
  | 0 => refuse
  | fuel + 1 => do
      if ← accept "\"" then return []
      let c ← if ← accept "\\" then escape else plain
      return c :: (← basic fuel)
where
  /-- A character that stands for itself. -/
  plain : Scan Char := fun
    | c :: rest => if isVisible c then some (c, rest) else none
    | [] => none

/-- A text in single quotes, after the first of them. -/
def literal : Scan Text := do
  let t ← takeWhile fun c => isVisible c && c != '\''
  expect "'"
  return t

/-- The end of a text in threefold quotes: up to two further quotes belong to the text. -/
def closing (quote : Char) : Scan (Option Text) := fun rest =>
  let row := rest.takeWhile (· = quote)
  if row.length < 3 then some (none, rest)
  else if 5 < row.length then none
  else some (some (row.drop 3), rest.drop row.length)

/-- Over blanks and line ends behind a backslash at the end of a line, of which there must be
one. -/
def foldedEnd : Scan Unit := do
  gaps
  if !(← lineEnd) then refuse
  let rest ← get
  set (dropBlank rest)
where
  /-- What follows blanks and line ends. -/
  dropBlank : Text → Text
    | '\r' :: '\n' :: rest => dropBlank rest
    | c :: rest => if c = '\n' ∨ isGap c then dropBlank rest else c :: rest
    | [] => []

/-- A text in threefold quotes, after the first three; with escapes if the quotes are
double. -/
def long (quote : Char) : Nat → Scan Text
  | 0 => refuse
  | fuel + 1 => do
      match ← closing quote with
      | some more => return more
      | none =>
          if ← lineEnd then return '\n' :: (← long quote fuel)
          let escaped ← if quote = '"' then accept "\\" else pure false
          if escaped then
            match ← peek with
            | some c =>
                if isGap c || c == '\n' || c == '\r' then
                  foldedEnd
                  long quote fuel
                else
                  let d ← escape
                  return d :: (← long quote fuel)
            | none => refuse
          else
            let c ← basic.plain
            return c :: (← long quote fuel)

/-- A text in quotes of any kind. -/
def string : Scan Text := do
  let fuel := (← get).length
  if ← accept "\"\"\"" then
    discard lineEnd
    return ← long '"' fuel
  if ← accept "'''" then
    discard lineEnd
    return ← long '\'' fuel
  if ← accept "\"" then return ← basic fuel
  expect "'"
  literal

/-! ### Keys -/

/-- A character of a key without quotes. -/
def isKeyChar (c : Char) : Bool :=
  isDigit c || ('a' ≤ c && c ≤ 'z') || ('A' ≤ c && c ≤ 'Z') || c == '_' || c == '-'

/-- A name of a key. -/
def name : Scan Text := do
  if ← accept "\"" then return ← basic (← get).length
  if ← accept "'" then return ← literal
  let t ← takeWhile isKeyChar
  if t.isEmpty then refuse
  return t

/-- The limit on nesting, and on the number of names in a key. -/
def depthLimit : Nat := 80

/-- Further names of a key, each after a dot. -/
def names : Nat → Scan (List Text)
  | 0 => refuse
  | fuel + 1 => do
      gaps
      let t ← name
      gaps
      if ← accept "." then return t :: (← names fuel)
      return [t]

/-- A key: the names on the way, and the last one. -/
def key : Scan (List Text × Text) := do
  let row ← names depthLimit
  match row.getLast? with
  | some last =>
      if row.length < depthLimit then return (row.dropLast, last) else refuse
  | none => refuse

/-! ### Values -/

/-- A character of a value that is no text and no container. -/
def isWordChar (c : Char) : Bool :=
  isDigit c || ('a' ≤ c && c ≤ 'z') || ('A' ≤ c && c ≤ 'Z') || c == '_' || c == '-' || c == '+' ||
    c == '.' || c == ':'

/-- A value that is no text and no container.  A time may follow a date after one blank. -/
def scalar : Scan Value := do
  let word ← takeWhile isWordChar
  let whole ← if (afterDate word) = some [] then withTime word else pure word
  match scalar? whole with
  | some v => return v
  | none => refuse
where
  /-- A date with the time that may follow it. -/
  withTime (date : Text) : Scan Text := do
    match ← get with
    | ' ' :: a :: b :: ':' :: _ =>
        if isDigit a && isDigit b then
          discard (accept " ")
          return date ++ ' ' :: (← takeWhile isWordChar)
        else return date
    | _ => return date

mutual

/-- A value at a depth of nesting. -/
def value : Nat → Nat → Scan Value
  | 0, _ => refuse
  | fuel + 1, depth => do
      match ← peek with
      | some '"' | some '\'' => return .string (← string)
      | some '[' =>
          discard (accept "[")
          if depthLimit ≤ depth + 1 then refuse
          return .array (← items fuel (depth + 1))
      | some '\x7b' =>
          discard (accept "\x7b")
          if depthLimit ≤ depth + 1 then refuse
          gaps
          if ← accept "\x7d" then return .table []
          return .table (Nodes.values (← entries fuel (depth + 1) []))
      | _ => scalar

/-- The items of an array up to its end. -/
def items : Nat → Nat → Scan (List Value)
  | 0, _ => refuse
  | fuel + 1, depth => do
      spread (← get).length
      if ← accept "]" then return []
      let v ← value fuel depth
      spread (← get).length
      if ← accept "," then return v :: (← items fuel depth)
      expect "]"
      return [v]

/-- The entries of a table in braces up to its end, after those so far. -/
def entries : Nat → Nat → Nodes → Scan Nodes
  | 0, _, _ => refuse
  | fuel + 1, depth, nodes => do
      let (path, last) ← key
      expect "="
      gaps
      let v ← value fuel depth
      gaps
      match nodes.insert last v path with
      | none => refuse
      | some nodes =>
          if ← accept "," then entries fuel depth nodes
          else
            expect "\x7d"
            return nodes

end

/-! ### Files -/

/-- The end of a line, or of the file. -/
def finishLine : Scan Unit := do
  gaps
  comment
  if !(← lineEnd) && !(← get).isEmpty then refuse

/-- What has been read: all values, and the names of the last header. -/
structure File where
  /-- All values. -/
  nodes : Nodes
  /-- The names of the last header. -/
  header : List Text

/-- A line of a file. -/
def line (f : File) : Scan File := do
  gaps
  match ← peek with
  | none | some '#' | some '\n' | some '\r' =>
      finishLine
      return f
  | some '[' =>
      let isItem ← accept "[["
      if !isItem then expect "["
      let (path, last) ← key
      expect (if isItem then "]]" else "]")
      finishLine
      match (if isItem then f.nodes.openItem path last else f.nodes.openTable path last) with
      | some nodes => return ⟨nodes, path ++ [last]⟩
      | none => refuse
  | some _ =>
      let (path, last) ← key
      expect "="
      gaps
      let v ← value ((← get).length + 1) 0
      finishLine
      match Nodes.descend (fun nodes => nodes.insert last v path) f.header f.nodes with
      | some nodes => return { f with nodes := nodes }
      | none => refuse

/-- The lines of a file; the fuel bounds their number. -/
def file : Nat → File → Scan File
  | 0, f => return f
  | fuel + 1, f => do
      if (← get).isEmpty then return f
      file fuel (← line f)

end Scan

/-- The table that a file is, `none` if it is not well formed.  A mark of byte order may stand
at its beginning. -/
def Table.ofText? (t : Text) : Option Table :=
  let body := match t with
    | c :: rest => if c.toNat = 0xFEFF then rest else t
    | [] => []
  match (Scan.file (body.length + 1) ⟨[], []⟩).run body with
  | some (f, _) => some (Nodes.values f.nodes)
  | none => none

end CommandShell.Toml
