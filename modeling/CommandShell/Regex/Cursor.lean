import CommandShell.Regex.Fault
import CommandShell.Text.Blank

/-!
# Moving through a pattern

A reader of patterns moves a cursor forward.  In verbose mode blanks and comments, which start
with a number sign and end with the line, are skipped between the signs of the pattern.

## Main definitions

* `Cursor` — a place and the characters behind it.
* `Cursor.bump`, `Cursor.skip`, `Cursor.next` — one character on, over blanks and comments,
  and both.
* `Cursor.takeWhile` — characters with a property.
* `Reader` — a computation that moves a cursor and may find a fault.
-/

namespace CommandShell.Regex

/-- A place in a pattern with the characters behind it. -/
structure Cursor where
  /-- The place. -/
  place : Place
  /-- The characters behind it. -/
  rest : Text
  /-- Blanks and comments are skipped. -/
  verbose : Bool
  deriving DecidableEq, Repr

namespace Cursor

/-- One character on. -/
def bump (c : Cursor) : Cursor :=
  match c.rest with
  | [] => c
  | x :: rest => { c with place := c.place.after x, rest := rest }

/-- Over blanks and comments, from inside a comment or not. -/
def skipFrom : Bool → Place → Text → Place × Text
  | _, p, [] => (p, [])
  | true, p, x :: rest => skipFrom (x != '\n') (p.after x) rest
  | false, p, x :: rest =>
      if isBlank x then skipFrom false (p.after x) rest
      else if x = '#' then skipFrom true (p.after x) rest
      else (p, x :: rest)

/-- Over blanks and comments, in verbose mode. -/
def skip (c : Cursor) : Cursor :=
  if c.verbose then
    match skipFrom false c.place c.rest with
    | (place, rest) => { c with place := place, rest := rest }
  else c

/-- One character on, and over what follows it. -/
def next (c : Cursor) : Cursor := c.bump.skip

/-- Over blanks in any mode. -/
def skipBlanks (c : Cursor) : Cursor :=
  { c with
    place := (c.rest.takeWhile isBlank).foldl Place.after c.place
    rest := c.rest.dropWhile isBlank }

/-- The characters with a property, with blanks and comments after them skipped. -/
def takeFrom (verbose : Bool) (p : Char → Bool) : Bool → Place → Text → Text × Place × Text
  | _, at_, [] => ([], at_, [])
  | true, at_, x :: rest => takeFrom verbose p (x != '\n') (at_.after x) rest
  | false, at_, x :: rest =>
      if verbose && isBlank x then takeFrom verbose p false (at_.after x) rest
      else if verbose && x == '#' then takeFrom verbose p true (at_.after x) rest
      else if p x then
        match takeFrom verbose p false (at_.after x) rest with
        | (taken, place, rest) => (x :: taken, place, rest)
      else ([], at_, x :: rest)

/-- The characters with a property from here on, and the cursor after them. -/
def takeWhile (c : Cursor) (p : Char → Bool) : Text × Cursor :=
  match takeFrom c.verbose p false c.place c.rest with
  | (taken, place, rest) => (taken, { c with place := place, rest := rest })

/-- The stretch of the next character; empty at the end. -/
def charSpan (c : Cursor) : Stretch :=
  match c.rest with
  | [] => ⟨c.place, c.place⟩
  | x :: _ => ⟨c.place, c.place.after x⟩

/-- The character after the next one.  In verbose mode blanks are skipped before it, and one
number sign among them; if nothing else follows, it is the next blank. -/
def second? (c : Cursor) : Option Char :=
  match c.rest with
  | [] => none
  | _ :: rest =>
      if c.verbose then
        let ahead := match rest.dropWhile isBlank with
          | '#' :: comment => comment.dropWhile isBlank
          | other => other
        (ahead.head?).or rest.head?
      else rest.head?

end Cursor

/-- A computation that moves a cursor through a pattern and may find a fault. -/
abbrev Reader := StateT Cursor (Except Fault)

namespace Reader

/-- Stop with a fault. -/
def fail {α : Type} (kind : FaultKind) (span : Stretch) : Reader α := throw (.at kind span)

/-- The place of the cursor. -/
def here : Reader Place := return (← get).place

/-- The empty stretch at the cursor. -/
def hereSpan : Reader Stretch := return ⟨(← get).place, (← get).place⟩

/-- The stretch from a place to the cursor. -/
def spanFrom (start : Place) : Reader Stretch := return ⟨start, (← get).place⟩

/-- The stretch of the next character. -/
def charSpan : Reader Stretch := return (← get).charSpan

/-- The next character, if there is one. -/
def peek : Reader (Option Char) := return (← get).rest.head?

/-- One character on. -/
def bump : Reader Unit := modify Cursor.bump

/-- One character on, and over what follows it in verbose mode. -/
def next : Reader Unit := modify Cursor.next

/-- The characters with a property. -/
def takeWhile (p : Char → Bool) : Reader Text := modifyGet fun c => c.takeWhile p

/-- Over a given text, if it comes next. -/
def accept (text : String) : Reader Bool := do
  let c ← get
  if text.toList.isPrefixOf c.rest then
    set (text.toList.foldl (fun d _ => d.bump) c)
    return true
  return false

/-- Over the first of several texts that comes next. -/
def acceptAny : List String → Reader Bool
  | [] => return false
  | text :: others => do
      if ← accept text then return true
      acceptAny others

end Reader

end CommandShell.Regex
