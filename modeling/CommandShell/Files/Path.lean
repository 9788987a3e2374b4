import CommandShell.Text.Utf8

/-!
# Paths

A path is a byte string; slashes separate its names.  The shell thinks of paths lexically: a
name followed by `..` is nothing, whatever the files are.

## Main definitions

* `Path`, `Path.ofText`, `Path.display` — paths, from texts and as texts.
* `Path.isAbsolute`, `Path.names` — what a path is made of.
* `Path.fold` — names with every `..` folded into the name before it.
* `Path.normalize` — a path in its shortest form.
* `Path.join` — a path seen from another one.
* `Location` — the home folder and the current folder of a session.
* `Location.resolve`, `Location.changeDir` — paths seen from the current folder.
-/

namespace CommandShell

/-- A path. -/
abbrev Path := Bytes

namespace Path

/-- The byte that separates names. -/
def slash : UInt8 := 0x2F

/-- The name of the folder itself. -/
def dot : Bytes := [0x2E]

/-- The name of the folder above. -/
def dotDot : Bytes := [0x2E, 0x2E]

/-- A path from what was typed. -/
def ofText (t : Text) : Path := Utf8.encode t

/-- A path as it is shown. -/
def display (p : Path) : Text := Utf8.decodeLossy p

/-- The path begins at the root. -/
def isAbsolute (p : Path) : Bool := p.head? = some slash

/-- The names of a path in order, those left out that lead nowhere else. -/
def names (p : Path) : List Bytes := (p.splitOn slash).filter fun n => n ≠ [] ∧ n ≠ dot

/-- One more name at the end of some names, which stand in reverse order.  A name followed by
`..` is nothing; there is nothing above the root. -/
def climb (absolute : Bool) (above : List Bytes) (name : Bytes) : List Bytes :=
  if name ≠ dotDot then name :: above
  else match above with
    | [] => if absolute then [] else [dotDot]
    | last :: rest => if last = dotDot then dotDot :: above else rest

/-- Names with every `..` folded into the name before it, where there is one. -/
def fold (absolute : Bool) (names : List Bytes) : List Bytes :=
  (names.foldl (climb absolute) []).reverse

/-- A path with the given names. -/
def build (absolute : Bool) (names : List Bytes) : Path :=
  (if absolute then [slash] else []) ++ joinWith [slash] names

/-- A path in its shortest form.  The empty path stands for a folder seen from itself. -/
def normalize (p : Path) : Path := build p.isAbsolute (fold p.isAbsolute p.names)

/-- A path seen from another one. -/
def join (base p : Path) : Path :=
  if p.isAbsolute then p
  else if base = [] ∨ base.getLast? = some slash then base ++ p
  else base ++ slash :: p

end Path

/-- Where a session is. -/
structure Location where
  /-- The folder in which the session began. -/
  home : Path
  /-- The current folder. -/
  cwd : Path
  deriving DecidableEq, Repr

namespace Location

/-- A session that begins in a folder. -/
def start (p : Path) : Location := ⟨p.normalize, p.normalize⟩

/-- A path as it is seen from the current folder, in its shortest form. -/
def resolve (s : Location) (p : Path) : Path := (s.cwd.join p).normalize

/-- The session goes to a folder, whether there is one or not. -/
def changeDir (s : Location) (p : Path) : Location := { s with cwd := s.resolve p }

end Location

end CommandShell
