import CommandShell.Files.Cause
import CommandShell.Files.Path

/-!
# Files

A file system is a list of entries under the names that lead to them from the root.  A path is
followed name by name as the operating system does it, through links, and not lexically.

## Main definitions

* `Entry` — a folder, a file, a link or a program of the host.
* `FileTree` — the entries of a file system.
* `FileTree.walk` — where a path leads.
* `FileTree.stat`, `read`, `readText`, `list` — what is there.
* `FileTree.write`, `makeFolder`, `makeLink`, `remove` — changes.
-/

namespace CommandShell

/-- What a name stands for. -/
inductive Entry where
  /-- A folder. -/
  | folder
  /-- A file with its content. -/
  | file (content : Bytes) (executable : Bool)
  /-- A link to a path. -/
  | link (target : Path)
  /-- A program of the host, known by its name. -/
  | program (name : Text)
  deriving DecidableEq, Repr

/-- The way to an entry: names from the root on. -/
abbrev Way := List Bytes

/-- A file system; the root is a folder that has no entry of its own. -/
structure FileTree where
  /-- The entries; each stands for the latest under its way. -/
  entries : List (Way × Entry)
  deriving DecidableEq, Repr

namespace FileTree

/-- The file system without entries. -/
def empty : FileTree := ⟨[]⟩

/-- The entry at the end of a way. -/
def find? (t : FileTree) (way : Way) : Option Entry :=
  if way = [] then some .folder
  else (t.entries.find? fun entry => entry.1 = way).map Prod.snd

/-- Put an entry at the end of a way. -/
def put (t : FileTree) (way : Way) (e : Entry) : FileTree :=
  ⟨(way, e) :: t.entries.filter fun entry => entry.1 ≠ way⟩

/-- The entries in a folder, with their names. -/
def members (t : FileTree) (way : Way) : List (Bytes × Entry) :=
  t.entries.filterMap fun (other, e) =>
    match other.getLast? with
    | some name => if other.dropLast = way then some (name, e) else none
    | none => none

/-! ### Following a path -/

/-- The longest name of an entry. -/
def nameLimit : Nat := 255

/-- The longest path. -/
def pathLimit : Nat := 4095

/-- The number of links that are followed on one way. -/
def linkLimit : Nat := 40

/-- Where names lead to from a folder.  The last name need not be there.  The first argument
bounds the number of names; the second counts the links that may still be followed; a last
link is followed only if `follow` says so. -/
def walkNames (t : FileTree) (follow : Bool) :
    Nat → Nat → Way → List Bytes → Except Cause Way
  | 0, _, _, _ => .error .tooManyLinks
  | _, _, way, [] => .ok way
  | fuel + 1, links, way, name :: rest =>
      match t.find? way with
      | some .folder =>
          if name = [] ∨ name = Path.dot then t.walkNames follow fuel links way rest
          else if name = Path.dotDot then t.walkNames follow fuel links way.dropLast rest
          else if nameLimit < name.length then .error .nameTooLong
          else match t.find? (way ++ [name]) with
            | none => if rest.all (· = []) then .ok (way ++ [name]) else .error .notFound
            | some (.link target) =>
                if rest = [] ∧ !follow then .ok (way ++ [name])
                else match links with
                  | 0 => .error .tooManyLinks
                  | links + 1 =>
                      t.walkNames follow fuel links (if target.isAbsolute then [] else way)
                        (target.splitOn Path.slash ++ rest)
            | some _ => t.walkNames follow fuel links (way ++ [name]) rest
      | some _ => .error .notFolder
      | none => .error .notFound

/-- Where a path leads to, seen from a folder. -/
def walk (t : FileTree) (follow : Bool) (start : Way) (p : Path) : Except Cause Way :=
  if p.contains 0 then .error .zeroInPath
  else if pathLimit < p.length then .error .nameTooLong
  else if p = [] then .error .notFound
  else t.walkNames follow ((linkLimit + 1) * (pathLimit + 1)) linkLimit
    (if p.isAbsolute then [] else start) (p.splitOn Path.slash)

/-! ### What is there -/

/-- The entry that a path leads to through all links, and the way to it. -/
def stat (t : FileTree) (start : Way) (p : Path) : Except Cause (Way × Entry) := do
  let way ← t.walk true start p
  match t.find? way with
  | some e => .ok (way, e)
  | none => .error .notFound

/-- The path leads to a folder. -/
def isFolder (t : FileTree) (start : Way) (p : Path) : Bool :=
  match t.stat start p with
  | .ok (_, .folder) => true
  | _ => false

/-- The content of a file. -/
def read (t : FileTree) (start : Way) (p : Path) : Except Cause Bytes := do
  match ← t.stat start p with
  | (_, .file content _) => .ok content
  | (_, .program name) => .ok (Utf8.encode name)
  | _ => .error .isFolder

/-- The content of a file as text, which must be well formed. -/
def readText (t : FileTree) (start : Way) (p : Path) : Except Cause Text := do
  match Utf8.decode? (← t.read start p) with
  | some text => .ok text
  | none => .error .notText

/-- The entries of a folder, with their names and whether they are folders, through links.  A link
is followed from where the folder was, so the links on the way to the folder count with it. -/
def list (t : FileTree) (start : Way) (p : Path) : Except Cause (List (Bytes × Bool)) := do
  match ← t.stat start p with
  | (way, .folder) =>
      .ok ((t.members way).map fun (name, e) =>
        (name, match e with
          | .link _ => t.isFolder start (p.join name)
          | e => e = .folder))
  | _ => .error .notFolder

/-! ### Changes -/

/-- Give a file a content made from the one it had; the file is made if there is none. -/
def write (t : FileTree) (start : Way) (p : Path) (f : Bytes → Bytes) (executable : Bool) :
    Except Cause FileTree := do
  let way ← t.walk true start p
  match t.find? way with
  | none =>
      if p.getLast? = some Path.slash then .error .isFolder
      else .ok (t.put way (.file (f []) executable))
  | some (.file content wasExecutable) =>
      .ok (t.put way (.file (f content) (wasExecutable || executable)))
  | some .folder => .error .isFolder
  | some _ => .error .notPermitted

/-- Make a folder. -/
def makeFolder (t : FileTree) (start : Way) (p : Path) : Except Cause FileTree := do
  let way ← t.walk false start p
  match t.find? way with
  | none => .ok (t.put way .folder)
  | some _ => .error .exists

/-- Make a folder and all folders on the way to it that are missing. -/
def makeFolders (t : FileTree) (way : Way) : FileTree :=
  (List.range way.length).foldl (fun t n =>
    match t.find? (way.take (n + 1)) with
    | none => t.put (way.take (n + 1)) .folder
    | some _ => t) t

/-- Make a link. -/
def makeLink (t : FileTree) (start : Way) (p target : Path) : Except Cause FileTree := do
  let way ← t.walk false start p
  match t.find? way with
  | none => .ok (t.put way (.link target))
  | some _ => .error .exists

/-- Take away an entry and all that is below it. -/
def remove (t : FileTree) (way : Way) : FileTree :=
  ⟨t.entries.filter fun entry => !way.isPrefixOf entry.1⟩

end FileTree

end CommandShell
