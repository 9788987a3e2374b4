import CommandShell.Line.Expansion

/-!
# Pieces of a text

Expansion reads a text and looks variables up in one go.  Here the reading is done on its own.  What
a text can become is fixed by a row of *pieces*, which are found without knowing the variables; the
values are put in afterwards, each where its variable is named.

The pieces are read by a machine with three kinds of states.  After a `$` it waits for the first
character of a name, and then for the first that does not belong to it.

## Main definitions

* `Piece` — a literal text or the name of a variable.
* `fillPieces` — the text that a row of pieces stands for.
* `Reference`, `piecesFrom` — the pieces of a text, read one character at a time.
* `Part.pieces`, `Word.pieces` — the pieces of a part and of a word.
-/

namespace CommandShell

/-- What a stretch of a word stands for. -/
inductive Piece where
  /-- These characters. -/
  | literal (text : Text)
  /-- The value of this variable. -/
  | variable (name : Text)
  deriving DecidableEq, Repr

/-! ### Filling in -/

/-- The text that a piece stands for; a variable that was never set stands for nothing. -/
def Piece.fill (vars : Variables) : Piece → Text
  | .literal text => text
  | .variable name => (vars.get? name).getD []

/-- The text that a row of pieces stands for. -/
def fillPieces (vars : Variables) (pieces : List Piece) : Text :=
  pieces.flatMap (Piece.fill vars)

@[simp] theorem fillPieces_nil (vars : Variables) : fillPieces vars [] = [] := rfl

@[simp] theorem fillPieces_cons (vars : Variables) (p : Piece) (ps : List Piece) :
    fillPieces vars (p :: ps) = p.fill vars ++ fillPieces vars ps := rfl

@[simp] theorem fillPieces_append (vars : Variables) (ps qs : List Piece) :
    fillPieces vars (ps ++ qs) = fillPieces vars ps ++ fillPieces vars qs :=
  List.flatMap_append

@[simp] theorem fill_literal (vars : Variables) (t : Text) : (Piece.literal t).fill vars = t :=
  rfl

theorem fill_variable (vars : Variables) (name : Text) :
    (Piece.variable name).fill vars = vars.value name := rfl

@[simp] theorem fill_variable_empty (name : Text) :
    (Piece.variable name).fill Dictionary.empty = [] := rfl

/-! ### Reading -/

/-- Where a scan for `$` stands. -/
inductive Reference where
  /-- Not in a reference. -/
  | outside
  /-- After a `$`. -/
  | dollar
  /-- In a variable name, of which these characters are known. -/
  | named (name : Text)
  deriving DecidableEq, Repr

/-- The pieces of a text in which `$` is special, read from a given point of a scan. -/
def piecesFrom : Reference → Text → List Piece
  | .outside, [] => []
  | .outside, c :: rest =>
      if c = '$' then piecesFrom .dollar rest
      else .literal [c] :: piecesFrom .outside rest
  | .dollar, [] => [.literal ['$']]
  | .dollar, c :: rest =>
      if c = '?' then .variable statusName :: piecesFrom .outside rest
      else if isNameStart c then piecesFrom (.named [c]) rest
      else if c = '$' then .literal ['$'] :: piecesFrom .dollar rest
      else .literal ['$'] :: .literal [c] :: piecesFrom .outside rest
  | .named name, [] => [.variable name]
  | .named name, c :: rest =>
      if isNameChar c then piecesFrom (.named (name ++ [c])) rest
      else if c = '$' then .variable name :: piecesFrom .dollar rest
      else .variable name :: .literal [c] :: piecesFrom .outside rest

/-- The pieces of a part.  Where `$` is not special the whole part is literal. -/
def Part.pieces (p : Part) : List Piece :=
  if p.expands then piecesFrom .outside p.text else [.literal p.text]

/-- The pieces of a word, part by part: a variable name never runs into the next part. -/
def Word.pieces (w : Word) : List Piece := w.parts.flatMap Part.pieces

end CommandShell
