import CommandShell.Regex.Escape

/-!
# Classes in brackets

A class is a row of characters, ranges, escapes and further classes in brackets, or an
operation on two such rows.  Operations group to the left and bind weaker than the row.  The
open brackets and the operations that wait for their right side are kept on a stack.

## Main definitions

* `OpenClass` — an open bracket or a waiting operation.
* `ClassDraft`, `ClassDraft.step` — the reading of a class, one item at a time.
* `Reader.bracketed` — a class in brackets.
-/

namespace CommandShell.Regex

/-- What a class under construction waits for. -/
inductive OpenClass where
  /-- A bracket, opened within a row of items that began at a place. -/
  | bracket (span : Stretch) (negated : Bool) (outerStart : Place) (outer : List ClassTree)
  /-- An operation with its left side. -/
  | op (kind : ClassOp) (left : ClassTree)

/-- A class under construction. -/
structure ClassDraft where
  /-- The open brackets and waiting operations, the innermost first. -/
  waiting : List OpenClass
  /-- Where the current row of items begins. -/
  start : Place
  /-- The items of the current row, the latest first. -/
  items : List ClassTree

namespace ClassDraft

/-- The current row as one class. -/
def row (d : ClassDraft) : ClassTree :=
  match d.items.reverse with
  | [] => .empty ⟨d.start, d.start⟩
  | [item] => item
  | first :: rest =>
      .union ⟨first.span.first, ((first :: rest).getLast?.getD first).span.last⟩ (first :: rest)

/-- The current row with the operation, if any, that it is the right side of; and what waits
further. -/
def closeOp (d : ClassDraft) : ClassTree × List OpenClass :=
  match d.waiting with
  | .op kind left :: waiting =>
      (.op ⟨left.span.first, d.row.span.last⟩ kind left d.row, waiting)
  | waiting => (d.row, waiting)

/-- The stretch of the innermost open bracket. -/
def openSpan (waiting : List OpenClass) : Option Stretch :=
  waiting.findSome? fun
    | .bracket span .. => some span
    | .op .. => none

end ClassDraft

namespace Reader

/-- The class is not closed before the end of the pattern. -/
def failUnclosed {α : Type} (d : ClassDraft) : Reader α := do
  fail .classUnclosed ((ClassDraft.openSpan d.waiting).getD (← hereSpan))

/-- Hyphens at the beginning of a class, which stand for themselves; the latest first. -/
def leadingHyphens (start : Place) : Nat → List ClassTree → Reader (List ClassTree)
  | 0, items => return items
  | fuel + 1, items => do
      if (← peek) != some '-' then return items
      let span ← charSpan
      next
      if (← peek).isNone then fail .classUnclosed ⟨start, start⟩
      leadingHyphens start fuel (.literal ⟨span, '-', false⟩ :: items)

/-- An open bracket with its negation, and the hyphens or the closing bracket right behind it
that stand for themselves. -/
def openBracket (outer : ClassDraft) : Reader ClassDraft := do
  let start ← here
  next
  if (← peek).isNone then fail .classUnclosed (← spanFrom start)
  let negated := (← peek) == some '^'
  if negated then next
  if (← peek).isNone then fail .classUnclosed (← spanFrom start)
  let rowStart ← here
  let hyphens ← leadingHyphens start (← get).rest.length []
  let mut items := hyphens
  if hyphens.isEmpty && (← peek) == some ']' then
    items := [.literal ⟨← charSpan, ']', false⟩]
    next
    if (← peek).isNone then fail .classUnclosed (← spanFrom start)
  let bracket := OpenClass.bracket (← spanFrom start) negated outer.start outer.items
  return ⟨bracket :: outer.waiting, rowStart, items⟩

/-- A named class such as `[:alpha:]`, if there is one. -/
def namedClass : Reader (Option ClassTree) := do
  let before ← get
  bump
  if ← accept ":" then
    let negated ← accept "^"
    let name := (← get).rest.takeWhile (· != ':')
    modify fun c => name.foldl (fun d _ => d.bump) c
    if ← accept ":]" then
      if let some kind := AsciiClass.ofName? name then
        return some (.ascii (← spanFrom before.place) kind negated)
  set before
  return none

/-- A character or an escape within a class. -/
def classAtom : Reader Tree := do
  let c ← get
  match c.rest with
  | '\\' :: _ => escape
  | x :: _ =>
      bump
      return .literal ⟨c.charSpan, x, false⟩
  | [] => fail .classUnclosed c.charSpan

/-- An atom as the end of a range. -/
def rangeBound : Tree → Reader Literal
  | .literal l => return l
  | t => fail .classRangeBound t.span

/-- An atom, or a range between two. -/
def classItem (d : ClassDraft) : Reader ClassTree := do
  let first ← classAtom
  modify Cursor.skip
  if (← peek).isNone then failUnclosed d
  let ahead := (← get).second?
  if (← peek) == some '-' && ahead != some ']' && ahead != some '-' then
    next
    if (← peek).isNone then failUnclosed d
    let last ← classAtom
    let low ← rangeBound first
    let high ← rangeBound last
    if high.char < low.char then
      fail .classRangeInvalid ⟨low.span.first, high.span.last⟩
    return .range low high
  match first with
  | .literal l => return .literal l
  | .leaf l => return .leaf l
  | t => fail .classEscapeInvalid t.span

/-- The operation that comes next. -/
def classOp : Reader (Option ClassOp) := do
  if ← accept "&&" then return some .inter
  if ← accept "--" then return some .diff
  if ← accept "~~" then return some .symmDiff
  return none

/-- One item, bracket or operation of a class: the class under construction, or the finished
one. -/
def classStep (d : ClassDraft) : Reader (ClassDraft ⊕ Tree) := do
  modify Cursor.skip
  match ← peek with
  | none => failUnclosed d
  | some '[' =>
      match ← namedClass with
      | some item => return .inl { d with items := item :: d.items }
      | none => return .inl (← openBracket d)
  | some ']' =>
      match d.closeOp with
      | (inner, .bracket span negated outerStart outer :: waiting) =>
          bump
          let span := ⟨span.first, ← here⟩
          if waiting.isEmpty then return .inr (.bracketed span negated inner)
          return .inl ⟨waiting, outerStart, .bracketed span negated inner :: outer⟩
      | _ => failUnclosed d
  | some _ =>
      match ← classOp with
      | some kind =>
          let (left, waiting) := d.closeOp
          return .inl ⟨.op kind left :: waiting, ← here, []⟩
      | none => return .inl { d with items := (← classItem d) :: d.items }

/-- The rest of a class, in at most so many steps. -/
def classRest : Nat → ClassDraft → Reader Tree
  | 0, d => failUnclosed d
  | fuel + 1, d => do
      match ← classStep d with
      | .inl d => classRest fuel d
      | .inr t => return t

/-- A class in brackets, the cursor standing before the first of them. -/
def bracketed : Reader Tree := do
  let start ← here
  let fuel := (← get).rest.length
  classRest fuel (← openBracket ⟨[], start, []⟩)

end Reader

end CommandShell.Regex
