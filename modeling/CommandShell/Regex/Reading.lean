import CommandShell.Regex.Brackets
import CommandShell.Unicode.Property

/-!
# Reading patterns

A pattern is read from left to right.  The groups and alternatives that are still open are
kept on a stack, so that a pattern may nest as deeply as it likes; how deeply it may in the
end is checked when all of it has been read.

## Main definitions

* `OpenTree` — an open group, or alternatives that more may follow.
* `TreeDraft`, `Reader.step` — the reading of a pattern, one item at a time.
* `Tree.checkDepth` — the bound on nesting.
* `Tree.ofText` — the tree of a pattern.
-/

namespace CommandShell.Regex

/-- What a pattern under construction is inside of. -/
inductive OpenTree where
  /-- A group, opened within a row of items that began at a place. -/
  | group (opened : Stretch) (kind : GroupKind) (verbose : Bool) (outerStart : Place)
      (outer : List Tree)
  /-- Alternatives, the latest first, of which the first began at a place. -/
  | choice (start : Place) (items : List Tree)

/-- A pattern under construction. -/
structure TreeDraft where
  /-- The open groups and alternatives, the innermost first. -/
  waiting : List OpenTree
  /-- Where the current row of items begins. -/
  start : Place
  /-- The items of the current row, the latest first. -/
  items : List Tree
  /-- The names of groups so far, with their places. -/
  names : List (Text × Stretch)

namespace TreeDraft

/-- The current row as one pattern, if it ends at a place. -/
def row (d : TreeDraft) (last : Place) : Tree :=
  match d.items.reverse with
  | [] => .empty ⟨d.start, last⟩
  | [item] => item
  | items => .concat ⟨d.start, last⟩ items

/-- The current row, with the alternatives before it, and what waits further. -/
def closeChoice (d : TreeDraft) (last : Place) : Tree × List OpenTree :=
  match d.waiting with
  | .choice start items :: waiting =>
      (.alternation ⟨start, last⟩ (d.row last :: items).reverse, waiting)
  | waiting => (d.row last, waiting)

end TreeDraft

namespace Reader

/-! ### Groups -/

/-- A character of the name of a group. -/
def isNameChar (isFirst : Bool) (c : Char) : Bool :=
  c == '_' || Unicode.nameLetters.has c ||
    (!isFirst && (c == '.' || c == '[' || c == ']' || Unicode.nameChars.has c))

/-- The characters of a name up to the bracket that closes it. -/
def nameChars : Nat → Bool → Reader Text
  | 0, _ => return []
  | fuel + 1, isFirst => do
      match ← peek with
      | none => return []
      | some c =>
          if c == '>' then return []
          if !isNameChar isFirst c then fail .groupNameInvalid (← charSpan)
          bump
          return c :: (← nameChars fuel false)

/-- The name of a group, which no group has so far; the names with it. -/
def groupName (names : List (Text × Stretch)) : Reader (List (Text × Stretch)) := do
  let start ← here
  let name ← nameChars (← get).rest.length true
  let span ← spanFrom start
  if (← peek).isNone then fail .groupNameUnclosed (← hereSpan)
  bump
  if name.isEmpty then fail .groupNameEmpty ⟨start, start⟩
  match names.find? fun entry => entry.1 = name with
  | some (_, other) => throw ⟨.groupNameDuplicate, span, some other⟩
  | none => return (name, span) :: names

/-- The flag with a letter. -/
def flag? (c : Char) : Option Flag :=
  match c with
  | 'i' => some .ignoreCase
  | 'm' => some .multiLine
  | 's' => some .dotNewline
  | 'U' => some .swapGreed
  | 'u' => some .unicode
  | 'R' => some .crlf
  | 'x' => some .verbose
  | _ => none

/-- The signs of a row of flags with their places, up to a colon or a parenthesis; `none`
stands for the hyphen.  The signs so far are given, the latest first. -/
def flagSigns : Nat → List (Option Flag × Stretch) → Reader (List (Option Flag × Stretch))
  | 0, seen => return seen
  | fuel + 1, seen => do
      match ← peek with
      | none => return seen
      | some c =>
          let span ← charSpan
          if c == ':' || c == ')' then
            match seen with
            | (none, span) :: _ => fail .flagNegationDangling span
            | _ => return seen
          else
            let sign ← if c == '-' then pure none else
              match flag? c with
              | some flag => pure (some flag)
              | none => fail .flagUnrecognized span
            if let some (_, other) := seen.find? fun entry => entry.1 = sign then
              throw ⟨if sign.isNone then .flagNegationRepeated else .flagDuplicate, span,
                some other⟩
            bump
            if (← peek).isNone then fail .flagEnd (← hereSpan)
            flagSigns fuel ((sign, span) :: seen)

/-- The flags that a row of signs sets and, behind the hyphen, clears. -/
def flagsOf (signs : List (Option Flag)) : Flags :=
  (signs.takeWhile Option.isSome).filterMap (fun sign => sign.map (·, true)) ++
    (signs.dropWhile Option.isSome).filterMap fun sign => sign.map (·, false)

/-- Let the flags of a group decide how the pattern goes on. -/
def applyVerbose (flags : Flags) : Reader Unit :=
  modify fun c => { c with verbose := (flags.lookup .verbose).getD c.verbose }

/-- An opening parenthesis and what belongs to it. -/
def openGroup (d : TreeDraft) : Reader TreeDraft := do
  let opened ← charSpan
  bump
  modify Cursor.skip
  if ← acceptAny ["?=", "?!", "?<=", "?<!"] then
    fail .lookAround (← spanFrom opened.first)
  let inner ← hereSpan
  let verbose := (← get).verbose
  let enter (kind : GroupKind) (names : List (Text × Stretch)) : Reader TreeDraft := do
    return ⟨.group opened kind verbose d.start d.items :: d.waiting, ← here, [], names⟩
  if ← acceptAny ["?P<", "?<"] then
    enter .capture (← groupName d.names)
  else if ← accept "?" then
    if (← peek).isNone then fail .groupUnclosed opened
    let signs ← flagSigns (← get).rest.length []
    let flags := flagsOf (signs.reverse.map Prod.fst)
    let close ← peek
    bump
    if close == some ')' then
      if signs.isEmpty then fail .repetitionMissing inner
      applyVerbose flags
      return { d with items := .flags (← spanFrom opened.first) flags :: d.items }
    applyVerbose flags
    enter (.flagged flags) d.names
  else
    enter .capture d.names

/-- A closing parenthesis. -/
def closeGroup (d : TreeDraft) : Reader TreeDraft := do
  match d.closeChoice (← here) with
  | (inner, .group opened kind verbose outerStart outer :: waiting) =>
      bump
      modify fun c => { c with verbose := verbose }
      let group := Tree.group (← spanFrom opened.first) kind inner
      return ⟨waiting, outerStart, group :: outer, d.names⟩
  | _ => fail .groupUnopened (← charSpan)

/-- A bar: the current row is an alternative, and another one begins. -/
def nextChoice (d : TreeDraft) : Reader TreeDraft := do
  let last ← here
  bump
  let start ← here
  match d.waiting with
  | .choice first items :: waiting =>
      return ⟨.choice first (d.row last :: items) :: waiting, start, [], d.names⟩
  | waiting => return ⟨.choice d.start [d.row last] :: waiting, start, [], d.names⟩

/-! ### Repetitions -/

/-- The item that a repetition repeats, and the items before it. -/
def repeatable (d : TreeDraft) : Reader (Tree × List Tree) := do
  match d.items with
  | [] | .empty _ :: _ | .flags .. :: _ => fail .repetitionMissing (← hereSpan)
  | item :: before => return (item, before)

/-- The current row with its last item repeated. -/
def repeatLast (d : TreeDraft) (item : Tree) (before : List Tree) (times : Repeats) :
    Reader TreeDraft := do
  let span ← spanFrom item.span.first
  return { d with items := .repeated span times item :: before }

/-- A question mark makes a repetition prefer few rounds. -/
def greedy : Reader Bool := do
  if (← peek) == some '?' then
    bump
    return false
  return true

/-- A repetition written as one sign. -/
def repetitionSign (d : TreeDraft) (least : Nat) (most : Option Nat) : Reader TreeDraft := do
  let (item, before) ← repeatable d
  bump
  repeatLast d item before ⟨least, most, ← greedy⟩

/-- A number in a count; blanks around it and, in verbose mode, within it are skipped. -/
def count : Reader (Except Fault Nat) := do
  modify Cursor.skipBlanks
  let start ← here
  let digits ← takeWhile isDigit
  let span ← spanFrom start
  modify Cursor.skipBlanks
  match digitsValue? digits with
  | none => return .error (.at .countEmpty span)
  | some n => return if n < Nat.pow 2 32 then .ok n else .error (.at .decimalInvalid span)

/-- A repetition with counts in braces. -/
def repetitionCount (d : TreeDraft) : Reader TreeDraft := do
  let start ← here
  let (item, before) ← repeatable d
  let unclosed : Reader Unit := do
    if (← peek).isNone then fail .countUnclosed (← spanFrom start)
  next
  unclosed
  let first ← count
  unclosed
  let (least, most) ← if (← peek) == some ',' then do
      next
      unclosed
      if (← peek) == some '\x7d' then
        pure (← first, none)
      else
        let least ← first
        pure (least, some (← (← count)))
    else
      let least ← first
      pure (least, some least)
  if (← peek) != some '\x7d' then fail .countUnclosed (← spanFrom start)
  next
  let greedy ← greedy
  if most.any (· < least) then fail .countInvalid (← spanFrom start)
  repeatLast d item before ⟨least, most, greedy⟩

/-! ### The pattern -/

/-- One item of a pattern. -/
def step (d : TreeDraft) (c : Char) : Reader TreeDraft := do
  let one (t : Tree) : TreeDraft := { d with items := t :: d.items }
  match c with
  | '(' => openGroup d
  | ')' => closeGroup d
  | '|' => nextChoice d
  | '[' => return one (← bracketed)
  | '?' => repetitionSign d 0 (some 1)
  | '*' => repetitionSign d 0 none
  | '+' => repetitionSign d 1 none
  | '\x7b' => repetitionCount d
  | '\\' => return one (← escape)
  | _ =>
      let span ← charSpan
      bump
      match c with
      | '.' => return one (.dot span)
      | '^' => return one (.assertion span .lineStart)
      | '$' => return one (.assertion span .lineEnd)
      | _ => return one (.literal ⟨span, c, false⟩)

/-- The rest of a pattern, in at most so many steps. -/
def steps : Nat → TreeDraft → Reader TreeDraft
  | 0, d => return d
  | fuel + 1, d => do
      modify Cursor.skip
      match ← peek with
      | none => return d
      | some c => steps fuel (← step d c)

/-- The end of a pattern: all groups must be closed. -/
def finish (d : TreeDraft) : Reader Tree := do
  match d.closeChoice (← here) with
  | (t, []) => return t
  | (_, .group opened .. :: _) => fail .groupUnclosed opened
  | (_, .choice .. :: _) => fail .groupUnclosed (← hereSpan)

end Reader

/-! ### Nesting -/

/-- The greatest depth to which groups, classes, repetitions and rows may be nested. -/
def depthLimit : Nat := 250

/-- One level further down, if the limit allows it. -/
def deeper (depth : Nat) (span : Stretch) : Except Fault Nat :=
  if depth < depthLimit then .ok (depth + 1) else .error (.at (.tooDeep depthLimit) span)

mutual

/-- The class is nested within the limit. -/
def ClassTree.checkDepth (depth : Nat) : ClassTree → Except Fault Unit
  | .empty _ | .literal _ | .range .. | .ascii .. | .leaf _ => .ok ()
  | .bracketed span _ inner => do inner.checkDepth (← deeper depth span)
  | .union span items => do ClassTree.checkDepthAll (← deeper depth span) items
  | .op span _ left right => do
      let depth ← deeper depth span
      left.checkDepth depth
      right.checkDepth depth

/-- The classes are nested within the limit. -/
def ClassTree.checkDepthAll (depth : Nat) : List ClassTree → Except Fault Unit
  | [] => .ok ()
  | t :: rest => do
      t.checkDepth depth
      ClassTree.checkDepthAll depth rest

end

mutual

/-- The pattern is nested within the limit. -/
def Tree.checkDepth (depth : Nat) : Tree → Except Fault Unit
  | .empty _ | .flags .. | .literal _ | .dot _ | .assertion .. | .leaf _ => .ok ()
  | .bracketed span _ inner => do inner.checkDepth (← deeper depth span)
  | .repeated span _ inner | .group span _ inner => do inner.checkDepth (← deeper depth span)
  | .alternation span items | .concat span items => do
      Tree.checkDepthAll (← deeper depth span) items

/-- The patterns are nested within the limit. -/
def Tree.checkDepthAll (depth : Nat) : List Tree → Except Fault Unit
  | [] => .ok ()
  | t :: rest => do
      t.checkDepth depth
      Tree.checkDepthAll depth rest

end

/-- The tree of a pattern. -/
def Tree.ofText (pattern : Text) : Except Fault Tree := do
  let draft : TreeDraft := ⟨[], .start, [], []⟩
  let read : Reader Tree := do
    Reader.finish (← Reader.steps (pattern.length + 1) draft)
  let (tree, _) ← read.run ⟨.start, pattern, false⟩
  tree.checkDepth 0
  return tree

end CommandShell.Regex
