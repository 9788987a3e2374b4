import CommandShell.Regex.Tree
import CommandShell.Unicode.CaseFold

/-!
# Patterns

What a pattern means, free of the way in which it is written.

## Main definitions

* `Look`, `Look.holds` — a condition on the two neighbours of a place.
* `Pattern` — the patterns.
* `Pattern.text`, `Pattern.anyOf`, `Pattern.row` — patterns from their parts.
* `Pattern.isZeroWidth`, `Pattern.consumes` — patterns that match nothing but the empty text,
  and patterns that are seen not to match it.
* `Pattern.repeating`, `Pattern.concat`, `Pattern.choice` — a repetition, a row and a choice in
  short form: without rounds that cannot matter, without rows inside rows and choices inside
  choices, and with what all alternatives begin with in front of the choice.
-/

namespace CommandShell.Regex

open Unicode (CharSet)

/-! ### Conditions on a place -/

/-- Conditions on the word characters around a place. -/
inductive WordEdge where
  /-- Exactly one neighbour is a word character. -/
  | boundary
  /-- Both or none are. -/
  | inside
  /-- The one after is, the one before is not. -/
  | start
  /-- The one before is, the one after is not. -/
  | stop
  /-- The one before is not. -/
  | startHalf
  /-- The one after is not. -/
  | stopHalf
  deriving DecidableEq, Repr

/-- A condition on the two neighbours of a place. -/
inductive Look where
  /-- Nothing stands before. -/
  | textStart
  /-- Nothing stands after. -/
  | textEnd
  /-- Nothing or a newline stands before. -/
  | lineStart
  /-- Nothing or a newline stands after. -/
  | lineEnd
  /-- A line starts, where a carriage return, a newline, or both in a row end lines. -/
  | lineStartCrlf
  /-- A line ends, in the same sense. -/
  | lineEndCrlf
  /-- A condition on the word characters around, of ASCII or of all characters. -/
  | word (edge : WordEdge) (ascii : Bool)
  deriving DecidableEq, Repr

/-- The letters, digits and underscore of ASCII. -/
def asciiWordChars : CharSet := .ofRanges [(0x30, 0x39), (0x41, 0x5A), (0x5F, 0x5F), (0x61, 0x7A)]

/-- A neighbour, if there is one, is a word character. -/
def isWordAt (ascii : Bool) (neighbour : Option Char) : Bool :=
  neighbour.any (if ascii then asciiWordChars else Unicode.wordChars).has

/-- The condition on two neighbours, given whether they are word characters. -/
def WordEdge.holds (edge : WordEdge) (before after : Bool) : Bool :=
  match edge with
  | .boundary => before != after
  | .inside => before == after
  | .start => !before && after
  | .stop => before && !after
  | .startHalf => !before
  | .stopHalf => !after

/-- The condition holds between two neighbours, `none` standing for the end of the text. -/
def Look.holds (look : Look) (before after : Option Char) : Bool :=
  match look with
  | .textStart => before.isNone
  | .textEnd => after.isNone
  | .lineStart => before.all (· == '\n')
  | .lineEnd => after.all (· == '\n')
  | .lineStartCrlf => before.all fun c => c == '\n' || (c == '\r' && after != some '\n')
  | .lineEndCrlf => after.all fun c => c == '\r' || (c == '\n' && before != some '\r')
  | .word edge ascii => edge.holds (isWordAt ascii before) (isWordAt ascii after)

/-! ### Patterns -/

/-- A pattern. -/
inductive Pattern where
  /-- The empty text. -/
  | empty
  /-- One character of a set. -/
  | one (s : CharSet)
  /-- The empty text at a place where a condition holds. -/
  | look (l : Look)
  /-- One pattern, then another. -/
  | seq (first second : Pattern)
  /-- One pattern, preferably, or another. -/
  | alt (first second : Pattern)
  /-- Several rounds of a pattern. -/
  | repeated (times : Repeats) (inner : Pattern)
  /-- A pattern that captures what it matches. -/
  | capture (inner : Pattern)
  deriving DecidableEq, Repr

namespace Pattern

/-- Several patterns, one after the other. -/
def row : List Pattern → Pattern
  | [] => .empty
  | [p] => p
  | p :: rest => .seq p (row rest)

/-- Several patterns, the earlier ones preferred. -/
def anyOf : List Pattern → Pattern
  | [] => .one .empty
  | [p] => p
  | p :: rest => .alt p (anyOf rest)

/-- A character that matches without regard to case, if so wished. -/
def char (ignoreCase : Bool) (c : Char) : Pattern :=
  .one (if ignoreCase && Unicode.hasCase c then (CharSet.singleton c).closeUnderCase
    else .singleton c)

/-- A text, each of whose characters stands for itself. -/
def text (ignoreCase : Bool) (t : Text) : Pattern := row (t.map (char ignoreCase))

/-- The pattern matches the empty text and nothing else. -/
def isZeroWidth : Pattern → Bool
  | .empty | .look _ => true
  | .one _ => false
  | .seq p q | .alt p q => p.isZeroWidth && q.isZeroWidth
  | .repeated _ p | .capture p => p.isZeroWidth

/-- The least number of characters that a match can have, or `none` if some part of the pattern
that a match needs has no match at all. -/
def leastLength : Pattern → Option Nat
  | .empty | .look _ => some 0
  | .one s => if s.isEmpty then none else some 1
  | .seq p q => return (← p.leastLength) + (← q.leastLength)
  | .alt p q => return min (← p.leastLength) (← q.leastLength)
  | .repeated times p => return times.least * (← p.leastLength)
  | .capture p => p.leastLength

/-- The pattern is seen not to match the empty text. -/
def consumes (p : Pattern) : Bool := p.leastLength.any (0 < ·)

/-! ### Short forms -/

/-- Several rounds of a pattern.  Of a pattern that matches the empty text only, one round is
as good as several; no round is the empty text, and one round the pattern itself. -/
def repeating (times : Repeats) (p : Pattern) : Pattern :=
  let times := if p.isZeroWidth then
      { times with least := min times.least 1, most := some ((times.most.getD 1).min 1) }
    else times
  if times.most = some 0 then .empty
  else if times.least = 1 ∧ times.most = some 1 then p
  else .repeated times p

/-- What a row is made of. -/
def items : Pattern → List Pattern
  | .empty => []
  | .seq p q => p.items ++ q.items
  | p => [p]

/-- The alternatives of a choice. -/
def alternatives : Pattern → List Pattern
  | .alt p q => p.alternatives ++ q.alternatives
  | p => [p]

/-- Several patterns, one after the other, as one row. -/
def concat (ps : List Pattern) : Pattern := row (ps.flatMap items)

/-- The set of a pattern that matches one character of a set. -/
def set? : Pattern → Option CharSet
  | .one s => some s
  | _ => none

/-- The pattern matches exactly one character. -/
def isChar (p : Pattern) : Bool := p.set?.any fun s => s.single?.isSome

/-- The pattern captures something somewhere. -/
def captures : Pattern → Bool
  | .empty | .one _ | .look _ => false
  | .seq p q | .alt p q => p.captures || q.captures
  | .repeated _ p => p.captures
  | .capture _ => true

/-- The number of parts of a pattern. -/
def weight : Pattern → Nat
  | .empty | .one _ | .look _ => 1
  | .seq p q | .alt p q => p.weight + q.weight + 1
  | .repeated _ p | .capture p => p.weight + 1

/-- A row cut into pieces: characters that stand next to each other are one piece. -/
def pieces : List Pattern → List (List Pattern)
  | [] => []
  | p :: rest =>
      match pieces rest with
      | (q :: piece) :: others =>
          if p.isChar && q.isChar then (p :: q :: piece) :: others
          else [p] :: (q :: piece) :: others
      | others => [p] :: others

/-- The pieces that two rows begin with.  What captures is never the same twice. -/
def sharedFront : List (List Pattern) → List (List Pattern) → List (List Pattern)
  | x :: xs, y :: ys => if x = y && !x.any captures then x :: sharedFront xs ys else []
  | _, _ => []

/-- The pieces that all of several rows begin with, if each row has at least two pieces. -/
def commonFront (rows : List (List (List Pattern))) : List (List Pattern) :=
  match rows with
  | [] => []
  | first :: others =>
      if rows.any fun row => row.length < 2 then [] else others.foldl sharedFront first

/-- A choice in short form; the depth to which alternatives are looked into is bounded. -/
def choiceWithin : Nat → List Pattern → Pattern
  | 0, ps => anyOf (ps.flatMap alternatives)
  | depth + 1, ps =>
      let arms := ps.flatMap alternatives
      let sets := arms.filterMap set?
      if arms.length < 2 then anyOf arms
      else if arms.all isChar || (sets.length = arms.length && !arms.any isChar) then
        .one (.unionAll sets)
      else
        let rows := arms.map fun p => pieces p.items
        let front := commonFront rows
        if front.isEmpty then anyOf arms
        else
          let rests := rows.map fun r => concat (r.drop front.length).flatten
          concat (front.flatten ++ [choiceWithin depth rests])

/-- Several patterns, the earlier ones preferred, in short form: characters become a set of
characters, sets become one set, and what all begin with stands in front. -/
def choice (ps : List Pattern) : Pattern :=
  choiceWithin (ps.foldl (fun n p => n + p.weight) 1) ps

end Pattern

end CommandShell.Regex
