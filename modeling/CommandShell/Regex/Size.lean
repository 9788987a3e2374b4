import CommandShell.Regex.Form
import Std.Data.HashMap

/-!
# The size of a pattern

A pattern is refused if the automaton over bytes that it stands for is too big, forwards or
backwards.  The automaton is not built, only its size is kept: every state has a fixed size,
and so has every way that leads out of a branch or out of a state that reads bytes of several
ranges.  States are numbered in the order in which they are added.

Sets of characters share states.  Forwards, two states with the same ways out are one;
backwards, a state that reads a range and leads on to another state is there once.  What is
known is kept in a fixed number of slots, and a newcomer takes the slot of what was there, so
which states are shared depends on their numbers.

## Main definitions

* `Tally` — the size so far; `Tally.grow` refuses to pass the limit.
* `addForwards`, `addBackwards` — the states of a set of characters.
* `wordsCost` — the size of a choice between texts.
* `Form.add` — the states of a form.
* `Pattern.fits` — the pattern is within the limit.
-/

namespace CommandShell.Regex

/-! ### Counting -/

/-- The size so far. -/
structure Tally where
  /-- The number of states; the next state has this number. -/
  states : Nat
  /-- The size of the ways that lead out of states. -/
  ways : Nat
  deriving DecidableEq, Repr

namespace Tally

/-- The size of a state. -/
def stateSize : Nat := 32

/-- The size of one way out of a branch. -/
def branchSize : Nat := 4

/-- The size of one way out of a state that reads bytes of several ranges. -/
def rangeSize : Nat := 8

/-- The greatest size of an automaton. -/
def limit : Nat := 10 * Nat.pow 2 20

/-- The size of everything so far. -/
def size (t : Tally) : Nat := stateSize * t.states + t.ways

/-- Some states and ways more, within the limit. -/
def grow (t : Tally) (states ways : Nat) : Option Tally :=
  let more : Tally := ⟨t.states + states, t.ways + ways⟩
  if more.size ≤ limit then some more else none

/-- A branch with two ways out. -/
def fork (t : Tally) : Option Tally := t.grow 1 (2 * branchSize)

/-- A step again and again, as long as it is possible. -/
def rounds (step : Tally → Option Tally) : Nat → Tally → Option Tally
  | 0, t => some t
  | n + 1, t =>
      match step t with
      | none => none
      | some more => rounds step n more

end Tally

/-! ### Sets of characters -/

/-- The slot of a row of numbers, among so many. -/
def slotOf (slots : Nat) (numbers : List Nat) : Nat :=
  let mixed := numbers.foldl (fun h n => (h ^^^ n.toUInt64) * 1099511628211) 14695981039346656037
  mixed.toNat % slots

/-- The size so far, with what is known in the slots: a row of numbers that describes a state,
and the number of the state. -/
structure Sharing where
  /-- The size so far. -/
  tally : Tally
  /-- What each slot holds. -/
  known : Std.HashMap Nat (List Nat × Nat)

/-- The state that a row of numbers describes: the known one, or a new one with so large ways
out. -/
def Sharing.state (slots ways : Nat) (numbers : List Nat) : StateT Sharing Option Nat := do
  let s ← get
  let slot := slotOf slots numbers
  let known := (s.known[slot]?).bind fun (described, number) =>
    if described = numbers then some number else none
  match known with
  | some number => return number
  | none =>
      let tally ← s.tally.grow 1 ways
      set (Sharing.mk tally (s.known.insert slot (numbers, s.tally.states)))
      return s.tally.states

/-- The state that reads rows of at most so many ranges and then goes on to another state. -/
def forwardState (target : Nat) : Nat → List ByteRow → StateT Sharing Option Nat
  | 0, _ => return target
  | depth + 1, rows =>
      if rows.all List.isEmpty then return target else do
        let ways ← (grouped rows).mapM fun (range, rest) => do
          return [range.1, range.2, ← forwardState target depth rest]
        Sharing.state 10000 (Tally.rangeSize * ways.length) ways.flatten

/-- The states that read the rows of a set forwards. -/
def addForwards (rows : List ByteRow) (t : Tally) : Option Tally := do
  let more ← t.grow 1 0
  let (_, s) ← (forwardState t.states 4 rows).run ⟨more, ∅⟩
  return s.tally

/-- The state that reads a row backwards: its last range first, and then on to another
state. -/
def backwardState : Nat → ByteRow → StateT Sharing Option Nat
  | target, [] => return target
  | target, range :: row => do
      backwardState (← Sharing.state 1000 0 [target, range.1, range.2]) row

/-- The states that read the rows of a set backwards: a branch that leads to each row, and the
place where all rows lead. -/
def addBackwards (rows : List ByteRow) (t : Tally) : Option Tally := do
  let more ← t.grow 2 0
  let all := rows.forM fun row => do
    let _ ← backwardState (t.states + 1) row
    let s ← get
    set (Sharing.mk (← s.tally.grow 0 Tally.branchSize) s.known)
  let (_, s) ← all.run ⟨more, ∅⟩
  return s.tally

/-! ### Choices between texts -/

/-- Texts that share a beginning, without it, cut wherever one of them ends: what comes before
such an end is preferred to it.  Where nothing goes on, ends after the first add nothing. -/
def stretches (words : List (List Nat)) : List (List (List Nat)) :=
  let (ended, current) := words.foldl
    (fun (ended, current) word =>
      if !word.isEmpty then (ended, current ++ [word])
      else if current.isEmpty && !ended.isEmpty && ended.all List.isEmpty then (ended, current)
      else (ended ++ [current], []))
    ([], [])
  ended ++ [current]

/-- The first bytes of some texts, each once. -/
def heads (words : List (List Nat)) : List Nat :=
  words.foldl (fun found word =>
    match word with
    | [] => found
    | b :: _ => if found.contains b then found else found ++ [b]) []

/-- What follows a first byte. -/
def tails (b : Nat) (words : List (List Nat)) : List (List Nat) :=
  words.filterMap fun word =>
    match word with
    | [] => none
    | c :: rest => if c = b then some rest else none

/-- States and ways out of the states for a choice between texts of at most so many bytes.
Each stretch is a state that reads its first bytes, and a branch leads to the stretches and to
the ends between them. -/
def wordsCost : Nat → List (List Nat) → Nat × Nat
  | 0, _ => (0, 0)
  | length + 1, words =>
      let parts := stretches words
      let reading := parts.filter fun part => !part.isEmpty
      let branch := (1, Tally.branchSize * (reading.length + parts.length - 1))
      reading.foldl (fun cost part =>
        let bytes := heads part
        let ways := if bytes.length = 1 then 0 else Tally.rangeSize * bytes.length
        bytes.foldl (fun cost b =>
          let rest := tails b part
          if rest.all List.isEmpty then cost
          else
            let inner := wordsCost length rest
            (cost.1 + inner.1, cost.2 + inner.2))
          (cost.1 + 1, cost.2 + ways)) branch

/-- The states for a choice between texts. -/
def addWords (words : List (List Nat)) (t : Tally) : Option Tally :=
  let longest := words.foldl (fun n word => max n word.length) 0
  let (states, ways) := wordsCost (longest + 1) words
  t.grow (states + 1) ways

/-! ### Forms -/

mutual

/-- The states of a form; only forwards is anything captured. -/
def Form.add (backwards : Bool) : Form → Tally → Option Tally
  | .empty, t | .look, t => t.grow 1 0
  | .bytes values, t => t.grow values.length 0
  | .ranges count, t => t.grow 2 (Tally.rangeSize * count)
  | .rows all, t => if backwards then addBackwards all t else addForwards all t
  | .repeated times consumes inner, t =>
      match times.least, times.most with
      | 0, none =>
          if consumes then do inner.add backwards (← t.fork)
          else do (← (← (← inner.add backwards t).fork).fork).grow 1 0
      | least, none => do (← Tally.rounds (inner.add backwards) least t).fork
      | least, some most =>
          if most ≤ least then Tally.rounds (inner.add backwards) least t
          else if least = 0 ∧ most = 1 then do (← inner.add backwards (← t.fork)).grow 1 0
          else do
            let front ← if least = 0 then t.grow 1 0
              else Tally.rounds (inner.add backwards) least t
            Tally.rounds (fun t => do inner.add backwards (← t.fork)) (most - least)
              (← front.grow 1 0)
  | .capture inner, t =>
      if backwards then inner.add backwards t
      else do (← inner.add backwards (← t.grow 1 0)).grow 1 0
  | .concat items, t =>
      if backwards then Form.addLastFirst items t else Form.addAll items t
  | .choice arms, t =>
      let words := arms.filterMap bytes?
      if words.length = arms.length then
        addWords (if backwards then words.map List.reverse else words) t
      else Form.addArms backwards 1 arms t

/-- The states of several forms, forwards. -/
def Form.addAll : List Form → Tally → Option Tally
  | [], t => some t
  | f :: rest, t => do Form.addAll rest (← f.add false t)

/-- The states of several forms, backwards. -/
def Form.addLastFirst : List Form → Tally → Option Tally
  | [], t => some t
  | f :: rest, t => do f.add true (← Form.addLastFirst rest t)

/-- The states of the arms of a choice, counted from one; the branch and the place where the
arms meet come after the second. -/
def Form.addArms (backwards : Bool) : Nat → List Form → Tally → Option Tally
  | _, [], t => some t
  | count, f :: rest, t => do
      let more ← (← f.add backwards t).grow (if count = 2 then 2 else 0) Tally.branchSize
      Form.addArms backwards (count + 1) rest more

end

/-! ### Patterns -/

namespace Pattern

/-- Every match begins at the start of the text. -/
def isAnchored : Pattern → Bool
  | .look l => l = .textStart
  | .empty | .one _ => false
  | .seq p q => p.isAnchored || (p.isZeroWidth && q.isAnchored)
  | .alt p q => p.isAnchored && q.isAnchored
  | .repeated times p => times.least != 0 && p.isAnchored
  | .capture p => p.isAnchored

/-- Every match ends at the end of the text. -/
def isAnchoredAtEnd : Pattern → Bool
  | .look l => l = .textEnd
  | .empty | .one _ => false
  | .seq p q => q.isAnchoredAtEnd || (q.isZeroWidth && p.isAnchoredAtEnd)
  | .alt p q => p.isAnchoredAtEnd && q.isAnchoredAtEnd
  | .repeated times p => times.least != 0 && p.isAnchoredAtEnd
  | .capture p => p.isAnchoredAtEnd

/-- The states before a pattern: a loop that passes any byte, or nothing if a match can begin
in one place only. -/
def lead (anchored : Bool) : Option Tally :=
  if anchored then Tally.grow ⟨0, 0⟩ 1 0
  else Tally.grow ⟨0, 0⟩ 3 (2 * Tally.branchSize + Tally.rangeSize)

/-- The automaton is within the limit in both directions.  Forwards the whole match is captured
too; a last state accepts. -/
def fits (p : Pattern) : Bool :=
  let form := p.form
  let forwards := do
    (← form.add false (← (← lead p.isAnchored).grow 1 0)).grow 2 0
  let backwards := do (← form.add true (← lead p.isAnchoredAtEnd)).grow 1 0
  forwards.isSome && backwards.isSome

end Pattern

end CommandShell.Regex
