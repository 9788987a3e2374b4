import CommandShell.Regex.Pattern
import Std.Data.HashSet

/-!
# Which match is preferred

Of the matches that begin earliest, the preferred one takes the first alternative that leads
to a match, and as many rounds of a repetition as possible, or as few.  To find it, a pattern
becomes a program whose branches list their targets in the order of preference.  The program
is run depth first, and no instruction is tried twice at one place: what failed once fails
again.

## Main definitions

* `Instr`, `Program` — programs.
* `Pattern.program` — the program of a pattern.
* `Program.matchFrom` — the preferred match that begins at or after a place.
* `Program.spans` — the matches in a text, one after the other.
-/

namespace CommandShell.Regex

open Unicode (CharSet)

/-- An instruction. -/
inductive Instr where
  /-- Pass a character of a set. -/
  | one (s : CharSet) (next : Nat)
  /-- Go on if a condition holds. -/
  | look (l : Look) (next : Nat)
  /-- Try one instruction, then another. -/
  | branch (first second : Nat)
  /-- A match ends here. -/
  | accept
  deriving Repr

/-- A program: its instructions and the one to start with. -/
structure Program where
  /-- The instructions. -/
  instrs : Array Instr
  /-- The instruction to start with. -/
  entry : Nat
  deriving Repr

/-! ### From patterns to programs -/

/-- A computation that adds instructions to a program. -/
abbrev Assembly := StateM (Array Instr)

namespace Assembly

/-- Add an instruction. -/
def emit (i : Instr) : Assembly Nat := modifyGet fun instrs => (instrs.size, instrs.push i)

/-- Replace an instruction. -/
def patch (at_ : Nat) (i : Instr) : Assembly Unit := modify fun instrs => instrs.setIfInBounds at_ i

/-- A branch between a further round and the way out. -/
def fork (greedy : Bool) (again out : Nat) : Instr :=
  if greedy then .branch again out else .branch out again

/-- So many rounds, one after the other, before an instruction. -/
def times (round : Nat → Assembly Nat) : Nat → Nat → Assembly Nat
  | 0, next => return next
  | n + 1, next => do times round n (← round next)

/-- Up to so many rounds, each of which may be the last, before an instruction. -/
def upTo (round : Nat → Assembly Nat) (greedy : Bool) (out : Nat) : Nat → Nat → Assembly Nat
  | 0, next => return next
  | n + 1, next => do
      let again ← round next
      upTo round greedy out n (← emit (fork greedy again out))

/-- One or more rounds before an instruction; the first round and the branch after each. -/
def oneOrMore (round : Nat → Assembly Nat) (greedy : Bool) (next : Nat) :
    Assembly (Nat × Nat) := do
  let slot ← emit .accept
  let again ← round slot
  patch slot (fork greedy again next)
  return (again, slot)

end Assembly

open Assembly

/-- The instructions of a pattern before an instruction; the first of them.  A repetition of a
pattern that may match the empty text enters its first round by a branch of its own, so that a
round of nothing does not hide the other ways to go on. -/
def Pattern.assemble : Pattern → Nat → Assembly Nat
  | .empty, next => return next
  | .one s, next => emit (.one s next)
  | .look l, next => emit (.look l next)
  | .seq p q, next => do p.assemble (← q.assemble next)
  | .alt p q, next => do
      let first ← p.assemble next
      let second ← q.assemble next
      emit (.branch first second)
  | .repeated ⟨least, most, greedy⟩ p, next => do
      match most with
      | some most =>
          let rest ← upTo p.assemble greedy next (most - least) next
          times p.assemble least rest
      | none =>
          let (first, slot) ← oneOrMore p.assemble greedy next
          match least with
          | 0 => if p.consumes then return slot else emit (fork greedy first next)
          | n + 1 => times p.assemble n first
  | .capture p, next => p.assemble next

/-- The program of a pattern. -/
def Pattern.program (p : Pattern) : Program :=
  let build : Assembly Nat := do p.assemble (← emit .accept)
  let (entry, instrs) := build.run #[]
  ⟨instrs, entry⟩

/-! ### Running a program -/

namespace Program

/-- The instructions that an instruction leads to at a place, with the places, in the order of
preference; `none` if a match ends. -/
def targets (p : Program) (t : Array Char) (pc pos : Nat) : Option (List (Nat × Nat)) :=
  match p.instrs[pc]? with
  | none => some []
  | some .accept => none
  | some (.branch first second) => some [(first, pos), (second, pos)]
  | some (.look l next) =>
      let before := if pos = 0 then none else t[pos - 1]?
      some (if l.holds before t[pos]? then [(next, pos)] else [])
  | some (.one s next) => some (if t[pos]?.any s.has then [(next, pos + 1)] else [])

/-- Run the program depth first from a stack of instructions and places, passing over those
that have been seen.  The end of the match, if there is one, and what has been seen. -/
def search (p : Program) (t : Array Char) :
    Nat → List (Nat × Nat) → Std.HashSet Nat → Option Nat × Std.HashSet Nat
  | 0, _, seen => (none, seen)
  | _, [], seen => (none, seen)
  | fuel + 1, (pc, pos) :: stack, seen =>
      let key := pc * (t.size + 1) + pos
      if seen.contains key then search p t fuel stack seen
      else match p.targets t pc pos with
        | none => (some pos, seen)
        | some next => search p t fuel (next ++ stack) (seen.insert key)

/-- A bound on the steps of a run: each instruction is tried once at each place and leads to
at most two others. -/
def fuel (p : Program) (t : Array Char) : Nat := 2 * p.instrs.size * (t.size + 1) + 2

/-- The preferred match that begins at one of so many places from `start` on. -/
def matchWithin (p : Program) (t : Array Char) :
    Nat → Nat → Std.HashSet Nat → Option (Nat × Nat)
  | 0, _, _ => none
  | n + 1, start, seen =>
      match p.search t (p.fuel t) [(p.entry, start)] seen with
      | (some stop, _) => some (start, stop)
      | (none, seen) => p.matchWithin t n (start + 1) seen

/-- The preferred match that begins at or after a place. -/
def matchFrom (p : Program) (t : Array Char) (start : Nat) : Option (Nat × Nat) :=
  p.matchWithin t (t.size + 1 - start) start ∅

/-- The next match from a place on.  The empty text right after a match is no match of its
own. -/
def nextMatch (p : Program) (t : Array Char) (start : Nat) (last : Option Nat) :
    Option (Nat × Nat) :=
  match p.matchFrom t start with
  | none => none
  | some (first, stop) =>
      if first = stop ∧ last = some stop then p.matchFrom t (start + 1) else some (first, stop)

/-- At most so many further matches. -/
def spansFrom (p : Program) (t : Array Char) : Nat → Nat → Option Nat → List (Nat × Nat)
  | 0, _, _ => []
  | n + 1, start, last =>
      match p.nextMatch t start last with
      | none => []
      | some (first, stop) => (first, stop) :: p.spansFrom t n stop (some stop)

/-- The matches in a text, one after the other, by their first place and the place after
them. -/
def spans (p : Program) (t : Text) : List (Nat × Nat) :=
  let t := t.toArray
  p.spansFrom t (t.size + 2) 0 none

end Program

end CommandShell.Regex
