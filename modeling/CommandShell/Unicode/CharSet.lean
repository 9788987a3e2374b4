import CommandShell.Text.Basic

/-!
# Sets of characters

A set of characters is a list of ranges of code points, in increasing order and apart from
each other.  The surrogate code points, which are no characters, are in no set.

## Main definitions

* `CharSet`, `CharSet.has` — the sets and membership.
* `CharSet.ofRanges` — the set of all characters in some ranges.
* `CharSet.union`, `inter`, `compl`, `diff`, `symmDiff` — the set operations.
* `CharSet.ofTable` — a set from its written form, ranges of hexadecimal code points.
-/

namespace CommandShell.Unicode

/-- A set of characters. -/
structure CharSet where
  /-- First and last code point of each range. -/
  ranges : List (Nat × Nat)
  deriving DecidableEq, Repr

namespace CharSet

/-- A code point lies in one of the ranges, which are in increasing order. -/
def inRanges (n : Nat) : List (Nat × Nat) → Bool
  | [] => false
  | (low, high) :: rest => if n < low then false else n ≤ high || inRanges n rest

/-- The character is in the set. -/
def has (s : CharSet) (c : Char) : Bool := inRanges c.toNat s.ranges

/-- The set without characters. -/
def empty : CharSet := ⟨[]⟩

/-- All characters: every code point but the surrogates. -/
def all : CharSet := ⟨[(0, 0xD7FF), (0xE000, 0x10FFFF)]⟩

/-- The set without characters has no range. -/
def isEmpty (s : CharSet) : Bool := s.ranges.isEmpty

/-- Ranges that stand in increasing order of their starts, made into ranges apart from each
other: a range that starts inside or right after another is joined to it. -/
def coalesce : List (Nat × Nat) → List (Nat × Nat)
  | [] => []
  | [r] => [r]
  | (a, b) :: (c, d) :: rest =>
      if c ≤ b + 1 then coalesce ((a, max b d) :: rest)
      else (a, b) :: coalesce ((c, d) :: rest)
termination_by l => l.length

/-- The code points in both of two lists of ranges. -/
def interRanges : List (Nat × Nat) → List (Nat × Nat) → List (Nat × Nat)
  | [], _ => []
  | _ :: _, [] => []
  | (a, b) :: xs, (c, d) :: ys =>
      let rest := if b < d then interRanges xs ((c, d) :: ys) else interRanges ((a, b) :: xs) ys
      if max a c ≤ min b d then (max a c, min b d) :: rest else rest
termination_by xs ys => xs.length + ys.length

/-- The ranges between the given ones, from a code point on. -/
def gapsFrom (start : Nat) : List (Nat × Nat) → List (Nat × Nat)
  | [] => if start ≤ 0x10FFFF then [(start, 0x10FFFF)] else []
  | (low, high) :: rest =>
      if start < low then (start, low - 1) :: gapsFrom (high + 1) rest
      else gapsFrom (max start (high + 1)) rest

/-- Two lists of ranges in one, by increasing starts. -/
def mergeRanges : List (Nat × Nat) → List (Nat × Nat) → List (Nat × Nat)
  | [], ys => ys
  | x :: xs, [] => x :: xs
  | x :: xs, y :: ys =>
      if x.1 ≤ y.1 then x :: mergeRanges xs (y :: ys) else y :: mergeRanges (x :: xs) ys
termination_by xs ys => xs.length + ys.length

/-- The characters of either set. -/
def union (s t : CharSet) : CharSet := ⟨coalesce (mergeRanges s.ranges t.ranges)⟩

/-- The characters of both sets. -/
def inter (s t : CharSet) : CharSet := ⟨interRanges s.ranges t.ranges⟩

/-- The characters that are not in the set. -/
def compl (s : CharSet) : CharSet := ⟨interRanges (gapsFrom 0 s.ranges) all.ranges⟩

/-- The characters of the first set that are not in the second. -/
def diff (s t : CharSet) : CharSet := s.inter t.compl

/-- The characters of exactly one of two sets. -/
def symmDiff (s t : CharSet) : CharSet := (s.union t).diff (s.inter t)

/-- The characters in any of the ranges. -/
def ofRanges (ranges : List (Nat × Nat)) : CharSet :=
  let sorted := ranges.mergeSort fun r s => r.1 ≤ s.1
  ⟨interRanges (coalesce sorted) all.ranges⟩

/-- The set of one character. -/
def singleton (c : Char) : CharSet := ⟨[(c.toNat, c.toNat)]⟩

/-- The characters between two, both included. -/
def range (first last : Char) : CharSet := ofRanges [(first.toNat, last.toNat)]

/-- The union of several sets. -/
def unionAll (sets : List CharSet) : CharSet := ofRanges (sets.flatMap CharSet.ranges)

/-- The set lies within ASCII. -/
def isAscii (s : CharSet) : Bool := s.ranges.all fun r => r.2 < 0x80

/-- The one character of a set that has exactly one. -/
def single? (s : CharSet) : Option Char :=
  match s.ranges with
  | [(low, high)] => if low = high then some (Char.ofNat low) else none
  | _ => none

/-! ### The written form -/

/-- The value of a hexadecimal digit, or `none` for any other character. -/
def hexValue? (c : Char) : Option Nat :=
  if '0' ≤ c && c ≤ '9' then some (c.toNat - '0'.toNat)
  else if 'A' ≤ c && c ≤ 'F' then some (c.toNat - 'A'.toNat + 10)
  else if 'a' ≤ c && c ≤ 'f' then some (c.toNat - 'a'.toNat + 10)
  else none

/-- The value of a row of hexadecimal digits; other characters count as zero. -/
def hexValue (t : Text) : Nat := t.foldl (fun n c => n * 16 + (hexValue? c).getD 0) 0

/-- A range written as one code point or as two with a hyphen between them. -/
def readRange (t : Text) : Nat × Nat :=
  match cutAt '-' t with
  | none => (hexValue t, hexValue t)
  | some (low, high) => (hexValue low, hexValue high)

/-- A set from its ranges, in increasing order, on lines with a blank between neighbours. -/
def ofTable (lines : List String) : CharSet :=
  ⟨lines.flatMap fun line => (line.toList.splitOn ' ').map readRange⟩

end CharSet

end CommandShell.Unicode
