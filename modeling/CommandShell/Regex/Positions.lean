import CommandShell.Regex.Pattern

/-!
# Whether a pattern matches

A pattern is read as a function on sets of places in a text: from the places where a match of
it may begin to those where it may end.  This decides whether a text has a match, without
asking which one is preferred.

A set of places is a list of marks, one for each place; a text of `n` characters has `n + 1`
places.

## Main definitions

* `neighbours` — the characters before and after each place.
* `Pattern.ends` — the places where a match may end, given those where it may begin.
* `Pattern.occursIn` — the pattern matches somewhere in a text.
-/

namespace CommandShell.Regex

open Unicode (CharSet)

/-- The neighbours of each place of a text, given the character before it. -/
def neighboursFrom : Option Char → Text → List (Option Char × Option Char)
  | before, [] => [(before, none)]
  | before, c :: rest => (before, some c) :: neighboursFrom (some c) rest

/-- The neighbours of each place of a text. -/
def neighbours (t : Text) : List (Option Char × Option Char) := neighboursFrom none t

/-- The places after the characters of a set that stand at marked places. -/
def after (s : CharSet) (t : Text) (marks : List Bool) : List Bool :=
  false :: List.zipWith (fun c mark => mark && s.has c) t marks

/-- The marked places where a condition holds. -/
def restrict (l : Look) (t : Text) (marks : List Bool) : List Bool :=
  List.zipWith (fun n mark => mark && l.holds n.1 n.2) (neighbours t) marks

/-- The places that are marked in either of two ways. -/
def either (marks others : List Bool) : List Bool := List.zipWith (· || ·) marks others

/-- So many rounds of a step. -/
def rounds (f : List Bool → List Bool) : Nat → List Bool → List Bool
  | 0, marks => marks
  | n + 1, marks => rounds f n (f marks)

/-- At most so many rounds of a step, stopping when a round adds no place. -/
def spread (f : List Bool → List Bool) : Nat → List Bool → List Bool
  | 0, marks => marks
  | n + 1, marks =>
      let more := either marks (f marks)
      if more = marks then marks else spread f n more

namespace Pattern

/-- The places where a match may end, given those where it may begin.  Beyond the least number
of rounds of a repetition, as many further rounds suffice as there are places. -/
def ends (t : Text) : Pattern → List Bool → List Bool
  | .empty, marks => marks
  | .one s, marks => after s t marks
  | .look l, marks => restrict l t marks
  | .seq p q, marks => q.ends t (p.ends t marks)
  | .alt p q, marks => either (p.ends t marks) (q.ends t marks)
  | .repeated times p, marks =>
      let further := match times.most with
        | none => t.length + 1
        | some most => most - times.least
      spread (p.ends t) further (rounds (p.ends t) times.least marks)
  | .capture p, marks => p.ends t marks

/-- The pattern matches somewhere in a text. -/
def occursIn (p : Pattern) (t : Text) : Bool :=
  (p.ends t (List.replicate (t.length + 1) true)).any id

end Pattern

end CommandShell.Regex
