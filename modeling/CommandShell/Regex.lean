import CommandShell.Regex.Meaning
import CommandShell.Regex.Positions
import CommandShell.Regex.Program
import CommandShell.Regex.Size

/-!
# Regular expressions

A pattern that has been read and found small enough, ready for searching.

## Main definitions

* `Regex` — a pattern with its program.
* `RegexError`, `RegexError.message` — why a pattern cannot be used.
* `Regex.ofText` — a pattern from its written form.
* `Regex.wholeWords` — the occurrences of a text that no word character extends.
* `Regex.occursIn`, `Regex.spans` — whether a text has a match, and where.
-/

namespace CommandShell

open Regex

/-- A pattern, ready for searching. -/
structure Regex where
  /-- The pattern. -/
  pattern : Pattern
  /-- The program that finds the preferred match. -/
  program : Program

/-- Why a pattern cannot be used. -/
inductive RegexError where
  /-- It is not well formed, or means nothing. -/
  | fault (f : Fault) (written : Text)
  /-- It is too big. -/
  | tooBig
  deriving DecidableEq, Repr

/-- The report of an unusable pattern. -/
def RegexError.message : RegexError → Text
  | .fault f written => f.report written
  | .tooBig =>
      "Compiled regex exceeds size limit of ".toList ++ decimal Tally.limit ++
        " bytes.".toList

namespace Regex

/-- A pattern with its program, if it is small enough. -/
def ofPattern (p : Pattern) : Except RegexError Regex :=
  if p.fits then .ok ⟨p, p.program⟩ else .error .tooBig

/-- The meaning of a written pattern. -/
def meaning (ignoreCase : Bool) (written : Text) : Except Fault Pattern := do
  let tree ← Tree.ofText written
  let (p, _) ← tree.meaning (.initial ignoreCase)
  return p

/-- A pattern from its written form. -/
def ofText (ignoreCase : Bool) (written : Text) : Except RegexError Regex :=
  match meaning ignoreCase written with
  | .ok p => ofPattern p
  | .error f => .error (.fault f written)

/-- A text that begins at the start of the line or at a word boundary, and ends at the end of
the line or at a word boundary. -/
def wordPattern (ignoreCase : Bool) (t : Text) : Pattern :=
  let boundary := Pattern.look (.word .boundary false)
  .seq (.alt (.look .textStart) boundary)
    (.seq (.text ignoreCase t) (.alt boundary (.look .textEnd)))

/-- The occurrences of a text between such places. -/
def wholeWords (ignoreCase : Bool) (t : Text) : Except RegexError Regex :=
  ofPattern (wordPattern ignoreCase t)

/-- The pattern matches somewhere in a text. -/
def occursIn (r : Regex) (t : Text) : Bool := r.pattern.occursIn t

/-- The matches in a text, one after the other: the first place of each and the place after
it. -/
def spans (r : Regex) (t : Text) : List (Nat × Nat) := r.program.spans t

end Regex

end CommandShell
