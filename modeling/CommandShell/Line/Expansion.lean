import CommandShell.Line.Word
import CommandShell.Variables

/-!
# Expansion of variables

In a part where `$` is special, `$?` and `$NAME` stand for the value of a variable and any
other `$` for itself.  Names are as long as possible.  A value is written to the result and not
scanned itself.

## Main definitions

* `expandChars` — what characters stand for, read from left to right.
* `Part.expand`, `Word.expand` — the text that a part and a word stand for.
* `Word.assignment?` — the name and the value of a word `NAME=value`.
-/

namespace CommandShell

/-- The text that characters stand for where `$` is special.  The value of a variable is put in as
soon as its name has been read, and reading goes on behind the name. -/
@[semireducible]
def expandChars (vars : Variables) : Text → Text
  | [] => []
  | c :: rest =>
      if c ≠ '$' then c :: expandChars vars rest
      else match rest with
        | [] => ['$']
        | first :: more =>
            if first = '?' then vars.value statusName ++ expandChars vars more
            else if isNameStart first then
              vars.value ((first :: more).takeWhile isNameChar)
                ++ expandChars vars ((first :: more).dropWhile isNameChar)
            else '$' :: expandChars vars (first :: more)
termination_by t => t.length
decreasing_by
  · exact Nat.lt_succ_self _
  · exact Nat.lt_succ_of_lt (Nat.lt_succ_self _)
  · exact Nat.lt_succ_of_le (List.dropWhile_suffix isNameChar).length_le
  · exact Nat.lt_succ_self _

/-- A character other than `$` stands for itself. -/
theorem expandChars_cons_of_ne {c : Char} (hc : c ≠ '$') (vars : Variables) (t : Text) :
    expandChars vars (c :: t) = c :: expandChars vars t := by
  rw [expandChars.eq_def]
  exact if_pos hc

/-- `$?` stands for the last status. -/
theorem expandChars_status (vars : Variables) (t : Text) :
    expandChars vars ('$' :: '?' :: t) = vars.value statusName ++ expandChars vars t := by
  rw [expandChars.eq_def]
  rfl

/-- A `$?` on its own. -/
theorem expandChars_statusReference (vars : Variables) :
    expandChars vars ['$', '?'] = vars.value statusName :=
  (expandChars_status vars []).trans (List.append_nil _)

/-- The text that a part stands for: its own characters where `$` is not special. -/
def Part.expand (vars : Variables) (p : Part) : Text :=
  if p.expands then expandChars vars p.text else p.text

/-- The text that a word stands for, part by part: a name never runs into the next part. -/
def Word.expand (vars : Variables) (w : Word) : Text := w.parts.flatMap (Part.expand vars)

/-- A word of one part in which `$` is special. -/
theorem Word.expand_ofChars (vars : Variables) (t : Text) (quoted : Bool) :
    Word.expand vars ⟨[⟨t, true, quoted⟩]⟩ = expandChars vars t := List.append_nil _

/-- The name and the value of a word that is written `NAME=value` with an identifier before
the first `=` and neither a quote nor an escape up to it. -/
def Word.assignment? (w : Word) : Option (Text × Word) :=
  match w.parts with
  | [] => none
  | first :: others =>
      if first.quoted then none
      else match cutAt '=' first.text with
        | none => none
        | some (name, value) =>
            if isIdentifier name then
              some (name, ⟨(if value = [] then [] else [⟨value, true, false⟩]) ++ others⟩)
            else none

end CommandShell
