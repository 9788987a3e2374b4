import CommandShell.Text.Basic

/-!
# Words

A word of a command line is a row of *parts*.  A part is a run of characters that were
written in one quoting mode; the mode decides whether `$` is special in it and whether an
assignment sign may be read from it.

## Main definitions

* `Part`, `Word`, `Stage`.
* `Word.push` — one more character, which joins the last part if the modes agree.
* `Word.text` — the characters of a word without their modes.
-/

namespace CommandShell

/-- A run of characters written in one quoting mode. -/
structure Part where
  /-- The characters. -/
  text : Text
  /-- Whether `$` names a variable here: it does unless the run was single-quoted or escaped. -/
  expands : Bool
  /-- Whether the run was inside quotes or escaped by a backslash. -/
  quoted : Bool
  deriving DecidableEq, Repr

/-- One word of a command line, before expansion. -/
structure Word where
  /-- The parts in order. -/
  parts : List Part
  deriving DecidableEq, Repr

/-- The words of one command: what stands between two pipe signs. -/
abbrev Stage := List Word

namespace Word

/-- The word without characters, as two adjacent quotes write it. -/
def empty : Word := ⟨[]⟩

/-- One more character at the end of a row of parts. -/
def pushPart (c : Char) (expands quoted : Bool) : List Part → List Part
  | [] => [⟨[c], expands, quoted⟩]
  | [last] =>
      if last.expands = expands ∧ last.quoted = quoted then
        [{ last with text := last.text ++ [c] }]
      else [last, ⟨[c], expands, quoted⟩]
  | part :: next :: rest => part :: pushPart c expands quoted (next :: rest)

/-- One more character at the end of a word.  It joins the last part if that was written in
the same mode and starts a part otherwise, so neighbouring parts differ in their modes. -/
def push (w : Word) (c : Char) (expands quoted : Bool) : Word :=
  ⟨pushPart c expands quoted w.parts⟩

/-- The characters of a word. -/
def text (w : Word) : Text := w.parts.flatMap Part.text

@[simp] theorem text_empty : empty.text = [] := rfl

/-- A pushed character comes last, whatever part it joins. -/
@[simp] theorem text_push (w : Word) (c : Char) (expands quoted : Bool) :
    (w.push c expands quoted).text = w.text ++ [c] := by
  obtain ⟨parts⟩ := w
  simp only [text, push]
  fun_induction pushPart c expands quoted parts <;> simp_all

end Word

end CommandShell
