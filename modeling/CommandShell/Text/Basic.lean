/-!
# Text and bytes

The shell works on two kinds of sequences.  *Text* is what lines, words, variables and
messages are made of: a list of characters, on which scanners recurse structurally.
*Bytes* are what streams, files and file names hold.  `CommandShell.Text.Utf8` relates them.

## Main definitions

* `Text`, `Bytes` — the two kinds of sequences.
* `joinWith` — items in a row with a separator between neighbours.
* `textLe` — the order of texts.
* `cutAt` — a sequence cut at the first occurrence of an item.
-/

namespace CommandShell

/-- A text: a sequence of characters. -/
abbrev Text := List Char

/-- A byte string: what a stream carries, a file holds or a directory entry is named. -/
abbrev Bytes := List UInt8

/-- A string literal can stand where a text is expected. -/
instance : Coe String Text := ⟨String.toList⟩

/-- The order of texts: by the first character in which they differ, characters by their code
points; a text comes before the longer ones that it begins.  It is the order of the bytes of
both texts, too. -/
def textLe : Text → Text → Bool
  | [], _ => true
  | _ :: _, [] => false
  | c :: s, d :: t => c.toNat < d.toNat || (c == d && textLe s t)

section Sequences

variable {α : Type}

/-- The items in a row, with `sep` between neighbours. -/
abbrev joinWith (sep : List α) (items : List (List α)) : List α := sep.intercalate items

variable [DecidableEq α]

/-- What stands before and after the first `a`, or `none` if there is no `a`. -/
def cutAt (a : α) : List α → Option (List α × List α)
  | [] => none
  | x :: xs =>
      if x = a then some ([], xs)
      else (cutAt a xs).map fun (front, back) => (x :: front, back)

/-- Cutting finds the first `a`: the parts around it make up the sequence. -/
theorem cutAt_eq_some_iff {a : α} {xs front back : List α} :
    cutAt a xs = some (front, back) ↔ xs = front ++ a :: back ∧ a ∉ front := by
  induction xs generalizing front with
  | nil => simp [cutAt]
  | cons x xs ih =>
    by_cases hx : x = a
    · subst hx
      cases front with
      | nil => simp [cutAt, eq_comm]
      | cons y front => simp only [cutAt, ↓reduceIte]; grind
    · cases front with
      | nil => simp [cutAt, hx]
      | cons y front => simp only [cutAt, hx, ↓reduceIte, Option.map_eq_some_iff]; grind

/-- There is nothing to cut at exactly when `a` does not occur. -/
theorem cutAt_eq_none_iff {a : α} {xs : List α} : cutAt a xs = none ↔ a ∉ xs := by
  induction xs with
  | nil => simp [cutAt]
  | cons x xs ih =>
    by_cases hx : x = a
    · simp [cutAt, hx]
    · simp [cutAt, hx, ih, Ne.symm hx]

end Sequences

end CommandShell
