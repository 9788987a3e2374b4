import CommandShell.Text.Basic

/-!
# Likeness of words

Two words are alike when they share many characters at nearly the same places and in nearly
the same order.  The measure is that of Jaro: the mean of the shares of both words that they
have in common and of the share of that which is in order.

## Main definitions

* `sharedFrom` — what two words have in common, in the order of either.
* `likeness` — the measure, between zero and one.
* `mostAlike?` — the word of a list that is most like another, if any is like it at all.
-/

namespace CommandShell

/-- Mark the first unmarked `c` at a place from `low` on and before `high`, the places being
counted from `place`. -/
def markFirst (c : Char) (low high : Nat) : Nat → List (Char × Bool) →
    Option (List (Char × Bool))
  | _, [] => none
  | place, (d, marked) :: rest =>
      if low ≤ place ∧ place < high ∧ c = d ∧ marked = false then some ((d, true) :: rest)
      else (markFirst c low high (place + 1) rest).map ((d, marked) :: ·)

/-- The characters of a word that have a partner in another word at most `reach` places away,
and the other word with the partners marked.  A character takes the first partner that is
still free. -/
def sharedFrom (reach : Nat) : Nat → Text → List (Char × Bool) → Text × List (Char × Bool)
  | _, [], marks => ([], marks)
  | place, c :: rest, marks =>
      match markFirst c (place - reach) (place + reach + 1) 0 marks with
      | none => sharedFrom reach (place + 1) rest marks
      | some marks =>
          match sharedFrom reach (place + 1) rest marks with
          | (shared, marks) => (c :: shared, marks)

/-- How much two words are alike.  Partners are at most half the longer word apart, less one
place; two partners that stand in another order count as one that is missing. -/
def likeness (a b : Text) : Rat :=
  let reach := max a.length b.length / 2 - 1
  match sharedFrom reach 0 a (b.map fun c => (c, false)) with
  | (ours, marks) =>
      let theirs := (marks.filter Prod.snd).map Prod.fst
      let common := ours.length
      let moved := ((ours.zip theirs).filter fun (c, d) => c != d).length / 2
      if common = 0 then 0
      else ((common : Rat) / a.length + (common : Rat) / b.length +
        ((common - moved : Nat) : Rat) / common) / 3

/-- Words are alike from this likeness on. -/
def likeEnough : Rat := 7 / 10

/-- The item whose name is most like a word, if it is like it at all; of several the last. -/
def mostAlike? {α : Type} (name : α → Text) (word : Text) (items : List α) : Option α :=
  (items.foldl (fun best item =>
    let measure := likeness word (name item)
    match best with
    | none => if likeEnough ≤ measure then some (item, measure) else none
    | some (_, record) => if record ≤ measure then some (item, measure) else best)
    (none : Option (α × Rat))).map Prod.fst

end CommandShell
