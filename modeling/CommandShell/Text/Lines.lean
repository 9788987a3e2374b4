import CommandShell.Text.Basic

/-!
# Lines

A sequence is cut after each newline.  The same cut serves texts (`grep`, `wc`) and byte
streams (the script reader), so it is defined for sequences over any alphabet.

## Main definitions

* `brokenAfter` — the pieces of a sequence, cut after each newline.
* `takeLine` — the first of those pieces and what follows it.
* `chomp` — a piece without its newline and one carriage return before that.
* `lines` — the lines of a text.
-/

namespace CommandShell

section Pieces

variable {α : Type} [DecidableEq α]

/-- The pieces of a sequence, cut after each `nl`; only the last may lack one, and none is
empty. -/
def brokenAfter (nl : α) : List α → List (List α)
  | [] => []
  | x :: xs =>
      if x = nl then [x] :: brokenAfter nl xs
      else match brokenAfter nl xs with
        | [] => [[x]]
        | piece :: rest => (x :: piece) :: rest

/-- The sequence up to and including the first `nl` (all of it if there is none), and the
rest. -/
def takeLine (nl : α) : List α → List α × List α
  | [] => ([], [])
  | x :: xs =>
      if x = nl then ([x], xs)
      else match takeLine nl xs with
        | (line, rest) => (x :: line, rest)

@[simp] theorem takeLine_append (nl : α) (xs : List α) :
    (takeLine nl xs).1 ++ (takeLine nl xs).2 = xs := by
  induction xs with
  | nil => rfl
  | cons x xs ih => by_cases h : x = nl <;> simp [takeLine, h, ih]

/-- A line takes something if there is something. -/
theorem takeLine_ne_nil (nl : α) {xs : List α} (h : xs ≠ []) : (takeLine nl xs).1 ≠ [] := by
  cases xs with
  | nil => exact absurd rfl h
  | cons x xs => by_cases hx : x = nl <;> simp [takeLine, hx]

/-- What follows the first line of a nonempty sequence is shorter than the sequence. -/
theorem takeLine_rest_lt (nl : α) {xs : List α} (h : xs ≠ []) :
    (takeLine nl xs).2.length < xs.length := by
  have hlen := congrArg List.length (takeLine_append nl xs)
  have := List.length_pos_iff.mpr (takeLine_ne_nil nl h)
  simp only [List.length_append] at hlen
  omega

/-- The last line of a sequence may lack its `nl`. -/
theorem takeLine_of_not_mem {nl : α} {xs : List α} (h : nl ∉ xs) : takeLine nl xs = (xs, []) := by
  induction xs with
  | nil => rfl
  | cons x xs ih =>
    simp only [List.mem_cons, not_or] at h
    rw [takeLine, if_neg (Ne.symm h.1), ih h.2]

/-- A line ends with the first `nl`. -/
theorem takeLine_append_cons {nl : α} {xs : List α} (h : nl ∉ xs) (ys : List α) :
    takeLine nl (xs ++ nl :: ys) = (xs ++ [nl], ys) := by
  induction xs with
  | nil => simp [takeLine]
  | cons x xs ih =>
    simp only [List.mem_cons, not_or] at h
    rw [List.cons_append, takeLine, if_neg (Ne.symm h.1), ih h.2, List.cons_append]

/-- The first piece is the first line. -/
theorem brokenAfter_eq_cons (nl : α) {xs : List α} (h : xs ≠ []) :
    brokenAfter nl xs = (takeLine nl xs).1 :: brokenAfter nl (takeLine nl xs).2 := by
  induction xs with
  | nil => exact absurd rfl h
  | cons x xs ih =>
    by_cases hx : x = nl
    · simp [brokenAfter, takeLine, hx]
    · cases xs with
      | nil => simp [brokenAfter, takeLine, hx]
      | cons y ys =>
        have htake : takeLine nl (x :: y :: ys)
            = (x :: (takeLine nl (y :: ys)).1, (takeLine nl (y :: ys)).2) := by
          rw [takeLine, if_neg hx]
        rw [brokenAfter, if_neg hx, ih (List.cons_ne_nil y ys), htake]

/-- The pieces make up the whole. -/
theorem flatten_brokenAfter (nl : α) (xs : List α) : (brokenAfter nl xs).flatten = xs := by
  induction xs with
  | nil => rfl
  | cons x xs ih =>
    rw [brokenAfter]
    split
    · rw [List.flatten_cons, ih, List.singleton_append]
    · split
      · next hnil => rw [← ih, hnil]; rfl
      · next piece rest hcons => rw [← ih, hcons]; rfl

/-- There are as many pieces as there are `nl`, and one more if the last piece lacks one. -/
theorem length_brokenAfter (nl : α) (xs : List α) : (brokenAfter nl xs).length
    = xs.count nl + if xs ≠ [] ∧ xs.getLast? ≠ some nl then 1 else 0 := by
  induction xs with
  | nil => rfl
  | cons x xs ih =>
    cases xs with
    | nil => by_cases hx : x = nl <;> simp [brokenAfter, hx]
    | cons y ys =>
      have hlast : (x :: y :: ys).getLast? = (y :: ys).getLast? := List.getLast?_cons_cons
      rw [brokenAfter, List.count_cons, hlast]
      simp only [ne_eq, reduceCtorEq, not_false_eq_true, true_and, beq_iff_eq] at ih ⊢
      by_cases hx : x = nl
      · rw [if_pos hx, if_pos hx, List.length_cons, ih]
        omega
      · -- the first character belongs to the first piece of the rest
        rw [if_neg hx, if_neg hx, Nat.add_zero, ← ih,
          brokenAfter_eq_cons nl (List.cons_ne_nil y ys)]
        rfl

/-- A piece without its final `nl` and without the one `cr` that may stand before it.  A piece
without a final `nl` is left as it is. -/
def chomp (cr nl : α) (piece : List α) : List α :=
  if piece.getLast? = some nl then
    if piece.dropLast.getLast? = some cr then piece.dropLast.dropLast else piece.dropLast
  else piece

theorem chomp_concat (cr nl : α) (xs : List α) :
    chomp cr nl (xs ++ [nl]) = if xs.getLast? = some cr then xs.dropLast else xs := by
  rw [chomp, List.getLast?_concat, if_pos rfl, List.dropLast_concat]

end Pieces

/-- The lines of a text: cut after each newline, which is dropped together with a carriage
return before it.  A newline at the very end starts no further line. -/
def lines (t : Text) : List Text := (brokenAfter '\n' t).map (chomp '\r' '\n')

end CommandShell
