import CommandShell.Builtin.Search
import Mathlib.Data.List.Basic

/-!
# The lines that a search prints

A search goes through the lines once and counts down: a match sets the count, every other line
takes one off, and a line is printed as long as the count is not used up.  What is printed can be
said without counting.  A line is printed if a match stands in it, or so few lines before it that
its context reaches that far.  The count is then no more than the part of the context of the last
match that is still to come.

Which lines are printed is told by their numbers, since the same line may occur several times.

## Main definitions

* `Reached isMatch n lines i` — the context of a match reaches the line of a number.
* `reachedLines isMatch n lines` — the lines that are reached, with their numbers.

## Main results

* `selectLinesFrom_eq` — the lines that are printed from a count on.
* `selectLines_eq_reached` — **what is printed are the lines that a match reaches.**
-/

namespace CommandShell

section Windows

variable (isMatch : Text → Bool)

/-- **The context of a match reaches a line**: a match stands in the line of this number, or at
most `n` lines before it. -/
def Reached (n : Nat) (lines : List Text) (i : Nat) : Prop :=
  ∃ j ≤ i, i - j ≤ n ∧ lines[j]?.any isMatch = true

instance (n : Nat) (lines : List Text) : DecidablePred (Reached isMatch n lines) :=
  fun i => inferInstanceAs (Decidable (∃ j ≤ i, i - j ≤ n ∧ lines[j]?.any isMatch = true))

/-- The lines that the context of a match reaches, with their numbers. -/
def reachedLines (n : Nat) (lines : List Text) : List (Text × Nat) :=
  lines.zipIdx.filter fun x => Reached isMatch n lines x.2

variable {isMatch} {n : Nat}

@[simp] theorem reached_cons_zero (line : Text) (rest : List Text) :
    Reached isMatch n (line :: rest) 0 ↔ isMatch line = true := by
  simp [Reached]

/-- A line is reached by the first one, or by one of those after it. -/
theorem reached_cons_succ (line : Text) (rest : List Text) (i : Nat) :
    Reached isMatch n (line :: rest) (i + 1)
      ↔ (i < n ∧ isMatch line = true) ∨ Reached isMatch n rest i := by
  constructor
  · rintro ⟨j, hj, hn, hmatch⟩
    cases j with
    | zero => exact .inl ⟨hn, hmatch⟩
    | succ j => exact .inr ⟨j, by omega, by omega, hmatch⟩
  · rintro (⟨hn, hmatch⟩ | ⟨j, hj, hn, hmatch⟩)
    · exact ⟨0, by omega, hn, hmatch⟩
    · exact ⟨j + 1, by omega, by omega, hmatch⟩

theorem reached_zero_iff {lines : List Text} {i : Nat} :
    Reached isMatch 0 lines i ↔ lines[i]?.any isMatch = true := by
  constructor
  · rintro ⟨j, hj, hn, hmatch⟩
    obtain rfl : j = i := by omega
    exact hmatch
  · exact fun hmatch => ⟨i, Nat.le_refl i, by omega, hmatch⟩

theorem Reached.mono {m : Nat} (h : n ≤ m) {lines : List Text} {i : Nat}
    (hi : Reached isMatch n lines i) : Reached isMatch m lines i := by
  obtain ⟨j, hj, hn, hmatch⟩ := hi
  exact ⟨j, hj, Nat.le_trans hn h, hmatch⟩

/-- The items with certain numbers are the first one, if its number is among them, and those of
the rest. -/
theorem flatMap_zipIdx_cons {α β : Type} (f : α → List β) (P : Nat → Prop) [DecidablePred P]
    (x : α) (xs : List α) :
    ((x :: xs).zipIdx.filter fun y => P y.2).flatMap (fun y => f y.1)
      = (if P 0 then f x else []) ++
        (xs.zipIdx.filter fun y => P (y.2 + 1)).flatMap fun y => f y.1 := by
  rw [List.zipIdx_cons, List.zipIdx_succ, List.filter_cons, List.filter_map, List.flatMap_def]
  by_cases h : P 0 <;> simp [h, Function.comp_def, List.flatMap_def]

/-- **The lines that are printed from a count on**: as many as the count says, whatever is in
them, and those that a match reaches. -/
theorem selectLinesFrom_eq (shown : Text → Text) {count : Nat} (hcount : count ≤ n)
    (lines : List Text) :
    selectLinesFrom isMatch shown n count lines
      = (lines.zipIdx.filter fun x => x.2 < count ∨ Reached isMatch n lines x.2).flatMap
        fun x => (if isMatch x.1 then shown x.1 else x.1) ++ ['\n'] := by
  induction lines generalizing count with
  | nil => rfl
  | cons line rest ih =>
    rw [flatMap_zipIdx_cons (fun line => (if isMatch line then shown line else line) ++ ['\n'])
      (fun i => i < count ∨ Reached isMatch n (line :: rest) i)]
    simp only [reached_cons_zero, reached_cons_succ]
    by_cases hmatch : isMatch line = true
    · -- the context of this line reaches further than what was left of an earlier one
      have hreach (i : Nat) : (i + 1 < count ∨ (i < n ∧ True) ∨ Reached isMatch n rest i)
          ↔ (i < n ∨ Reached isMatch n rest i) := by
        rw [and_true, ← or_assoc]
        exact or_congr_left (by omega)
      simp only [selectLinesFrom, hmatch, if_true, or_true, hreach]
      rw [ih (Nat.le_refl n)]
    · cases count with
      | zero => simp [selectLinesFrom, hmatch, ih hcount]
      | succ count =>
        simp [selectLinesFrom, hmatch, ih (Nat.le_of_succ_le hcount)]

theorem mem_reachedLines_iff {lines : List Text} {line : Text} {i : Nat} :
    (line, i) ∈ reachedLines isMatch n lines
      ↔ lines[i]? = some line ∧ Reached isMatch n lines i := by
  rw [reachedLines, List.mem_filter, List.mk_mem_zipIdx_iff_getElem?, decide_eq_true_iff]

/-- Lines are reached in the order of their numbers. -/
theorem pairwise_reachedLines (n : Nat) (lines : List Text) :
    (reachedLines isMatch n lines).Pairwise fun x y => x.2 < y.2 := by
  refine List.Pairwise.filter _ ?_
  have hnumbers : (lines.zipIdx.map Prod.snd).Pairwise (· < ·) := by
    rw [List.zipIdx_map_snd]
    exact List.pairwise_lt_range'
  exact List.pairwise_map.mp hnumbers

/-- Without context only the matching lines are reached. -/
theorem map_fst_reachedLines_zero (lines : List Text) :
    (reachedLines isMatch 0 lines).map Prod.fst = lines.filter isMatch := by
  have hmatch : ∀ x ∈ lines.zipIdx,
      decide (Reached isMatch 0 lines x.2) = (isMatch ∘ Prod.fst) x := by
    rintro ⟨line, i⟩ hx
    have hline : lines[i]? = some line := List.mk_mem_zipIdx_iff_getElem?.mp hx
    simp [reached_zero_iff, hline]
  rw [reachedLines, List.filter_congr hmatch, ← List.filter_map, List.zipIdx_map_fst]

/-- More context reaches no fewer lines. -/
theorem reachedLines_sublist {m : Nat} (h : n ≤ m) (lines : List Text) :
    (reachedLines isMatch n lines).Sublist (reachedLines isMatch m lines) := by
  refine List.monotone_filter_right _ fun x hx => ?_
  exact decide_eq_true ((of_decide_eq_true hx).mono h)

/-- **What is printed are the lines that a match reaches**: all of them, in the order of their
numbers, each once and with a newline after it.  A line is reached exactly if a match stands in it
or at most `n` lines before it, so a match in the context of another extends that, and contexts
that overlap neither repeat nor drop a line.  Without context the matching lines are printed, and
more context only adds lines. -/
theorem selectLines_eq_reached (isMatch : Text → Bool) (spans : Text → List (Nat × Nat)) (n : Nat)
    (lines : List Text) :
    selectLines isMatch spans n false lines
      = (reachedLines isMatch n lines).flatMap (fun x => x.1 ++ ['\n']) ∧
    (reachedLines isMatch n lines).Pairwise (fun x y => x.2 < y.2) ∧
    (∀ line i, (line, i) ∈ reachedLines isMatch n lines ↔
      lines[i]? = some line ∧ ∃ j ≤ i, i - j ≤ n ∧ ∃ other ∈ lines[j]?, isMatch other = true) ∧
    selectLines isMatch spans 0 false lines = (lines.filter isMatch).flatMap (· ++ ['\n']) ∧
    ∀ more, (reachedLines isMatch n lines).Sublist (reachedLines isMatch (n + more) lines) := by
  have hprinted (n : Nat) : selectLines isMatch spans n false lines
      = (reachedLines isMatch n lines).flatMap (fun x => x.1 ++ ['\n']) := by
    simpa [selectLines, reachedLines] using selectLinesFrom_eq id (Nat.zero_le n) lines
  refine ⟨hprinted n, pairwise_reachedLines n lines, fun line i => ?_, ?_, fun more =>
    reachedLines_sublist (Nat.le_add_right n more) lines⟩
  · rw [mem_reachedLines_iff, Reached]
    simp only [Option.any_eq_true, Option.mem_def]
  · rw [hprinted 0, ← map_fst_reachedLines_zero, List.flatMap_map]

/-- The contexts of the first two matches overlap, and the third match has none after it. -/
example : selectLines (· = ['x']) (fun _ => []) 1 false [['x'], ['x'], ['a'], ['b'], ['x']]
    = "x\nx\na\nx\n".toList := by decide

end Windows

end CommandShell
