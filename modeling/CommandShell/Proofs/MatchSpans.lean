import CommandShell.Regex

/-!
# Where matches stand

The matches in a text are found one after the other.  A program never goes back in the text: an
instruction leads to where it stands or to the place after it, so the end of a match is not before
its beginning, and the search for the next match begins where the last one has ended.  Hence
matches lie in the text, and they are in order and do not overlap.

This is all that highlighting needs to know of a search, so it is stated for any row of matches.

## Main definitions

* `InOrder` — matches lie in a line, in order, and do not overlap.

## Main results

* `Regex.inOrder_spans` — the matches that a search finds are in order.
-/

namespace CommandShell

/-- **Matches are in order** in a line, each given by its first place and the place after it. -/
structure InOrder (line : Text) (spans : List (Nat × Nat)) : Prop where
  /-- A match does not end before it begins, nor beyond the line. -/
  bounded : ∀ s ∈ spans, s.1 ≤ s.2 ∧ s.2 ≤ line.length
  /-- A match does not begin before those in front of it have ended. -/
  apart : spans.Pairwise fun s t => s.2 ≤ t.1

theorem inOrder_nil (line : Text) : InOrder line [] := ⟨by simp, .nil⟩

/-- The first match ends before the others begin. -/
theorem inOrder_cons {line : Text} {first stop : Nat} {spans : List (Nat × Nat)} :
    InOrder line ((first, stop) :: spans) ↔
      (first ≤ stop ∧ stop ≤ line.length) ∧ (∀ s ∈ spans, stop ≤ s.1) ∧ InOrder line spans := by
  constructor
  · rintro ⟨hbounded, hapart⟩
    rw [List.forall_mem_cons] at hbounded
    rw [List.pairwise_cons] at hapart
    exact ⟨hbounded.1, hapart.1, hbounded.2, hapart.2⟩
  · rintro ⟨hfirst, hlater, hrest⟩
    exact ⟨List.forall_mem_cons.mpr ⟨hfirst, hrest.bounded⟩,
      List.pairwise_cons.mpr ⟨hlater, hrest.apart⟩⟩

namespace Regex

namespace Program

variable {p : Program} {t : Array Char}

/-- An instruction leads to where it stands, or past a character of the text. -/
theorem le_of_mem_targets {pc pos : Nat} {next : List (Nat × Nat)} (hpos : pos ≤ t.size)
    (h : p.targets t pc pos = some next) : ∀ x ∈ next, pos ≤ x.2 ∧ x.2 ≤ t.size := by
  have hnone : ∀ x ∈ ([] : List (Nat × Nat)), pos ≤ x.2 ∧ x.2 ≤ t.size := by simp
  cases hinstr : p.instrs[pc]? with
  | none =>
    simp only [targets, hinstr, Option.some.injEq] at h
    exact h ▸ hnone
  | some instr =>
    cases instr with
    | accept => simp [targets, hinstr] at h
    | branch other another =>
      simp only [targets, hinstr, Option.some.injEq] at h
      simp [← h, hpos]
    | look l other =>
      simp only [targets, hinstr, Option.some.injEq] at h
      generalize l.holds _ _ = holds at h
      cases holds with
      | false => exact h ▸ hnone
      | true => simp [← h, hpos]
    | one s other =>
      simp only [targets, hinstr, Option.some.injEq] at h
      cases hchar : t[pos]? with
      | none =>
        rw [hchar] at h
        exact h ▸ hnone
      | some c =>
        -- there is a character at this place, so the place after it is one of the text
        obtain ⟨hlt, -⟩ := Array.getElem?_eq_some_iff.mp hchar
        rw [hchar] at h
        intro x hx
        rw [← h] at hx
        split at hx
        · rw [List.mem_singleton.mp hx]
          exact ⟨Nat.le_succ pos, hlt⟩
        · exact absurd hx List.not_mem_nil

/-- A match ends in the text, and not before the places that it is searched from. -/
theorem le_of_search {low fuel stop : Nat} {stack : List (Nat × Nat)} {seen : Std.HashSet Nat}
    (hstack : ∀ x ∈ stack, low ≤ x.2 ∧ x.2 ≤ t.size)
    (h : (p.search t fuel stack seen).1 = some stop) : low ≤ stop ∧ stop ≤ t.size := by
  induction fuel generalizing stack seen with
  | zero => exact absurd h (by simp [search])
  | succ fuel ih =>
    cases stack with
    | nil => exact absurd h (by simp [search])
    | cons x stack =>
      obtain ⟨pc, pos⟩ := x
      rw [List.forall_mem_cons] at hstack
      simp only [search] at h
      split at h
      · exact ih hstack.2 h
      · split at h
        · rw [← Option.some.inj h]
          exact hstack.1
        · next next htargets =>
          have hnext := le_of_mem_targets hstack.1.2 htargets
          refine ih (fun x hx => ?_) h
          rcases List.mem_append.mp hx with hx | hx
          · exact ⟨Nat.le_trans hstack.1.1 (hnext x hx).1, (hnext x hx).2⟩
          · exact hstack.2 x hx

theorem le_of_matchWithin {n start first stop : Nat} {seen : Std.HashSet Nat}
    (hn : start + n ≤ t.size + 1) (h : p.matchWithin t n start seen = some (first, stop)) :
    start ≤ first ∧ first ≤ stop ∧ stop ≤ t.size := by
  induction n generalizing start seen with
  | zero => exact absurd h (by simp [matchWithin])
  | succ n ih =>
    rw [matchWithin] at h
    split at h
    · next stop' _ hsearch =>
      obtain ⟨rfl, rfl⟩ := Prod.mk.inj (Option.some.inj h)
      have hentry : ∀ x ∈ [(p.entry, start)], start ≤ x.2 ∧ x.2 ≤ t.size := by
        simp only [List.mem_singleton, forall_eq]
        omega
      have hstop := le_of_search hentry (congrArg Prod.fst hsearch)
      exact ⟨Nat.le_refl start, hstop⟩
    · have hlater := ih (by omega) h
      exact ⟨Nat.le_of_succ_le hlater.1, hlater.2⟩

theorem le_of_matchFrom {start first stop : Nat} (h : p.matchFrom t start = some (first, stop)) :
    start ≤ first ∧ first ≤ stop ∧ stop ≤ t.size := by
  rw [matchFrom] at h
  by_cases hstart : start ≤ t.size + 1
  · exact le_of_matchWithin (by omega) h
  · -- beyond the end of the text there is no place to begin at
    rw [Nat.sub_eq_zero_of_le (by omega)] at h
    exact absurd h (by simp [matchWithin])

/-- The next match begins where the last one has ended, or later. -/
theorem le_of_nextMatch {start first stop : Nat} {last : Option Nat}
    (h : p.nextMatch t start last = some (first, stop)) :
    start ≤ first ∧ first ≤ stop ∧ stop ≤ t.size := by
  rw [nextMatch] at h
  split at h
  · exact absurd h (by simp)
  · next hfound =>
    split at h
    · have hlater := le_of_matchFrom h
      exact ⟨Nat.le_of_succ_le hlater.1, hlater.2⟩
    · obtain ⟨rfl, rfl⟩ := Prod.mk.inj (Option.some.inj h)
      exact le_of_matchFrom hfound

/-- The matches from a place on begin there or later, and are in order. -/
theorem inOrder_spansFrom {line : Text} {n start : Nat} {last : Option Nat} :
    (∀ s ∈ p.spansFrom line.toArray n start last, start ≤ s.1) ∧
      InOrder line (p.spansFrom line.toArray n start last) := by
  induction n generalizing start last with
  | zero => exact ⟨fun s hs => absurd hs List.not_mem_nil, inOrder_nil line⟩
  | succ n ih =>
    rw [spansFrom]
    split
    · exact ⟨fun s hs => absurd hs List.not_mem_nil, inOrder_nil line⟩
    · next first stop hnext =>
      obtain ⟨hfirst, hstop, hend⟩ := le_of_nextMatch hnext
      obtain ⟨hlater, hrest⟩ := @ih stop (some stop)
      refine ⟨?_, inOrder_cons.mpr ⟨⟨hstop, hend⟩, hlater, hrest⟩⟩
      rw [List.forall_mem_cons]
      exact ⟨hfirst, fun s hs => Nat.le_trans (Nat.le_trans hfirst hstop) (hlater s hs)⟩

end Program

/-- **The matches that a search finds are in order.** -/
theorem inOrder_spans (r : Regex) (t : Text) : InOrder t (r.spans t) :=
  Program.inOrder_spansFrom.2

end Regex

end CommandShell
