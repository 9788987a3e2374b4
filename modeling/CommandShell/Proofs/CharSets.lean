import CommandShell.Unicode.CharSet
import Mathlib.Data.List.Sort

/-!
# What sets of characters hold

Sets of characters are kept as ranges, and the operations on them work on the ranges.  Here is
what they do to the characters: a number is covered by ranges if it lies in one of them, and a
set made of any ranges has exactly the characters that they cover.

## Main definitions

* `Covers` — a number lies in one of some ranges.
* `Ascending`, `Apart` — the ranges stand in the order of their starts, or each ends before the
  next one starts.

## Main results

* `inRanges_iff` — the search through ascending ranges finds what they cover.
* `covers_coalesce`, `covers_interRanges` — joining ranges and intersecting them.
* `has_ofRanges`, `has_unionAll` — the characters of a set made of ranges, and of a union.
-/

namespace CommandShell.Unicode.CharSet

/-- A number lies in one of some ranges. -/
def Covers (ranges : List (Nat × Nat)) (n : Nat) : Prop := ∃ r ∈ ranges, r.1 ≤ n ∧ n ≤ r.2

/-- The ranges stand in the order of their starts. -/
def Ascending (ranges : List (Nat × Nat)) : Prop := ranges.Pairwise fun r s => r.1 ≤ s.1

/-- Each range ends before those after it start. -/
def Apart (ranges : List (Nat × Nat)) : Prop := ranges.Pairwise fun r s => r.2 < s.1

section Covers

variable {r : Nat × Nat} {xs ys : List (Nat × Nat)} {n : Nat}

@[simp] theorem not_covers_nil : ¬ Covers [] n := by simp [Covers]

@[simp] theorem covers_cons : Covers (r :: xs) n ↔ (r.1 ≤ n ∧ n ≤ r.2) ∨ Covers xs n := by
  simp [Covers]

@[simp] theorem covers_append : Covers (xs ++ ys) n ↔ Covers xs n ∨ Covers ys n := by
  simp [Covers, or_and_right, exists_or]

theorem covers_flatMap {α : Type} {f : α → List (Nat × Nat)} {items : List α} :
    Covers (items.flatMap f) n ↔ ∃ a ∈ items, Covers (f a) n := by
  induction items with
  | nil => simp
  | cons a items ih => simp [ih]

theorem covers_of_perm (h : xs.Perm ys) : Covers xs n ↔ Covers ys n := by
  simp only [Covers, h.mem_iff]

/-- Ranges that all start beyond a number do not cover it. -/
theorem not_covers_of_lt (h : ∀ r ∈ xs, n < r.1) : ¬ Covers xs n := by
  rintro ⟨r, hr, hle, -⟩
  exact absurd (h r hr) (by omega)

/-- The search for a number goes through ascending ranges until one starts beyond it. -/
theorem inRanges_iff (h : Ascending xs) : inRanges n xs = true ↔ Covers xs n := by
  induction xs with
  | nil => simp [inRanges]
  | cons r xs ih =>
    obtain ⟨hfirst, hrest⟩ := List.pairwise_cons.mp h
    obtain ⟨low, high⟩ := r
    rw [inRanges, covers_cons]
    split
    case isTrue hlt =>
      have hbeyond : ¬ Covers xs n :=
        not_covers_of_lt fun s hs => Nat.lt_of_lt_of_le hlt (hfirst s hs)
      simp [hbeyond, hlt]
    case isFalse hle =>
      simp [ih hrest, Nat.le_of_not_lt hle]

end Covers

/-! ### Joining ranges -/

section Coalesce

variable {l : List (Nat × Nat)} {n : Nat}

/-- What joined ranges cover was covered before. -/
theorem covers_of_covers_coalesce (h : Covers (coalesce l) n) : Covers l n := by
  induction l using coalesce.induct with
  | case1 => simp [coalesce] at h
  | case2 r => simpa [coalesce] using h
  | case3 a b c d rest hle ih =>
    rw [coalesce, if_pos hle] at h
    rw [covers_cons, covers_cons]
    rcases covers_cons.mp (ih h) with hjoined | hrest
    · by_cases hn : n ≤ b
      · exact .inl ⟨hjoined.1, hn⟩
      · exact .inr (.inl (by omega))
    · exact .inr (.inr hrest)
  | case4 a b c d rest hlt ih =>
    rw [coalesce, if_neg hlt, covers_cons] at h
    rw [covers_cons]
    exact h.imp_right ih

/-- Joined ranges cover a number that was covered before, even if ranges that start beyond the
number are out of order. -/
theorem covers_coalesce (h : l.Pairwise fun r s => r.1 ≤ s.1 ∨ n < s.1) :
    Covers (coalesce l) n ↔ Covers l n := by
  refine ⟨covers_of_covers_coalesce, fun hcovers => ?_⟩
  induction l using coalesce.induct with
  | case1 => simp at hcovers
  | case2 r => simpa [coalesce] using hcovers
  | case3 a b c d rest hle ih =>
    obtain ⟨hfirst, hrest⟩ := List.pairwise_cons.mp h
    have hstart := hfirst (c, d) (by simp)
    rw [coalesce, if_pos hle]
    refine ih (List.pairwise_cons.mpr ⟨?_, (List.pairwise_cons.mp hrest).2⟩) ?_
    · exact fun s hs => hfirst s (List.mem_cons_of_mem _ hs)
    · rw [covers_cons, covers_cons] at hcovers
      rw [covers_cons]
      rcases hcovers with hn | hn | hn
      · exact .inl (by omega)
      · exact .inl (by omega)
      · exact .inr hn
  | case4 a b c d rest hlt ih =>
    rw [coalesce, if_neg hlt, covers_cons]
    rw [covers_cons] at hcovers
    exact hcovers.imp_right (ih (List.pairwise_cons.mp h).2)

theorem le_of_mem_coalesce {m : Nat} (h : ∀ r ∈ l, m ≤ r.1) : ∀ r ∈ coalesce l, m ≤ r.1 := by
  induction l using coalesce.induct with
  | case1 => simp [coalesce]
  | case2 r => simpa [coalesce] using h
  | case3 a b c d rest hle ih =>
    rw [coalesce, if_pos hle]
    refine ih fun r hr => ?_
    rcases List.mem_cons.mp hr with rfl | hr
    · exact h (a, b) List.mem_cons_self
    · exact h r (by simp [hr])
  | case4 a b c d rest hlt ih =>
    rw [coalesce, if_neg hlt, List.forall_mem_cons]
    exact ⟨h (a, b) List.mem_cons_self, ih fun r hr => h r (List.mem_cons_of_mem _ hr)⟩

theorem apart_coalesce (h : Ascending l) :
    Ascending (coalesce l) ∧ Apart (coalesce l) := by
  induction l using coalesce.induct with
  | case1 => simp [coalesce, Ascending, Apart]
  | case2 r => simp [coalesce, Ascending, Apart]
  | case3 a b c d rest hle ih =>
    obtain ⟨hfirst, hrest⟩ := List.pairwise_cons.mp h
    rw [coalesce, if_pos hle]
    refine ih (List.pairwise_cons.mpr ⟨?_, (List.pairwise_cons.mp hrest).2⟩)
    exact fun s hs => hfirst s (List.mem_cons_of_mem _ hs)
  | case4 a b c d rest hlt ih =>
    obtain ⟨hfirst, hrest⟩ := List.pairwise_cons.mp h
    have hstart : ∀ r ∈ coalesce ((c, d) :: rest), c ≤ r.1 := by
      refine le_of_mem_coalesce fun r hr => ?_
      rcases List.mem_cons.mp hr with rfl | hr
      · exact Nat.le_refl _
      · exact (List.pairwise_cons.mp hrest).1 r hr
    have hac : a ≤ c := hfirst (c, d) List.mem_cons_self
    rw [coalesce, if_neg hlt]
    obtain ⟨hascending, hapart⟩ := ih hrest
    exact ⟨List.pairwise_cons.mpr ⟨fun r hr => hac.trans (hstart r hr), hascending⟩,
      List.pairwise_cons.mpr ⟨fun r hr => by have := hstart r hr; simp only; omega, hapart⟩⟩

theorem mergeRanges_perm (xs ys : List (Nat × Nat)) : (mergeRanges xs ys).Perm (xs ++ ys) := by
  induction xs, ys using mergeRanges.induct with
  | case1 ys => rw [mergeRanges, List.nil_append]
  | case2 x xs => rw [mergeRanges, List.append_nil]
  | case3 x xs y ys hle ih =>
    rw [mergeRanges, if_pos hle]
    exact ih.cons x
  | case4 x xs y ys hlt ih =>
    rw [mergeRanges, if_neg hlt]
    exact (ih.cons y).trans List.perm_middle.symm

/-- Merged ranges are in order up to a number if the second ones are. -/
theorem pairwise_mergeRanges {xs ys : List (Nat × Nat)} (hx : Ascending xs)
    (hy : ys.Pairwise fun r s => r.1 ≤ s.1 ∨ n < s.1) :
    (mergeRanges xs ys).Pairwise fun r s => r.1 ≤ s.1 ∨ n < s.1 := by
  induction xs, ys using mergeRanges.induct with
  | case1 ys => rwa [mergeRanges]
  | case2 x xs =>
    rw [mergeRanges]
    exact hx.imp .inl
  | case3 x xs y ys hle ih =>
    obtain ⟨hfirst, hxs⟩ := List.pairwise_cons.mp hx
    have hys := (List.pairwise_cons.mp hy).1
    rw [mergeRanges, if_pos hle]
    refine List.pairwise_cons.mpr ⟨fun s hs => ?_, ih hxs hy⟩
    rcases List.mem_append.mp ((mergeRanges_perm _ _).mem_iff.mp hs) with hs | hs
    · exact .inl (hfirst s hs)
    · rcases List.mem_cons.mp hs with rfl | hs
      · exact .inl hle
      · exact (hys s hs).imp_left hle.trans
  | case4 x xs y ys hlt ih =>
    obtain ⟨hfirst, hxs⟩ := List.pairwise_cons.mp hx
    obtain ⟨hys, hrest⟩ := List.pairwise_cons.mp hy
    rw [mergeRanges, if_neg hlt]
    refine List.pairwise_cons.mpr ⟨fun s hs => ?_, ih hx hrest⟩
    have hyx : y.1 ≤ x.1 := by omega
    rcases List.mem_append.mp ((mergeRanges_perm _ _).mem_iff.mp hs) with hs | hs
    · rcases List.mem_cons.mp hs with rfl | hs
      · exact .inl hyx
      · exact .inl (hyx.trans (hfirst s hs))
    · exact hys s hs

end Coalesce

/-! ### Intersecting ranges -/

section Inter

variable {xs ys : List (Nat × Nat)} {n : Nat}

theorem interRanges_cons (a b c d : Nat) (xs ys : List (Nat × Nat)) :
    interRanges ((a, b) :: xs) ((c, d) :: ys)
      = (if max a c ≤ min b d then [(max a c, min b d)] else []) ++
        if b < d then interRanges xs ((c, d) :: ys) else interRanges ((a, b) :: xs) ys := by
  rw [interRanges]
  by_cases hmeet : max a c ≤ min b d <;> simp [hmeet]

/-- Ranges that are apart intersect in what both cover: the range that ends first cannot meet
what comes after the other. -/
theorem covers_interRanges (hx : Apart xs) (hy : Apart ys) :
    Covers (interRanges xs ys) n ↔ Covers xs n ∧ Covers ys n := by
  induction xs generalizing ys with
  | nil => simp [interRanges]
  | cons x xs ihx =>
    induction ys with
    | nil => simp [interRanges]
    | cons y ys ihy =>
      obtain ⟨⟨a, b⟩, ⟨c, d⟩⟩ := x, y
      obtain ⟨hafter, hxs⟩ := List.pairwise_cons.mp hx
      obtain ⟨hbeyond, hys⟩ := List.pairwise_cons.mp hy
      have hmeet : Covers (if max a c ≤ min b d then [(max a c, min b d)] else []) n ↔
          (a ≤ n ∧ n ≤ b) ∧ (c ≤ n ∧ n ≤ d) := by
        split <;> simp <;> omega
      rw [interRanges_cons, covers_append, hmeet]
      split
      case isTrue hlt =>
        -- `(a, b)` is done with: it ends before `(c, d)` does, so it cannot reach `ys`
        have hno : n ≤ b → ¬ Covers ys n := fun hn =>
          not_covers_of_lt fun s hs => by have := hbeyond s hs; simp only at this; omega
        rw [ihx hxs hy, covers_cons (r := (a, b)), or_and_right]
        refine or_congr_left (and_congr_right fun hn => ?_)
        rw [covers_cons, or_iff_left (hno hn.2)]
      case isFalse hle =>
        have hno : n ≤ d → ¬ Covers xs n := fun hn =>
          not_covers_of_lt fun s hs => by have := hafter s hs; simp only at this; omega
        rw [ihy hys, covers_cons (r := (c, d)), and_or_left]
        refine or_congr_left (and_congr_left fun hn => ?_)
        rw [covers_cons, or_iff_left (hno hn.2)]

theorem exists_le_of_mem_interRanges {r : Nat × Nat} (h : r ∈ interRanges xs ys) :
    (∃ x ∈ xs, x.1 ≤ r.1) ∧ ∃ y ∈ ys, y.1 ≤ r.1 := by
  induction xs generalizing ys with
  | nil => simp [interRanges] at h
  | cons x xs ihx =>
    induction ys with
    | nil => simp [interRanges] at h
    | cons y ys ihy =>
      obtain ⟨⟨a, b⟩, ⟨c, d⟩⟩ := x, y
      rw [interRanges_cons, List.mem_append] at h
      rcases h with h | h
      · split at h
        case isTrue =>
          obtain rfl := List.mem_singleton.mp h
          exact ⟨⟨_, List.mem_cons_self, Nat.le_max_left a c⟩,
            ⟨_, List.mem_cons_self, Nat.le_max_right a c⟩⟩
        case isFalse => simp at h
      · split at h
        case isTrue =>
          obtain ⟨⟨x, hx, hle⟩, hy⟩ := ihx h
          exact ⟨⟨x, List.mem_cons_of_mem _ hx, hle⟩, hy⟩
        case isFalse =>
          obtain ⟨hx, y, hy, hle⟩ := ihy h
          exact ⟨hx, y, List.mem_cons_of_mem _ hy, hle⟩

theorem ascending_interRanges (hx : Ascending xs) (hy : Ascending ys) :
    Ascending (interRanges xs ys) := by
  induction xs generalizing ys with
  | nil => simp [interRanges, Ascending]
  | cons x xs ihx =>
    induction ys with
    | nil => simp [interRanges, Ascending]
    | cons y ys ihy =>
      obtain ⟨⟨a, b⟩, ⟨c, d⟩⟩ := x, y
      obtain ⟨hafter, hxs⟩ := List.pairwise_cons.mp hx
      obtain ⟨hbeyond, hys⟩ := List.pairwise_cons.mp hy
      have hle_of_x : ∀ s ∈ (a, b) :: xs, a ≤ s.1 :=
        List.forall_mem_cons.mpr ⟨Nat.le_refl _, hafter⟩
      have hle_of_y : ∀ s ∈ (c, d) :: ys, c ≤ s.1 :=
        List.forall_mem_cons.mpr ⟨Nat.le_refl _, hbeyond⟩
      have hrest : Ascending (if b < d then interRanges xs ((c, d) :: ys)
          else interRanges ((a, b) :: xs) ys) := by
        split
        · exact ihx hxs hy
        · exact ihy hys
      rw [interRanges_cons]
      refine List.pairwise_append.mpr ⟨?_, hrest, fun r hr s hs => ?_⟩
      · split <;> simp
      have hr : r.1 = max a c := by
        split at hr <;> simp_all
      have hs : max a c ≤ s.1 := by
        split at hs
        all_goals
          obtain ⟨⟨x, hx, hlex⟩, ⟨y, hy, hley⟩⟩ := exists_le_of_mem_interRanges hs
        · exact max_le ((hafter x hx).trans hlex) ((hle_of_y y hy).trans hley)
        · exact max_le ((hle_of_x x hx).trans hlex) ((hbeyond y hy).trans hley)
      exact hr ▸ hs

end Inter

/-! ### Sets of characters -/

/-- A character is a code point, and no surrogate. -/
theorem covers_all (c : Char) : Covers all.ranges c.toNat := by
  have hvalid : c.toNat < 0xD800 ∨ 0xDFFF < c.toNat ∧ c.toNat < 0x110000 := c.valid
  simp only [all, covers_cons, not_covers_nil, or_false]
  omega

section OfRanges

variable (ranges : List (Nat × Nat))

theorem ascending_sorted : Ascending (ranges.mergeSort fun r s => r.1 ≤ s.1) := by
  refine (List.pairwise_mergeSort (fun r s t hrs hst => ?_) (fun r s => ?_) ranges).imp
    fun h => of_decide_eq_true h
  · simp only [decide_eq_true_eq] at *
    omega
  · simpa using Nat.le_total r.1 s.1

theorem ascending_ofRanges : Ascending (ofRanges ranges).ranges :=
  ascending_interRanges (apart_coalesce (ascending_sorted ranges)).1 (by simp [all, Ascending])

/-- The ranges of a set cover the characters that the ranges cover which it is made of. -/
theorem covers_ofRanges (c : Char) :
    Covers (ofRanges ranges).ranges c.toNat ↔ Covers ranges c.toNat := by
  have hsorted := ascending_sorted ranges
  rw [ofRanges, covers_interRanges (apart_coalesce hsorted).2 (by simp [all, Apart]),
    covers_coalesce (hsorted.imp .inl), covers_of_perm (ranges.mergeSort_perm _),
    and_iff_left (covers_all c)]

/-- A set that is made of ranges has the characters that they cover. -/
theorem has_ofRanges (c : Char) : (ofRanges ranges).has c = true ↔ Covers ranges c.toNat := by
  rw [has, inRanges_iff (ascending_ofRanges ranges), covers_ofRanges]

end OfRanges

theorem covers_unionAll (sets : List CharSet) (c : Char) :
    Covers (unionAll sets).ranges c.toNat ↔ ∃ s ∈ sets, Covers s.ranges c.toNat := by
  rw [unionAll, covers_ofRanges, covers_flatMap]

/-- The union of sets has the characters that their ranges cover. -/
theorem has_unionAll (sets : List CharSet) (c : Char) :
    (unionAll sets).has c = true ↔ ∃ s ∈ sets, Covers s.ranges c.toNat := by
  rw [unionAll, has_ofRanges, covers_flatMap]

/-- The union of two sets covers what either does, even if ranges of the second that start beyond
the number are out of order. -/
theorem covers_union {s t : CharSet} {n : Nat} (hs : Ascending s.ranges)
    (ht : t.ranges.Pairwise fun r s => r.1 ≤ s.1 ∨ n < s.1) :
    Covers (s.union t).ranges n ↔ Covers s.ranges n ∨ Covers t.ranges n := by
  rw [union, covers_coalesce (pairwise_mergeRanges hs ht),
    covers_of_perm (mergeRanges_perm _ _), covers_append]

/-- The set of one character has no other. -/
theorem has_singleton (c d : Char) : (singleton c).has d = true ↔ d = c := by
  have hascending : Ascending (singleton c).ranges := List.pairwise_singleton _ _
  rw [has, inRanges_iff hascending, singleton, covers_cons, ← Char.toNat_inj]
  simp only [not_covers_nil, or_false]
  omega

end CommandShell.Unicode.CharSet
