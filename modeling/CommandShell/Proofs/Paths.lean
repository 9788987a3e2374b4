import CommandShell.Files.Path
import Mathlib.Logic.Basic

/-!
# Paths in their shortest form

To normalize a path is to fold its names into a stack: a name goes on top of it, and `..` takes one
away.  What can be on the stack is known at any time: names that lead down, over names that lead up,
and of the latter there are none in an absolute path.  Names of that form are folded to themselves,
so a normalized path is one that normalizing leaves alone.

A session only ever goes to normalized paths.  One that has begun at an absolute path is always at a
*straight* path, one that leads from the root down, name by name.

## Main definitions

* `Path.IsName` — what may stand between slashes.
* `Path.Folded` — names of which no `..` takes one away.
* `Path.Straight` — absolute paths in their shortest form.

## Main results

* `Path.folded_fold`, `Path.fold_of_folded` — folding gives such names, and leaves them alone.
* `Path.normalize_normalize` — **to normalize a path twice is to normalize it once.**
* `Location.straight_resolve` — paths seen from a straight path.
-/

namespace CommandShell

/-! ### Sequences and their pieces -/

section Sequences

variable {α : Type}

variable [DecidableEq α] {a : α}

/-- What stands between two occurrences of `a` has no `a` in it. -/
theorem not_mem_of_mem_splitOn {xs piece : List α} (h : piece ∈ xs.splitOn a) : a ∉ piece := by
  induction xs generalizing piece with
  | nil => simp_all [List.splitOn_nil]
  | cons x xs ih =>
    rw [List.splitOn_cons_eq_if_modifyHead] at h
    split at h
    · rcases List.mem_cons.mp h with rfl | h
      · exact List.not_mem_nil
      · exact ih h
    · next hx =>
      -- the first piece has one more item, which is not `a`
      obtain ⟨first, rest, hpieces⟩ := List.exists_cons_of_ne_nil (List.splitOn_ne_nil a xs)
      rw [hpieces] at h ih
      rcases List.mem_cons.mp h with rfl | h
      · have hne : a ≠ x := fun heq => hx (beq_iff_eq.mpr heq.symm)
        exact List.not_mem_cons_of_ne_of_not_mem hne (ih List.mem_cons_self)
      · exact ih (List.mem_cons_of_mem first h)

end Sequences

namespace Path

/-! ### Names -/

/-- What may stand between slashes and leads to another folder. -/
structure IsName (n : Bytes) : Prop where
  /-- It is not empty. -/
  ne_nil : n ≠ []
  /-- It is not `.`. -/
  ne_dot : n ≠ dot
  /-- There is no slash in it. -/
  slash_not_mem : slash ∉ n

theorem isName_dotDot : IsName dotDot := ⟨by decide, by decide, by decide⟩

theorem isName_of_mem_names {p : Path} {n : Bytes} (h : n ∈ p.names) : IsName n := by
  obtain ⟨hmem, hleads⟩ := List.mem_filter.mp h
  obtain ⟨hnil, hdot⟩ : n ≠ [] ∧ n ≠ dot := by simpa using hleads
  exact ⟨hnil, hdot, not_mem_of_mem_splitOn hmem⟩

section Build

variable {names : List Bytes} (h : ∀ n ∈ names, IsName n)
include h

theorem isAbsolute_build (absolute : Bool) : (build absolute names).isAbsolute = absolute := by
  cases absolute with
  | true => rfl
  | false =>
    cases names with
    | nil => rfl
    | cons n rest =>
      -- the path begins with its first name
      obtain ⟨b, bs, rfl⟩ := List.exists_cons_of_ne_nil (h n List.mem_cons_self).ne_nil
      have hb : b ≠ slash := fun hb => (h _ List.mem_cons_self).slash_not_mem (by simp [hb])
      have hhead : (build false ((b :: bs) :: rest)).head? = some b := by
        cases rest <;> rfl
      simp [isAbsolute, hhead, hb]

/-- A path that is made of names has these names. -/
theorem names_build (absolute : Bool) : (build absolute names).names = names := by
  have hall : ∀ n ∈ names, (decide (n ≠ [] ∧ n ≠ dot)) = true :=
    fun n hn => by simpa using ⟨(h n hn).ne_nil, (h n hn).ne_dot⟩
  have hrelative : (build false names).names = names := by
    rcases eq_or_ne names [] with rfl | hne
    · rfl
    · rw [Path.names, build, if_neg (by simp), List.nil_append,
        joinWith, List.splitOn_intercalate slash (fun n hn => (h n hn).slash_not_mem) hne,
        List.filter_eq_self.mpr hall]
  cases absolute with
  | false => exact hrelative
  | true =>
    -- before the first slash stands an empty name, which is left out
    have hsplit : (build true names).splitOn slash = [] :: (build false names).splitOn slash := by
      rw [build, if_pos rfl, List.singleton_append, List.splitOn_cons_eq_if_modifyHead,
        if_pos (beq_self_eq_true slash)]
      rfl
    rw [Path.names, hsplit, List.filter_cons_of_neg (by simp)]
    exact hrelative

end Build

/-! ### Folding -/

/-- Names of which no `..` takes one away: those that lead up come first, and there are none of them
at the root. -/
def Folded (absolute : Bool) (names : List Bytes) : Prop :=
  ∃ ups downs, names = List.replicate ups dotDot ++ downs ∧ dotDot ∉ downs ∧
    (absolute = true → ups = 0)

variable {absolute : Bool}

/-- There is nothing above the root, and one more folder above any that is seen from below. -/
theorem climb_replicate (ups : Nat) :
    climb absolute (List.replicate ups dotDot) dotDot
      = if absolute = true ∧ ups = 0 then [] else List.replicate (ups + 1) dotDot := by
  cases ups with
  | zero => simp [climb]
  | succ ups => simp [climb, List.replicate_succ]

theorem climb_of_ne {name : Bytes} (h : name ≠ dotDot) (above : List Bytes) :
    climb absolute above name = name :: above := if_pos h

theorem climb_cons_dotDot {last : Bytes} (h : last ≠ dotDot) (above : List Bytes) :
    climb absolute (last :: above) dotDot = above := by
  simp [climb, h]

/-- One more name leaves the stack in its form. -/
theorem folded_climb {above : List Bytes} (h : Folded absolute above.reverse) (name : Bytes) :
    Folded absolute (climb absolute above name).reverse := by
  obtain ⟨ups, downs, habove, hdowns, hroot⟩ := h
  obtain rfl : above = downs.reverse ++ List.replicate ups dotDot := by
    rw [← List.reverse_reverse above, habove, List.reverse_append, List.reverse_replicate]
  by_cases hname : name = dotDot
  · subst hname
    -- `..` takes away the last name that leads down, or leads up if there is none
    rcases List.eq_nil_or_concat downs with rfl | ⟨downs, last, rfl⟩
    · rw [List.reverse_nil, List.nil_append, climb_replicate]
      split
      · exact ⟨0, [], rfl, List.not_mem_nil, fun _ => rfl⟩
      · next hup =>
        refine ⟨ups + 1, [], by simp, List.not_mem_nil, fun habs => ?_⟩
        exact absurd ⟨habs, hroot habs⟩ hup
    · simp only [List.concat_eq_append, List.mem_append, List.mem_singleton, not_or] at hdowns
      rw [List.concat_eq_append, List.reverse_append, List.reverse_singleton, List.singleton_append,
        List.cons_append, climb_cons_dotDot (Ne.symm hdowns.2)]
      exact ⟨ups, downs, by simp, hdowns.1, hroot⟩
  · rw [climb_of_ne hname]
    refine ⟨ups, downs ++ [name], by simp, ?_, hroot⟩
    simp [hdowns, Ne.symm hname]

/-- What is folded is in its shortest form. -/
theorem folded_fold (names : List Bytes) : Folded absolute (fold absolute names) := by
  have key (above : List Bytes) (h : Folded absolute above.reverse) :
      Folded absolute (names.foldl (climb absolute) above).reverse := by
    induction names generalizing above with
    | nil => exact h
    | cons name rest ih => exact ih _ (folded_climb h name)
  exact key [] ⟨0, [], rfl, List.not_mem_nil, fun _ => rfl⟩

theorem mem_of_mem_climb {above : List Bytes} {name n : Bytes} (h : n ∈ climb absolute above name) :
    n ∈ above ∨ n = name ∨ n = dotDot := by
  by_cases hname : name = dotDot
  · subst hname
    cases above with
    | nil => cases absolute <;> simp_all [climb]
    | cons last above =>
      by_cases hlast : last = dotDot
      · simp_all [climb]
      · rw [climb_cons_dotDot hlast] at h
        exact .inl (List.mem_cons_of_mem last h)
  · rw [climb_of_ne hname] at h
    rcases List.mem_cons.mp h with rfl | h
    · exact .inr (.inl rfl)
    · exact .inl h

/-- To fold names is to leave some of them out. -/
theorem mem_of_mem_fold {names : List Bytes} {n : Bytes} (h : n ∈ fold absolute names) :
    n ∈ names ∨ n = dotDot := by
  replace h := List.mem_reverse.mp h
  have key (names above : List Bytes) (h : n ∈ names.foldl (climb absolute) above) :
      n ∈ above ∨ n ∈ names ∨ n = dotDot := by
    induction names generalizing above with
    | nil => exact .inl h
    | cons name rest ih =>
      rcases ih _ h with h | h | h
      · rcases mem_of_mem_climb h with h | rfl | h
        · exact .inl h
        · exact .inr (.inl List.mem_cons_self)
        · exact .inr (.inr h)
      · exact .inr (.inl (List.mem_cons_of_mem name h))
      · exact .inr (.inr h)
  simpa using key names [] h

theorem foldl_climb_of_not_mem {names : List Bytes} (h : dotDot ∉ names) (above : List Bytes) :
    names.foldl (climb absolute) above = names.reverse ++ above := by
  induction names generalizing above with
  | nil => rfl
  | cons name rest ih =>
    simp only [List.mem_cons, not_or] at h
    rw [List.foldl_cons, climb_of_ne (Ne.symm h.1), ih h.2]
    simp

theorem foldl_climb_replicate (ups above : Nat) :
    (List.replicate ups dotDot).foldl (climb false) (List.replicate above dotDot)
      = List.replicate (above + ups) dotDot := by
  induction ups generalizing above with
  | zero => rfl
  | succ ups ih =>
    rw [List.replicate_succ, List.foldl_cons, climb_replicate, if_neg (by simp), ih]
    congr 1
    omega

/-- Names in their shortest form are folded to themselves. -/
theorem fold_of_folded {names : List Bytes} (h : Folded absolute names) :
    fold absolute names = names := by
  obtain ⟨ups, downs, rfl, hdowns, hroot⟩ := h
  have hups : (List.replicate ups dotDot).foldl (climb absolute) []
      = List.replicate ups dotDot := by
    cases absolute with
    | true => rw [hroot rfl]; rfl
    | false => simpa using foldl_climb_replicate ups 0
  rw [fold, List.foldl_append, hups, foldl_climb_of_not_mem hdowns]
  simp

/-! ### Normalized paths -/

theorem isName_of_mem_fold {p : Path} {n : Bytes} (h : n ∈ fold absolute p.names) : IsName n := by
  rcases mem_of_mem_fold h with h | rfl
  · exact isName_of_mem_names h
  · exact isName_dotDot

@[simp] theorem isAbsolute_normalize (p : Path) : p.normalize.isAbsolute = p.isAbsolute :=
  isAbsolute_build (fun _ => isName_of_mem_fold) p.isAbsolute

theorem names_normalize (p : Path) : p.normalize.names = fold p.isAbsolute p.names :=
  names_build (fun _ => isName_of_mem_fold) p.isAbsolute

/-- **To normalize a path twice is to normalize it once.** -/
@[simp] theorem normalize_normalize (p : Path) : p.normalize.normalize = p.normalize := by
  rw [normalize, isAbsolute_normalize, names_normalize, fold_of_folded (folded_fold p.names)]
  rfl

/-- There is nothing above the root, but there may be something above a folder. -/
example : normalize (ofText "/../a/./b//..") = ofText "/a" ∧
    normalize (ofText "a/../../b/") = ofText "../b" := by decide

/-- A path is absolute if it is seen from one that is. -/
theorem isAbsolute_join {base : Path} (h : base.isAbsolute = true) (p : Path) :
    (base.join p).isAbsolute = true := by
  rw [join]
  split
  · next hp => exact hp
  · obtain ⟨rest, rfl⟩ : ∃ rest, base = slash :: rest := by
      cases base with
      | nil => simp [isAbsolute] at h
      | cons b rest => exact ⟨rest, by simpa [isAbsolute] using h⟩
    split <;> rfl

/-! ### Straight paths -/

/-- An absolute path that leads down from the root, name by name. -/
def Straight (p : Path) : Prop :=
  ∃ names, p = build true names ∧ ∀ n ∈ names, IsName n ∧ n ≠ dotDot

theorem Straight.isAbsolute {p : Path} (h : p.Straight) : p.isAbsolute = true := by
  obtain ⟨names, rfl, -⟩ := h
  rfl

/-- **A normalized absolute path is straight.** -/
theorem straight_normalize {p : Path} (h : p.isAbsolute = true) : p.normalize.Straight := by
  refine ⟨fold true p.names, by rw [normalize, h], fun n hn => ⟨isName_of_mem_fold hn, ?_⟩⟩
  have hfolded : Folded true (fold true p.names) := folded_fold p.names
  obtain ⟨ups, downs, hfold, hdowns, hroot⟩ := hfolded
  rw [hfold, hroot rfl, List.replicate_zero, List.nil_append] at hn
  rintro rfl
  exact hdowns hn

/-- A straight path is in its shortest form. -/
theorem Straight.normalize_eq {p : Path} (h : p.Straight) : p.normalize = p := by
  obtain ⟨names, rfl, hnames⟩ := h
  have hfolded : Folded true names :=
    ⟨0, names, rfl, fun hmem => (hnames _ hmem).2 rfl, fun _ => rfl⟩
  rw [normalize, names_build (fun n hn => (hnames n hn).1), isAbsolute_build fun n hn =>
    (hnames n hn).1, fold_of_folded hfolded]

end Path

/-! ### Locations -/

namespace Location

variable {l : Location}

/-- A path seen from a straight path is straight. -/
theorem straight_resolve (h : l.cwd.Straight) (p : Path) : (l.resolve p).Straight :=
  Path.straight_normalize (Path.isAbsolute_join h.isAbsolute p)

/-- To go to a straight path is to be there. -/
theorem changeDir_of_straight {p : Path} (h : p.Straight) :
    l.changeDir p = { l with cwd := p } := by
  rw [changeDir, resolve, Path.join, if_pos h.isAbsolute, h.normalize_eq]

end Location

end CommandShell
