import CommandShell.Regex.Positions
import Mathlib.Data.List.Basic

/-!
# What a pattern matches

A pattern is searched for by marking places of a text.  Here is what the marks stand for: a
pattern matches certain stretches of texts, depending on what stands before and after them, and
the places that are marked in the end are those where a match can end that begins at a marked
place.

The text is always cut in three: what stands before a stretch, the stretch, and what stands
after it.  A place is where such a cut is made.

## Main definitions

* `Occurrence` — a set of stretches within texts.
* `Occurrence.followedBy`, `Occurrence.times` — one after the other, and so many in a row.
* `Pattern.Matches` — the stretches that a pattern matches.
* `Follows` — a step on marks does what a set of stretches says.

## Main results

* `follows_ends` — the places of a pattern follow what the pattern matches.
* `Pattern.occursIn_iff` — a pattern matches somewhere in a text exactly if the text can be cut
  so that the pattern matches the middle.
-/

namespace CommandShell.Regex

open Unicode (CharSet)

/-! ### Stretches of texts -/

/-- A set of stretches, each given with what stands before it and after it. -/
abbrev Occurrence := Text → Text → Text → Prop

/-- A stretch of one set, right before one of another. -/
def Occurrence.followedBy (r s : Occurrence) : Occurrence := fun before m after =>
  ∃ u v, m = u ++ v ∧ r before u (v ++ after) ∧ s (before ++ u) v after

/-- So many stretches of a set, one right after the other. -/
def Occurrence.times (r : Occurrence) : Nat → Occurrence
  | 0 => fun _ m _ => m = []
  | n + 1 => r.followedBy (times r n)

namespace Pattern

/-- The stretches that a pattern matches, in the midst of what stands before and after. -/
def Matches : Pattern → Occurrence
  | .empty => fun _ m _ => m = []
  | .one s => fun _ m _ => ∃ c, m = [c] ∧ s.has c = true
  | .look l => fun before m after => m = [] ∧ l.holds before.getLast? after.head? = true
  | .seq p q => p.Matches.followedBy q.Matches
  | .alt p q => fun before m after => p.Matches before m after ∨ q.Matches before m after
  | .repeated times p => fun before m after =>
      ∃ n, times.least ≤ n ∧ (∀ most ∈ times.most, n ≤ max times.least most) ∧
        p.Matches.times n before m after
  | .capture p => p.Matches

end Pattern

namespace Occurrence

theorem followedBy_assoc (r s q : Occurrence) :
    (r.followedBy s).followedBy q = r.followedBy (s.followedBy q) := by
  funext before m after
  refine propext ⟨?_, ?_⟩
  · rintro ⟨_, w, rfl, ⟨u, v, rfl, hr, hs⟩, hq⟩
    exact ⟨u, v ++ w, by simp, by simpa using hr, v, w, rfl, hs, by simpa using hq⟩
  · rintro ⟨u, _, rfl, hr, v, w, rfl, hs, hq⟩
    exact ⟨u ++ v, w, by simp, ⟨u, v, rfl, by simpa using hr, hs⟩, by simpa using hq⟩

theorem times_add (r : Occurrence) (m n : Nat) :
    r.times (m + n) = (r.times m).followedBy (r.times n) := by
  induction m with
  | zero =>
    funext before m after
    simp [followedBy, times]
  | succ m ih => rw [Nat.add_right_comm, times, ih, ← followedBy_assoc, ← times]

/-- So many stretches and then some more, as many as is allowed. -/
theorem times_followedBy_iff {r : Occurrence} {least : Nat} {allowed : Nat → Prop}
    {before m after : Text} :
    (r.times least).followedBy (fun b m a => ∃ k, allowed k ∧ r.times k b m a) before m after ↔
      ∃ n, least ≤ n ∧ allowed (n - least) ∧ r.times n before m after := by
  constructor
  · rintro ⟨u, v, rfl, hu, k, hk, hv⟩
    exact ⟨least + k, by omega, by simpa using hk, times_add r least k ▸ ⟨u, v, rfl, hu, hv⟩⟩
  · rintro ⟨n, hn, hk, hr⟩
    obtain ⟨k, rfl⟩ := Nat.exists_eq_add_of_le hn
    obtain ⟨u, v, hm, hu, hv⟩ := times_add r least k ▸ hr
    exact ⟨u, v, hm, hu, k, by simpa using hk, hv⟩

end Occurrence

/-! ### Marks -/

/-- A step on the marks of a text does what a set of stretches says: afterwards a place is
marked exactly if a stretch of the set ends there that begins at a marked place. -/
structure Follows (t : Text) (f : List Bool → List Bool) (r : Occurrence) : Prop where
  /-- The step keeps one mark for each place. -/
  length_eq : ∀ {marks : List Bool}, marks.length = t.length + 1 →
    (f marks).length = t.length + 1
  /-- Where the marks are after the step. -/
  marked_iff : ∀ {marks : List Bool}, marks.length = t.length + 1 →
    ∀ {front back : Text}, t = front ++ back →
      ((f marks)[front.length]? = some true ↔
        ∃ before m, front = before ++ m ∧ marks[before.length]? = some true ∧ r before m back)

section Marks

variable {t : Text} {marks others : List Bool} {i : Nat}

theorem length_either (h : others.length = marks.length) :
    (either marks others).length = marks.length := by
  simp [either, h]

theorem marked_either (h : others.length = marks.length) :
    (either marks others)[i]? = some true ↔ marks[i]? = some true ∨ others[i]? = some true := by
  rw [either, List.getElem?_zipWith]
  by_cases hi : i < marks.length
  · rw [List.getElem?_eq_getElem hi, List.getElem?_eq_getElem (h ▸ hi)]
    simp
  · rw [List.getElem?_eq_none (by omega), List.getElem?_eq_none (by omega)]
    simp

/-- A round that adds a mark makes the marks more. -/
theorem count_lt_count_either (h : others.length = marks.length)
    (hmore : either marks others ≠ marks) :
    marks.count true < (either marks others).count true := by
  induction marks generalizing others with
  | nil => simp [either] at hmore
  | cons mark marks ih =>
    obtain ⟨other, others, rfl⟩ := List.exists_cons_of_length_eq_add_one h
    have hlength : others.length = marks.length := by simpa using h
    have hle : marks.count true ≤ (either marks others).count true := by
      by_cases hrest : either marks others = marks
      · exact Nat.le_of_eq (by rw [hrest])
      · exact Nat.le_of_lt (ih hlength hrest)
    change (mark || other) :: either marks others ≠ mark :: marks at hmore
    change _ < ((mark || other) :: either marks others).count true
    cases mark <;> cases other
    case false.true => simpa using Nat.lt_succ_of_le hle
    all_goals simpa using ih hlength (by simpa using hmore)

theorem getElem?_neighboursFrom (before : Option Char) (front back : Text) :
    (neighboursFrom before (front ++ back))[front.length]?
      = some (front.getLast?.or before, back.head?) := by
  induction front generalizing before with
  | nil => cases back <;> rfl
  | cons c front ih =>
    have hlast : (c :: front).getLast?.or before = front.getLast?.or (some c) := by
      rw [List.getLast?_cons]
      cases front.getLast? <;> rfl
    rw [List.cons_append, neighboursFrom, List.length_cons, List.getElem?_cons_succ, ih, hlast]

theorem length_neighbours (t : Text) : (neighbours t).length = t.length + 1 := by
  have key : ∀ before, (neighboursFrom before t).length = t.length + 1 := by
    induction t with
    | nil => intro _; rfl
    | cons c t ih => intro before; rw [neighboursFrom, List.length_cons, ih, List.length_cons]
  exact key none

end Marks

section Follows

variable {t : Text} {marks : List Bool} {f g : List Bool → List Bool} {r s : Occurrence}

theorem follows_id : Follows t id fun _ m _ => m = [] where
  length_eq h := h
  marked_iff _ := fun _ => by simp

theorem follows_after (s : CharSet) :
    Follows t (after s t) fun _ m _ => ∃ c, m = [c] ∧ s.has c = true where
  length_eq h := by simp [after, h]
  marked_iff {marks} h {front back} ht := by
    rcases List.eq_nil_or_concat' front with rfl | ⟨front, c, rfl⟩
    · simp [after]
    · have hc : t[front.length]? = some c := by simp [ht]
      have hmark : (after s t marks)[(front ++ [c]).length]? = some true ↔
          marks[front.length]? = some true ∧ s.has c = true := by
        rw [List.length_append, List.length_singleton, after, List.getElem?_cons_succ,
          List.getElem?_zipWith, hc]
        cases marks[front.length]? <;> simp
      rw [hmark]
      constructor
      · rintro ⟨hfront, hhas⟩
        exact ⟨front, [c], rfl, hfront, c, rfl, hhas⟩
      · rintro ⟨before, m, hcut, hbefore, d, rfl, hhas⟩
        obtain ⟨rfl, hcd⟩ := List.append_inj' hcut rfl
        obtain rfl : c = d := by simpa using hcd
        exact ⟨hbefore, hhas⟩

theorem follows_restrict (l : Look) :
    Follows t (restrict l t) fun before m after =>
      m = [] ∧ l.holds before.getLast? after.head? = true where
  length_eq h := by simp [restrict, length_neighbours, h]
  marked_iff {marks} h {front back} ht := by
    have hneighbours : (neighbours t)[front.length]? = some (front.getLast?, back.head?) := by
      rw [ht, neighbours, getElem?_neighboursFrom, Option.or_none]
    have hmark : (restrict l t marks)[front.length]? = some true ↔
        marks[front.length]? = some true ∧ l.holds front.getLast? back.head? = true := by
      rw [restrict, List.getElem?_zipWith, hneighbours]
      cases marks[front.length]? <;> simp
    rw [hmark]
    constructor
    · rintro ⟨hfront, hholds⟩
      exact ⟨front, [], by simp, hfront, rfl, hholds⟩
    · rintro ⟨before, m, rfl, hbefore, rfl, hholds⟩
      simpa using ⟨hbefore, by simpa using hholds⟩

theorem Follows.comp (hf : Follows t f r) (hg : Follows t g s) :
    Follows t (fun marks => g (f marks)) (r.followedBy s) where
  length_eq h := hg.length_eq (hf.length_eq h)
  marked_iff {marks} h {front back} ht := by
    rw [hg.marked_iff (hf.length_eq h) ht]
    constructor
    · rintro ⟨middle, v, rfl, hmiddle, hs⟩
      obtain ⟨before, u, rfl, hbefore, hr⟩ := (hf.marked_iff h (by simpa using ht)).mp hmiddle
      exact ⟨before, u ++ v, by simp, hbefore, u, v, rfl, hr, hs⟩
    · rintro ⟨before, _, rfl, hbefore, u, v, rfl, hr, hs⟩
      refine ⟨before ++ u, v, by simp, ?_, hs⟩
      exact (hf.marked_iff h (by simpa using ht)).mpr ⟨before, u, rfl, hbefore, hr⟩

theorem Follows.congr (hf : Follows t f r)
    (h : ∀ before m after, r before m after ↔ s before m after) : Follows t f s :=
  (funext fun b => funext fun m => funext fun a => propext (h b m a) : r = s) ▸ hf

theorem Follows.either (hf : Follows t f r) (hg : Follows t g s) :
    Follows t (fun marks => Regex.either (f marks) (g marks))
      fun before m after => r before m after ∨ s before m after where
  length_eq h := by rw [length_either] <;> simp [hf.length_eq h, hg.length_eq h]
  marked_iff {marks} h {front back} ht := by
    rw [marked_either (by rw [hf.length_eq h, hg.length_eq h]), hf.marked_iff h ht,
      hg.marked_iff h ht]
    simp only [and_or_left, exists_or]

theorem Follows.rounds (hf : Follows t f r) (n : Nat) :
    Follows t (Regex.rounds f n) (r.times n) := by
  induction n with
  | zero => exact follows_id
  | succ n ih => exact hf.comp ih

/-! ### Rounds without end -/

/-- Where a step adds no mark, no number of steps does. -/
theorem Follows.marked_of_times (hf : Follows t f r) (h : marks.length = t.length + 1)
    (hstop : Regex.either marks (f marks) = marks) {k : Nat} {before m back : Text}
    (ht : t = before ++ m ++ back) (hbefore : marks[before.length]? = some true)
    (hr : r.times k before m back) : marks[(before ++ m).length]? = some true := by
  induction k generalizing before m with
  | zero => simpa [show m = [] from hr] using hbefore
  | succ k ih =>
    obtain ⟨u, v, rfl, hu, hv⟩ := hr
    have hlength : (f marks).length = marks.length := by rw [hf.length_eq h, h]
    have hcut : t = (before ++ u) ++ (v ++ back) := by simpa using ht
    have hmiddle : marks[(before ++ u).length]? = some true := by
      rw [← hstop, marked_either hlength]
      exact .inr ((hf.marked_iff h hcut).mpr ⟨before, u, rfl, hbefore, hu⟩)
    simpa using ih (by simpa using ht) hmiddle hv

/-- Rounds that stop when nothing is added are no more than so many rounds. -/
theorem Follows.spread (hf : Follows t f r) (n : Nat) :
    Follows t (Regex.spread f n) fun before m after => ∃ k ≤ n, r.times k before m after := by
  induction n with
  | zero => exact ⟨fun h => h, fun h => by simp [Regex.spread, Occurrence.times]⟩
  | succ n ih =>
    refine ⟨fun {marks} h => ?_, fun {marks} h {front back} ht => ?_⟩
    all_goals
      have hlength : (f marks).length = marks.length := by rw [hf.length_eq h, h]
      have hmore : (Regex.either marks (f marks)).length = t.length + 1 := by
        rw [length_either hlength, h]
      rw [Regex.spread]
      split
    · exact h
    · exact ih.length_eq hmore
    case isTrue hstop =>
      -- the marked places are closed under steps, so more steps than `n` lead no further
      constructor
      · exact fun hfront => ⟨front, [], by simp, hfront, 0, Nat.zero_le _, rfl⟩
      · rintro ⟨before, m, rfl, hbefore, k, -, hr⟩
        exact hf.marked_of_times h hstop ht hbefore hr
    case isFalse =>
      -- one round has been made: what begins where it has led begins a step earlier
      rw [ih.marked_iff hmore ht]
      constructor
      · rintro ⟨before, m, rfl, hbefore, k, hk, hr⟩
        rcases (marked_either hlength).mp hbefore with hbefore | hbefore
        · exact ⟨before, m, rfl, hbefore, k, by omega, hr⟩
        · obtain ⟨first, u, rfl, hfirst, hu⟩ := (hf.marked_iff h (by simpa using ht)).mp hbefore
          exact ⟨first, u ++ m, by simp, hfirst, k + 1, by omega, u, m, rfl, hu, hr⟩
      · rintro ⟨before, m, rfl, hbefore, k, hk, hr⟩
        cases k with
        | zero =>
          exact ⟨before, m, rfl, (marked_either hlength).mpr (.inl hbefore), 0, by omega, hr⟩
        | succ k =>
          obtain ⟨u, v, rfl, hu, hv⟩ := hr
          have hcut : t = (before ++ u) ++ (v ++ back) := by simpa using ht
          have hmiddle := (hf.marked_iff h hcut).mpr ⟨before, u, rfl, hbefore, hu⟩
          exact ⟨before ++ u, v, by simp, (marked_either hlength).mpr (.inr hmiddle), k,
            by omega, hv⟩

/-- As many rounds as there are places leave nothing to be added: each round marks one more
place, or is the last. -/
theorem either_spread (hf : Follows t f r) {n : Nat} (h : marks.length = t.length + 1)
    (hn : t.length + 1 ≤ n + marks.count true) :
    Regex.either (Regex.spread f n marks) (f (Regex.spread f n marks))
      = Regex.spread f n marks := by
  induction n generalizing marks with
  | zero =>
    have hlength : (f marks).length = marks.length := by rw [hf.length_eq h, h]
    by_contra hmore
    have hcount := count_lt_count_either hlength hmore
    have hle : (Regex.either marks (f marks)).count true ≤ _ := List.count_le_length
    rw [length_either hlength] at hle
    omega
  | succ n ih =>
    have hlength : (f marks).length = marks.length := by rw [hf.length_eq h, h]
    rw [Regex.spread]
    split
    case isTrue hstop => exact hstop
    case isFalse hmore =>
      have hcount := count_lt_count_either hlength hmore
      exact ih (by rw [length_either hlength, h]) (by omega)

/-- Rounds that stop when nothing is added, as many as there are places, are as good as any
number of rounds. -/
theorem Follows.closure (hf : Follows t f r) :
    Follows t (Regex.spread f (t.length + 1)) fun before m after =>
      ∃ k, r.times k before m after where
  length_eq h := (hf.spread _).length_eq h
  marked_iff {marks} h {front back} ht := by
    have hspread := hf.spread (t.length + 1)
    rw [hspread.marked_iff h ht]
    constructor
    · rintro ⟨before, m, hcut, hbefore, k, -, hr⟩
      exact ⟨before, m, hcut, hbefore, k, hr⟩
    · rintro ⟨before, m, rfl, hbefore, k, hr⟩
      have hcut : t = before ++ (m ++ back) := by simpa using ht
      have hbegin := (hspread.marked_iff h hcut).mpr
        ⟨before, [], by simp, hbefore, 0, Nat.zero_le _, rfl⟩
      refine (hspread.marked_iff h ht).mp ?_
      exact hf.marked_of_times (hspread.length_eq h) (either_spread hf h (by omega)) ht hbegin hr

end Follows

/-! ### Patterns -/

theorem ends_repeated (t : Text) (times : Repeats) (p : Pattern) :
    (Pattern.repeated times p).ends t = fun marks =>
      spread (p.ends t)
        (match times.most with
          | none => t.length + 1
          | some most => most - times.least)
        (rounds (p.ends t) times.least marks) := rfl

/-- The places of a pattern follow what the pattern matches. -/
theorem follows_ends (t : Text) (p : Pattern) : Follows t (p.ends t) p.Matches := by
  induction p with
  | empty => exact follows_id
  | one s => exact follows_after s
  | look l => exact follows_restrict l
  | seq p q ihp ihq => exact ihp.comp ihq
  | alt p q ihp ihq => exact ihp.either ihq
  | repeated times p ih =>
    have hleast := ih.rounds times.least
    cases hmost : times.most with
    | none =>
      rw [ends_repeated, hmost]
      refine (hleast.comp ih.closure).congr fun before m after => ?_
      have hiff := @Occurrence.times_followedBy_iff p.Matches times.least (fun _ => True) before m
        after
      simpa [Pattern.Matches, hmost] using hiff
    | some most =>
      rw [ends_repeated, hmost]
      refine (hleast.comp (ih.spread _)).congr fun before m after => ?_
      rw [Occurrence.times_followedBy_iff]
      simp only [Pattern.Matches, hmost, Option.mem_some_iff, forall_eq']
      have hbound (n : Nat) (hn : times.least ≤ n) :
          n - times.least ≤ most - times.least ↔ n ≤ max times.least most := by omega
      exact exists_congr fun n => and_congr_right fun hn => by rw [hbound n hn]
  | capture p ih => exact ih

/-- A pattern matches somewhere in a text exactly if the text can be cut so that the pattern
matches the middle. -/
theorem Pattern.occursIn_iff (p : Pattern) (t : Text) :
    p.occursIn t = true ↔
      ∃ before m after, t = before ++ m ++ after ∧ p.Matches before m after := by
  have hlength : (List.replicate (t.length + 1) true).length = t.length + 1 :=
    List.length_replicate
  have hfollows := follows_ends t p
  rw [Pattern.occursIn, List.any_eq_true]
  constructor
  · rintro ⟨mark, hmem, rfl : mark = true⟩
    obtain ⟨j, hj⟩ := List.mem_iff_getElem?.mp hmem
    have hle : j ≤ t.length := by
      have hlt := (List.getElem?_eq_some_iff.mp hj).1
      rw [hfollows.length_eq hlength] at hlt
      omega
    have hfront : (t.take j).length = j := by simp [hle]
    obtain ⟨before, m, hcut, -, hmatch⟩ := (hfollows.marked_iff hlength
      (List.take_append_drop j t).symm).mp (by rw [hfront]; exact hj)
    exact ⟨before, m, t.drop j, by rw [← hcut, List.take_append_drop], hmatch⟩
  · rintro ⟨before, m, after, ht, hmatch⟩
    refine ⟨true, List.mem_of_getElem? ((hfollows.marked_iff hlength ht).mpr ?_), rfl⟩
    have hplace : before.length < t.length + 1 := by
      rw [ht, List.length_append, List.length_append]
      omega
    refine ⟨before, m, rfl, ?_, hmatch⟩
    rw [List.getElem?_replicate, if_pos hplace]

end CommandShell.Regex
