import CommandShell.Proofs.Paths

/-!
# Paths seen from paths

To see a path from another one is to put their names in a row, unless it begins at the root.  So a
path that is only to be brought into its shortest form may be put together in any order, and its
parts may be brought into their shortest form before that: what is folded early is folded the same.

A session that goes from folder to folder is therefore where a single step would have led, along
all of its steps joined.

## Main definitions

* `Path.Shortest` — paths in their shortest form.

## Main results

* `Path.names_join`, `Path.isAbsolute_join_eq` — what a joined path is made of.
* `Path.normalize_eq_self_iff` — which paths are in their shortest form.
* `Path.normalize_join_dotDot` — a name followed by `..` is nothing.
* `Path.normalize_join` — **a path may be brought into its shortest form before another is joined.**
* `Location.changeDir_changeDir` — **two steps are one.**
* `Location.normalize_cwd_foldl_changeDir`, `Location.resolve_foldl_changeDir` — where a session is,
  and how paths are seen from there.
* `lexical_paths` — **paths are lexical**, all together.
-/

namespace CommandShell

namespace Path

/-! ### What a joined path is made of -/

theorem names_append_slash (p q : Path) : names (p ++ slash :: q) = names p ++ names q := by
  rw [names, List.splitOn_append_cons_self, List.filter_append]
  rfl

/-- The names of a joined path are those of both, one after the other. -/
theorem names_join (base p : Path) :
    (base.join p).names = if p.isAbsolute then p.names else base.names ++ p.names := by
  rw [join]
  split
  · rfl
  split
  · next hbase =>
    rcases hbase with rfl | hslash
    · rfl
    · obtain ⟨front, rfl⟩ := List.getLast?_eq_some_iff.mp hslash
      have hfront : names (front ++ [slash]) = names front ++ [] := names_append_slash front []
      rw [List.append_assoc, List.singleton_append, names_append_slash, hfront, List.append_nil]
  · exact names_append_slash base p

/-- A joined path begins at the root if either does. -/
theorem isAbsolute_join_eq (base p : Path) :
    (base.join p).isAbsolute = (p.isAbsolute || base.isAbsolute) := by
  rw [join]
  split
  · next hp => rw [hp, Bool.true_or]
  · next hp =>
    rw [Bool.not_eq_true] at hp
    rw [hp, Bool.false_or]
    cases base with
    | nil => exact hp
    | cons b rest => split <;> rfl

theorem nil_join (p : Path) : join [] p = p := by
  rw [join, if_pos (Or.inl rfl : ([] : Path) = [] ∨ _), List.nil_append, ite_self]

/-! ### Shortest forms -/

/-- A path in its shortest form: no name in it is empty or `.`, and `..` only leads up from where a
relative path begins. -/
def Shortest (p : Path) : Prop :=
  ∃ names, p = build p.isAbsolute names ∧ (∀ n ∈ names, IsName n) ∧ Folded p.isAbsolute names

theorem shortest_normalize (p : Path) : p.normalize.Shortest := by
  refine ⟨fold p.isAbsolute p.names, ?_, fun n => isName_of_mem_fold, ?_⟩
  · rw [isAbsolute_normalize, normalize]
  · rw [isAbsolute_normalize]
    exact folded_fold p.names

/-- **Only the shortest forms are left alone.** -/
theorem normalize_eq_self_iff (p : Path) : p.normalize = p ↔ p.Shortest := by
  constructor
  · intro h
    rw [← h]
    exact p.shortest_normalize
  · rintro ⟨names, hp, hnames, hfolded⟩
    have hparts : p.names = names := by rw [hp, names_build hnames]
    rw [normalize, hparts, fold_of_folded hfolded, ← hp]

/-! ### Shortest forms of joined paths -/

theorem normalize_congr {p q : Path} (habsolute : p.isAbsolute = q.isAbsolute)
    (hnames : p.names = q.names) : p.normalize = q.normalize := by
  rw [normalize, normalize, habsolute, hnames]

/-- Names that are folded early are folded the same. -/
theorem fold_fold_append (absolute : Bool) (xs ys : List Bytes) :
    fold absolute (fold absolute xs ++ ys) = fold absolute (xs ++ ys) := by
  have hstack : (fold absolute xs).foldl (climb absolute) [] = xs.foldl (climb absolute) [] :=
    List.reverse_inj.mp (fold_of_folded (folded_fold xs))
  show ((fold absolute xs ++ ys).foldl (climb absolute) []).reverse
    = ((xs ++ ys).foldl (climb absolute) []).reverse
  rw [List.foldl_append, List.foldl_append, hstack]

/-- **A path may be brought into its shortest form before another is joined.** -/
theorem normalize_join (base p : Path) :
    (base.normalize.join p).normalize = (base.join p).normalize := by
  have habsolute : (base.normalize.join p).isAbsolute = (base.join p).isAbsolute := by
    rw [isAbsolute_join_eq, isAbsolute_join_eq, isAbsolute_normalize]
  have hfold : fold (base.join p).isAbsolute (base.normalize.join p).names
      = fold (base.join p).isAbsolute (base.join p).names := by
    rw [isAbsolute_join_eq, names_join, names_join, names_normalize]
    split
    · rfl
    · next hp =>
      rw [Bool.not_eq_true] at hp
      rw [hp, Bool.false_or, fold_fold_append]
  show build (base.normalize.join p).isAbsolute _ = build (base.join p).isAbsolute _
  rw [habsolute, hfold]

/-- It makes no difference in which order paths are joined. -/
theorem normalize_join_join (base p q : Path) :
    ((base.join p).join q).normalize = (base.join (p.join q)).normalize := by
  apply normalize_congr
  · rw [isAbsolute_join_eq, isAbsolute_join_eq, isAbsolute_join_eq, isAbsolute_join_eq,
      Bool.or_assoc]
  · simp only [names_join, isAbsolute_join_eq]
    cases p.isAbsolute <;> cases q.isAbsolute <;> simp

/-- What stands between slashes is a path of one name, seen from anywhere. -/
theorem IsName.names_eq {n : Bytes} (h : IsName n) : names n = [n] ∧ isAbsolute n = false := by
  have hall : ∀ m ∈ [n], IsName m := List.forall_mem_singleton.mpr h
  have hbuild : build false [n] = n := by simp [build]
  have hnames := names_build hall false
  have habsolute := isAbsolute_build hall false
  rw [hbuild] at hnames habsolute
  exact ⟨hnames, habsolute⟩

/-- **A name followed by `..` is nothing**, whatever the path before it is. -/
theorem normalize_join_dotDot (p : Path) {n : Bytes} (hn : IsName n) (hne : n ≠ dotDot) :
    ((p.join n).join dotDot).normalize = p.normalize := by
  have hfold : fold p.isAbsolute (p.names ++ [n] ++ [dotDot]) = fold p.isAbsolute p.names := by
    simp only [fold, List.foldl_append, List.foldl_cons, List.foldl_nil]
    rw [climb_of_ne hne, climb_cons_dotDot hne]
  obtain ⟨hname, hrelative⟩ := hn.names_eq
  obtain ⟨hup, hupRelative⟩ := isName_dotDot.names_eq
  rw [normalize, normalize, isAbsolute_join_eq, isAbsolute_join_eq, names_join, names_join,
    hrelative, hupRelative, hname, hup]
  exact congrArg (build p.isAbsolute) hfold

/-- To join nothing makes no difference. -/
theorem normalize_join_nil (base : Path) : (base.join []).normalize = base.normalize := by
  apply normalize_congr
  · rw [isAbsolute_join_eq]
    rfl
  · rw [names_join, if_neg (by decide)]
    exact List.append_nil _

end Path

namespace Location

variable (l : Location)

/-- **Two steps are one.** -/
theorem changeDir_changeDir (p q : Path) :
    (l.changeDir p).changeDir q = l.changeDir (p.join q) := by
  have hcwd : ((l.cwd.join p).normalize.join q).normalize = (l.cwd.join (p.join q)).normalize := by
    rw [Path.normalize_join, Path.normalize_join_join]
  show (⟨l.home, ((l.cwd.join p).normalize.join q).normalize⟩ : Location) = l.changeDir (p.join q)
  rw [hcwd]
  rfl

/-- Any number of steps is one step along all of them. -/
theorem foldl_changeDir (p : Path) (ps : List Path) :
    (p :: ps).foldl changeDir l = l.changeDir (ps.foldl Path.join p) := by
  induction ps generalizing p with
  | nil => rfl
  | cons q rest ih =>
    calc (p :: q :: rest).foldl changeDir l
        = (p.join q :: rest).foldl changeDir l := by
          rw [List.foldl_cons, List.foldl_cons, List.foldl_cons, changeDir_changeDir]
      _ = l.changeDir ((q :: rest).foldl Path.join p) := ih (p.join q)

/-- **Where a session is**: where all of its steps lead, joined to where it has been before. -/
theorem normalize_cwd_foldl_changeDir (ps : List Path) :
    (ps.foldl changeDir l).cwd.normalize = (ps.foldl Path.join l.cwd).normalize := by
  -- the path so far need not be in its shortest form
  have key (ps : List Path) (l : Location) (base : Path)
      (hcwd : l.cwd.normalize = base.normalize) :
      (ps.foldl changeDir l).cwd.normalize = (ps.foldl Path.join base).normalize := by
    induction ps generalizing l base with
    | nil => exact hcwd
    | cons p rest ih =>
      refine ih (l.changeDir p) (base.join p) ?_
      show (l.cwd.join p).normalize.normalize = (base.join p).normalize
      rw [Path.normalize_normalize, ← Path.normalize_join, hcwd, Path.normalize_join]
  exact key ps l l.cwd rfl

/-- How a path is seen depends on the steps of the session only as they are joined. -/
theorem resolve_foldl_changeDir (ps : List Path) (p : Path) :
    (ps.foldl changeDir l).resolve p = ((ps.foldl Path.join l.cwd).join p).normalize := by
  calc ((ps.foldl changeDir l).cwd.join p).normalize
      = ((ps.foldl changeDir l).cwd.normalize.join p).normalize := (Path.normalize_join _ p).symm
    _ = ((ps.foldl Path.join l.cwd).normalize.join p).normalize := by
      rw [normalize_cwd_foldl_changeDir]
    _ = ((ps.foldl Path.join l.cwd).join p).normalize := Path.normalize_join _ p

/-- No step of a session leads to another home. -/
theorem home_foldl_changeDir (ps : List Path) : (ps.foldl changeDir l).home = l.home := by
  induction ps generalizing l with
  | nil => rfl
  | cons p rest ih => exact ih (l.changeDir p)

/-- A session that has just begun goes nowhere along nothing. -/
theorem changeDir_nil_start (base : Path) : (start base).changeDir [] = start base := by
  have hcwd : (base.normalize.join []).normalize = base.normalize := by
    rw [Path.normalize_join_nil, Path.normalize_normalize]
  rw [changeDir, resolve, start, hcwd]

/-- The steps of a session are one step along all of them, be there any or not. -/
theorem foldl_changeDir_start (base : Path) (ps : List Path) :
    ps.foldl changeDir (start base) = (start base).changeDir (ps.foldl Path.join []) := by
  cases ps with
  | nil => exact (changeDir_nil_start base).symm
  | cons p rest => rw [foldl_changeDir, List.foldl_cons, Path.nil_join]

end Location

/-! ### Lexical paths -/

/-- **Paths are lexical.**  A shortest form is in that form, is one of the same kind of path, and is
found also from a path that is partly in it.  Just the paths in that form are left alone, and `..`
takes back the name before it, whatever the files are.  So the steps of a session are one step along
all of them; only where they lead decides how paths are seen from there, and none leads to another
home. -/
theorem lexical_paths :
    (∀ a b : Path, (a.join b).normalize = (a.normalize.join b).normalize) ∧
    (∀ p : Path, p.normalize.normalize = p.normalize) ∧
    (∀ p : Path, p.normalize.Shortest) ∧
    (∀ p : Path, p.normalize = p ↔ p.Shortest) ∧
    (∀ (p : Path) (n : Bytes), Path.IsName n → n ≠ Path.dotDot →
      ((p.join n).join Path.dotDot).normalize = p.normalize) ∧
    (∀ p : Path, p.normalize.isAbsolute = p.isAbsolute) ∧
    (∀ (l : Location) (p q : Path), (l.changeDir p).changeDir q = l.changeDir (p.join q)) ∧
    (∀ (l : Location) (p : Path) (ps : List Path),
      (p :: ps).foldl Location.changeDir l = l.changeDir (ps.foldl Path.join p)) ∧
    (∀ (base : Path) (ps : List Path), ps.foldl Location.changeDir (Location.start base)
      = (Location.start base).changeDir (ps.foldl Path.join [])) ∧
    (∀ (l : Location) (ps : List Path) (p : Path), (ps.foldl Location.changeDir l).resolve p
      = ((ps.foldl Path.join l.cwd).join p).normalize) ∧
    (∀ (l l' : Location) (ps ps' : List Path) (p : Path),
      (ps.foldl Location.changeDir l).cwd = (ps'.foldl Location.changeDir l').cwd →
      (ps.foldl Location.changeDir l).resolve p = (ps'.foldl Location.changeDir l').resolve p) ∧
    (∀ (l : Location) (ps : List Path), (ps.foldl Location.changeDir l).home = l.home) := by
  refine ⟨fun a b => (Path.normalize_join a b).symm, Path.normalize_normalize,
    Path.shortest_normalize, Path.normalize_eq_self_iff,
    fun p n hn hne => p.normalize_join_dotDot hn hne, Path.isAbsolute_normalize,
    Location.changeDir_changeDir, Location.foldl_changeDir, Location.foldl_changeDir_start,
    Location.resolve_foldl_changeDir, ?_, Location.home_foldl_changeDir⟩
  intro l l' ps ps' p hcwd
  rw [Location.resolve, Location.resolve, hcwd]

end CommandShell
