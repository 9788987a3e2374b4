import CommandShell.Proofs.CountTotals
import Mathlib.Data.List.Nodup

/-!
# Listings

The operating system gives the entries of a folder in any order, and `ls` shows them in one order:
that of the texts that are shown, which are the names as far as they are text, with a slash after
those that lead to folders.

What a path leads to does not depend on the order of entries either, as long as no two of them have
the same way.  So two file systems with the same entries are listed alike.

## Main definitions

* `FileTree.Distinct` — no two entries have the same way.
* `FileTree.LeadsToFolder`, `FileTree.shownName` — what is shown of an entry.
* `FileTree.Lists` — rows that show a folder.
* `listedFolder?` — the folder that `ls` lists.

## Main results

* `textLe_iff` — texts are in the order of code points.
* `FileTree.find?_of_perm`, `FileTree.stat_of_perm` — entries in another order are the same files.
* `listing_of_perm` — sorting takes away every trace of the order.
* `runCommand_ls` — **what `ls` writes does not depend on the order of entries.**
-/

namespace CommandShell

/-! ### The order of texts -/

/-- **Texts are in the order of the code points of their characters.** -/
theorem textLe_iff {s t : Text} : textLe s t = true ↔ ¬ t < s := by
  induction s generalizing t with
  | nil => simp [textLe]
  | cons c s ih =>
    cases t with
    | nil => simp [textLe]
    | cons d t =>
      have hlt : d < c ↔ d.toNat < c.toNat := Char.lt_def.trans UInt32.lt_iff_toNat_lt
      have heq : c = d ↔ c.toNat = d.toNat := Char.toNat_inj.symm
      rw [textLe, List.cons_lt_cons_iff, hlt, eq_comm (a := d)]
      simp only [Bool.or_eq_true, Bool.and_eq_true, decide_eq_true_eq, beq_iff_eq, ih, heq]
      -- the first characters decide unless they are the same
      rcases Nat.lt_trichotomy c.toNat d.toNat with h | h | h
      · simp [h, Nat.lt_asymm h, Nat.ne_of_lt h]
      · simp [h]
      · simp [h, Nat.lt_asymm h, Nat.ne_of_gt h]

theorem textLe_trans (a b c : Text) (hab : textLe a b = true) (hbc : textLe b c = true) :
    textLe a c = true :=
  textLe_iff.mpr (List.le_trans (textLe_iff.mp hab) (textLe_iff.mp hbc))

theorem textLe_total (a b : Text) : (textLe a b || textLe b a) = true := by
  rw [Bool.or_eq_true, textLe_iff, textLe_iff]
  exact List.le_total a b

theorem textLe_antisymm {a b : Text} (hab : textLe a b = true) (hba : textLe b a = true) : a = b :=
  List.le_antisymm (textLe_iff.mp hab) (textLe_iff.mp hba)

/-! ### Entries in another order -/

namespace FileTree

/-- No two entries have the same way. -/
def Distinct (t : FileTree) : Prop := (t.entries.map Prod.fst).Nodup

/-- An entry is found at the end of its way. -/
theorem find?_eq_some_iff {t : FileTree} (ht : t.Distinct) {way : Way} (hway : way ≠ [])
    {e : Entry} : t.find? way = some e ↔ (way, e) ∈ t.entries := by
  rw [find?, if_neg hway, Option.map_eq_some_iff]
  constructor
  · rintro ⟨⟨other, _⟩, hfind, rfl⟩
    obtain rfl : other = way := by simpa using List.find?_some hfind
    exact List.mem_of_find?_eq_some hfind
  · intro hmem
    have hsome : (t.entries.find? fun entry => entry.1 = way).isSome := by
      rw [List.find?_isSome]
      exact ⟨_, hmem, by simp⟩
    obtain ⟨found, hfind⟩ := Option.isSome_iff_exists.mp hsome
    have hfound : found.1 = way := by simpa using List.find?_some hfind
    have hsame : found = (way, e) :=
      List.inj_on_of_nodup_map ht (List.mem_of_find?_eq_some hfind) hmem hfound
    exact ⟨found, hfind, congrArg Prod.snd hsame⟩

section Perm

variable {t u : FileTree} (ht : t.Distinct) (h : t.entries.Perm u.entries)
include ht h

/-- **Entries in another order are the same files.** -/
theorem find?_of_perm (way : Way) : t.find? way = u.find? way := by
  rcases eq_or_ne way [] with rfl | hway
  · rfl
  · have hu : u.Distinct := (h.map Prod.fst).nodup_iff.mp ht
    refine Option.ext fun e => ?_
    rw [find?_eq_some_iff ht hway, find?_eq_some_iff hu hway, h.mem_iff]

theorem walkNames_of_perm (follow : Bool) (fuel links : Nat) (way : Way) (names : List Bytes) :
    t.walkNames follow fuel links way names = u.walkNames follow fuel links way names := by
  induction fuel generalizing links way names with
  | zero => rfl
  | succ fuel ih =>
    cases names with
    | nil => rfl
    | cons name rest => simp only [walkNames, find?_of_perm ht h, ih]

/-- **A path leads to the same entry.** -/
theorem stat_of_perm (start : Way) (p : Path) : t.stat start p = u.stat start p := by
  simp only [stat, walk, walkNames_of_perm ht h, find?_of_perm ht h]

theorem isFolder_of_perm (start : Way) (p : Path) : t.isFolder start p = u.isFolder start p := by
  rw [isFolder, isFolder, stat_of_perm ht h]

end Perm

/-! ### What is shown -/

/-- **An entry leads to a folder**: it is one, or it is a link and the path under which it is shown
leads to one. -/
def LeadsToFolder (t : FileTree) (start : Way) (p : Path) : Entry → Prop
  | .folder => True
  | .link _ => t.isFolder start p = true
  | _ => False

instance (t : FileTree) (start : Way) (p : Path) : DecidablePred (t.LeadsToFolder start p)
  | .folder => inferInstanceAs (Decidable True)
  | .link _ => inferInstanceAs (Decidable (_ = true))
  | .file _ _ => inferInstanceAs (Decidable False)
  | .program _ => inferInstanceAs (Decidable False)

/-- An entry of a folder as it is shown: its name as text, and a slash if it leads to a folder. -/
def shownName (t : FileTree) (start : Way) (folder : Path) (member : Bytes × Entry) : Text :=
  Utf8.decodeLossy member.1 ++
    if t.LeadsToFolder start (folder.join member.1) member.2 then ['/'] else []

/-- **Rows that show a folder.** -/
structure Lists (t : FileTree) (folder : Path) (way : Way) (rows : List Text) : Prop where
  /-- Every entry has a row of its own, also if others are shown alike. -/
  entries : rows.Perm ((t.members way).map (t.shownName [] folder))
  /-- No row comes before one after which it stands, by the code points of its characters. -/
  ordered : rows.Pairwise fun row next => ¬ next < row

theorem list_of_stat {t : FileTree} {start : Way} {p : Path} {way : Way}
    (h : t.stat start p = .ok (way, .folder)) :
    t.list start p = .ok ((t.members way).map fun member =>
      (member.1, decide (t.LeadsToFolder start (p.join member.1) member.2))) := by
  rw [list, h]
  refine congrArg Except.ok (List.map_congr_left fun member _ => ?_)
  obtain ⟨name, e⟩ := member
  cases e with
  | folder => rfl
  | link => exact congrArg (Prod.mk name) Bool.decide_eq_true.symm
  | file => rfl
  | program => rfl

theorem list_of_stat_ne {t : FileTree} {start : Way} {p : Path} {way : Way} {e : Entry}
    (h : t.stat start p = .ok (way, e)) (he : e ≠ .folder) :
    t.list start p = .error .notFolder := by
  rw [list, h]
  cases e with
  | folder => exact absurd rfl he
  | _ => rfl

section Perm

variable {t u : FileTree} (ht : t.Distinct) (h : t.entries.Perm u.entries) (start : Way) (p : Path)
include ht h

theorem leadsToFolder_of_perm (e : Entry) :
    t.LeadsToFolder start p e ↔ u.LeadsToFolder start p e := by
  cases e with
  | link => exact Bool.eq_iff_iff.mp (isFolder_of_perm ht h start p)
  | _ => exact Iff.rfl

/-- **A folder is listed in another order**, or there is none in either case. -/
theorem list_of_perm :
    (∃ cause, t.list start p = .error cause ∧ u.list start p = .error cause) ∨
    ∃ members others, t.list start p = .ok members ∧ u.list start p = .ok others ∧
      members.Perm others := by
  have hsame := stat_of_perm ht h start p
  cases hstat : t.stat start p with
  | error cause =>
    rw [hstat] at hsame
    exact .inl ⟨cause, by rw [list, hstat]; rfl, by rw [list, ← hsame]; rfl⟩
  | ok found =>
    obtain ⟨way, e⟩ := found
    rw [hstat] at hsame
    rcases eq_or_ne e .folder with rfl | he
    · refine .inr ⟨_, _, list_of_stat hstat, list_of_stat hsame.symm, ?_⟩
      simp only [leadsToFolder_of_perm ht h]
      exact (h.filterMap _).map _
    · exact .inl ⟨_, list_of_stat_ne hstat he, list_of_stat_ne hsame.symm he⟩

end Perm

end FileTree

/-! ### The order of rows -/

theorem pairwise_sorted (rows : List Text) :
    (rows.mergeSort textLe).Pairwise fun row next => textLe row next = true :=
  List.pairwise_mergeSort textLe_trans textLe_total rows

/-- **Sorting takes away every trace of the order.** -/
theorem listing_of_perm {members others : List (Bytes × Bool)} (h : members.Perm others) :
    listing members = listing others := by
  have hperm {rows rows' : List Text} (hrows : rows.Perm rows') :
      rows.mergeSort textLe = rows'.mergeSort textLe :=
    List.Perm.eq_of_pairwise (fun _ _ _ _ => textLe_antisymm) (pairwise_sorted rows)
      (pairwise_sorted rows')
      (((List.mergeSort_perm _ _).trans hrows).trans (List.mergeSort_perm _ _).symm)
  simp only [listing, hperm (h.map _)]

/-- The rows are those of the folder and of nothing else. -/
theorem FileTree.Lists.unique {t : FileTree} {folder : Path} {way : Way} {rows rows' : List Text}
    (h : t.Lists folder way rows) (h' : t.Lists folder way rows') : rows = rows' :=
  List.Perm.eq_of_pairwise (fun _ _ _ _ hle hle' => textLe_antisymm hle hle')
    (h.ordered.imp fun hle => textLe_iff.mpr hle) (h'.ordered.imp fun hle => textLe_iff.mpr hle)
    (h.entries.trans h'.entries.symm)

/-- **The listing of a folder are the rows that show it**, one to a line. -/
theorem exists_lists_of_stat {t : FileTree} {folder : Path} {way : Way}
    (h : t.stat [] folder = .ok (way, .folder)) :
    ∃ members rows, t.list [] folder = .ok members ∧ t.Lists folder way rows ∧
      listing members = rows.flatMap fun row => row ++ ['\n'] := by
  refine ⟨_, ((t.members way).map (t.shownName [] folder)).mergeSort textLe,
    FileTree.list_of_stat h, ⟨List.mergeSort_perm _ _, ?_⟩, ?_⟩
  · exact (pairwise_sorted _).imp fun hle => textLe_iff.mp hle
  · simp only [listing, List.map_map, Function.comp_def, decide_eq_true_eq]
    rfl

/-! ### What `ls` writes -/

/-- The folder that `ls` lists, the current one if none is named. -/
def listedFolder? (location : Location) : List Text → Option Path
  | [] => some location.cwd
  | [folder] => some (location.resolve (Path.ofText folder))
  | _ => none

section Ls

variable {c : Command} (state : ShellState) (s : Streams)

/-- `ls` looks at one folder.  It prints what is listed there, and complains if nothing is. -/
theorem runLs_of_folder {folder : Path}
    (hfolder : listedFolder? state.location c.args = some folder) (files : FileTree) :
    Builtin.ls.run files c state s =
      let answer := match files.list [] folder with
        | .ok members => emit Builtin.ls.name (listing members) s
        | .error _ => complain ("ls: cannot resolve path: ".toList ++ c.args.head?.getD ['.']) s
      (answer.1, state, answer.2) := by
  cases hlist : files.list [] folder
  all_goals
    rcases hargs : c.args with _ | ⟨arg, _ | ⟨next, rest⟩⟩
    all_goals
      rw [hargs] at hfolder
      cases hfolder
    · simp only [Builtin.ls, Builtin.runLs, Builtin.reading, hargs, hlist]
    · simp only [Builtin.ls, Builtin.runLs, Builtin.reading, hargs, hlist]

/-- **Nothing that `ls` does depends on the order of entries.** -/
theorem runLs_of_perm {t u : FileTree} (ht : t.Distinct) (h : t.entries.Perm u.entries) :
    Builtin.ls.run u c state s = Builtin.ls.run t c state s := by
  cases hfolder : listedFolder? state.location c.args with
  | some folder =>
    rcases FileTree.list_of_perm ht h [] folder with
      ⟨cause, hlist, hlist'⟩ | ⟨members, others, hlist, hlist', hperm⟩
    · rw [runLs_of_folder state s hfolder, runLs_of_folder state s hfolder, hlist, hlist']
    · rw [runLs_of_folder state s hfolder, runLs_of_folder state s hfolder, hlist, hlist']
      simp only [listing_of_perm hperm]
  | none =>
    -- there are too many arguments, so no folder is looked at
    rcases hargs : c.args with _ | ⟨arg, _ | ⟨next, rest⟩⟩
    · rw [hargs] at hfolder
      cases hfolder
    · rw [hargs] at hfolder
      cases hfolder
    · simp only [Builtin.ls, Builtin.runLs, Builtin.reading, hargs]

end Ls

/-- **What `ls` writes does not depend on the order of entries.**  Of two file systems with the same
entries in any two orders, `ls` gives the same.  If there is a folder to list, it writes a row for
each of its entries, which is the name as text, with a slash if the entry is a folder or a link that
leads to one; the rows are in the order of code points, and equal rows are all kept. -/
theorem runCommand_ls {registry : Registry}
    (hls : registry.get? Builtin.ls.name = some Builtin.ls) (host : Host) {t u : FileTree}
    (ht : t.Distinct) (h : t.entries.Perm u.entries) {c : Command} {args : List Text}
    (hc : c.Calls Builtin.ls args) (state : ShellState) (s : Streams) :
    ∃ (status : Status) (after : Streams),
      (∀ files ∈ [t, u], runCommand registry host c ⟨state, files⟩ s
        = (.ok status, ⟨state, files⟩, after)) ∧
      ∀ folder ∈ listedFolder? state.location args, ∀ way,
        t.stat [] folder = .ok (way, .folder) → ∃ rows, t.Lists folder way rows ∧
          (status, after) = emit Builtin.ls.name (rows.flatMap fun row => row ++ ['\n']) s ∧
          (s.output.mode = .working → status = .success ∧
            after = s.printed (rows.flatMap fun row => row ++ ['\n'])) := by
  obtain ⟨answer, hanswer⟩ : ∃ answer : Status × Streams,
      Builtin.ls.run t c state s = (answer.1, state, answer.2) := ⟨_, rfl⟩
  refine ⟨answer.1, answer.2, ?_, ?_⟩
  · rw [List.forall_mem_cons, List.forall_mem_singleton, runCommand_of_calls hls hc,
      runCommand_of_calls hls hc]
    simp only [runLs_of_perm state s ht h, hanswer, and_self]
  · intro folder hfolder way hstat
    obtain ⟨members, rows, hlist, hrows, htext⟩ := exists_lists_of_stat hstat
    rw [← hc.args] at hfolder
    rw [runLs_of_folder state s hfolder, hlist] at hanswer
    simp only [htext] at hanswer
    have hemit : answer = emit Builtin.ls.name (rows.flatMap fun row => row ++ ['\n']) s :=
      Prod.ext (congrArg Prod.fst hanswer).symm (congrArg (fun run => run.2.2) hanswer).symm
    refine ⟨rows, hrows, hemit, fun hworks => ?_⟩
    rw [emit_of_working _ hworks] at hemit
    exact ⟨congrArg Prod.fst hemit, congrArg Prod.snd hemit⟩

/-- Two names that are shown alike, a folder in front of which a longer name stands, and links. -/
theorem runCommand_ls_reversed :
    let host : Host := fun _ files => (.ran [] [] (.exited 0), files)
    let name (t : Text) : Bytes := Utf8.encode t
    let t : FileTree := ⟨[([name "d"], .folder), ([name "d", [0xFF]], .file [] false),
      ([name "d", [0xFE]], .file [] false), ([name "d", name "b"], .folder),
      ([name "d", name "b!"], .file [] false), ([name "d", name "l"], .link (name "b")),
      ([name "d", name "n"], .link (name "nowhere"))]⟩
    let u : FileTree := ⟨t.entries.reverse⟩
    let state : ShellState := ⟨.empty, .start (name "/")⟩
    let s : Streams := ⟨.ofBytes [], .fresh, .fresh, false, false⟩
    let c : Command := .plain "ls" ["d"]
    let rows : List Text := ["b!", "b/", "l/", "n", "\uFFFD", "\uFFFD"]
    t.Distinct ∧ t.entries.Perm u.entries ∧ c.Calls Builtin.ls ["d"] ∧
    t.Lists (name "/d") [name "d"] rows ∧
    ∀ files ∈ [t, u], runCommand Registry.standard host c ⟨state, files⟩ s
      = (.ok .success, ⟨state, files⟩, s.printed (rows.flatMap fun row => row ++ ['\n'])) := by
  intro host name t u state s c rows
  have ht : t.Distinct := by
    rw [FileTree.Distinct]
    decide
  have h : t.entries.Perm u.entries := (List.reverse_perm t.entries).symm
  have hc : c.Calls Builtin.ls ["d"] := ⟨rfl, rfl, rfl⟩
  have hstat : t.stat [] (name "/d") = .ok ([name "d"], .folder) := rfl
  have hrows : t.Lists (name "/d") [name "d"] rows := ⟨by decide, by decide⟩
  have hls : Registry.standard.get? Builtin.ls.name = some Builtin.ls := rfl
  obtain ⟨status, after, hruns, hlisted⟩ := runCommand_ls hls host ht h hc state s
  obtain ⟨rows', hrows', -, hwritten⟩ := hlisted (name "/d") rfl _ hstat
  obtain rfl := hrows'.unique hrows
  obtain ⟨rfl, rfl⟩ := hwritten rfl
  exact ⟨ht, h, hc, hrows, hruns⟩

end CommandShell
