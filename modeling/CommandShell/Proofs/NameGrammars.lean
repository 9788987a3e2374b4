import CommandShell.Proofs.AssignedValues
import CommandShell.Proofs.ExpansionLaws
import Mathlib.Tactic.TFAE

/-!
# Names of variables

Which texts are names is decided in four places: by a test of its own, where a line is split at
`=`, where a `$` is followed by a name, and where variables are handed to a program.  All four
agree.  A variable can be set by `NAME=value` exactly if it can be read by `$NAME`, and exactly then
it reaches programs; the only other variable that can be read is that of the last status.

Reading is the place where it is not obvious.  A `$` takes as much of what follows as it can, and
the rest is read on, so that a text behind `$` stands for many things other than one value.  But it
can only stand for the value of a variable of that very name, whatever the variables are, if the
variable is referred to; and a text can refer to identifiers and to the last status alone.

## Main definitions

* `IsAssigned`, `IsRead`, `IsExported` — what can be done with a variable of a name.

## Main results

* `isAssigned_iff`, `isRead_iff`, `isExported_iff` — the names for which it can be done.
* `name_of_variable_mem` — the variables that a text can refer to.
* `expand_congr` — no others matter to a word.
* `nameGrammars_agree` — **all grammars of names agree.**
-/

namespace CommandShell

/-- `NAME=v` is a line with a single stage, the first word of which assigns to the name. -/
def IsAssigned (n : Text) : Prop :=
  ∃ first rest value, tokenize (n ++ ['=', 'v']) = .ok [first :: rest] ∧
    first.assignment? = some (n, value)

/-- `$NAME` stands for the value of the variable, whatever the variables are. -/
def IsRead (quoted : Bool) (n : Text) : Prop :=
  ∀ vars, expandText quoted vars ('$' :: n) = Variables.value vars n

/-- The variable reaches programs with its value whenever it is set. -/
def IsExported (n : Text) : Prop :=
  ∀ (vars : Variables) (value : Text), vars.get? n = some value → (n, value) ∈ vars.exported

/-! ### Assigning and exporting -/

theorem isAssigned_iff {n : Text} : IsAssigned n ↔ isIdentifier n = true := by
  constructor
  · rintro ⟨first, rest, value, -, hassign⟩
    exact (Word.exists_parts_of_assignment? hassign).1
  · intro hn
    have hword : tokenize ['v'] = .ok [[⟨[⟨['v'], true, false⟩]⟩]] := by decide
    have hstart : ∀ c ∈ ['v'].head?, isBlank c = false := by
      rintro c ⟨⟩
      rfl
    obtain ⟨first, hline, hassign⟩ := exists_assignment_of_tokenize hn hstart hword
    exact ⟨first, [], _, hline, hassign⟩

/-- What a dictionary finds under a name is an entry of it. -/
theorem Dictionary.mem_entries_of_get? {α : Type} {d : Dictionary α} {name : Text} {value : α}
    (h : d.get? name = some value) : (name, value) ∈ d.entries := by
  obtain ⟨entries⟩ := d
  obtain ⟨front, back, hentries, -⟩ := List.lookup_eq_some_iff.mp h
  exact hentries ▸ List.mem_append_right front List.mem_cons_self

/-- What reaches programs has an identifier for a name. -/
theorem isIdentifier_of_mem_exported {vars : Variables} {n value : Text}
    (h : (n, value) ∈ vars.exported) : isIdentifier n = true :=
  (List.mem_filter.mp h).2

theorem isExported_iff {n : Text} : IsExported n ↔ isIdentifier n = true := by
  constructor
  · intro h
    exact isIdentifier_of_mem_exported (h (Dictionary.empty.insert n []) [] (by simp))
  · intro hn vars value hvalue
    exact List.mem_filter.mpr ⟨Dictionary.mem_entries_of_get? hvalue, hn⟩

/-! ### Reading -/

/-- **A text refers to identifiers and to the last status only.** -/
theorem name_of_variable_mem {t n : Text} (h : .variable n ∈ piecesFrom .outside t) :
    isIdentifier n = true ∨ n = statusName := by
  obtain ⟨ps, hps, -⟩ := exists_divides_expandChars .empty t
  rw [← hps.eq_piecesFrom] at h
  induction hps with
  | nil => cases h
  | char _ _ ih => exact ih ((List.mem_cons.mp h).resolve_left (by simp))
  | status _ ih =>
    rcases List.mem_cons.mp h with hn | hrest
    · exact .inr (Piece.variable.inj hn)
    · exact ih hrest
  | name hname _ _ ih =>
    rcases List.mem_cons.mp h with hn | hrest
    · exact .inl (Piece.variable.inj hn ▸ hname)
    · exact ih hrest
  | dollar _ _ ih => exact ih ((List.mem_cons.mp h).resolve_left (by simp))

/-- The values where a single variable is set. -/
theorem value_insert_empty (n m value : Text) :
    Variables.value (Dictionary.empty.insert n value) m = if m = n then value else [] := by
  rw [Variables.value, Dictionary.insert, Dictionary.get?_update]
  split <;> rfl

/-- What stands for the value of a variable, whatever the variables are, refers to it. -/
theorem variable_mem_of_fillPieces {ps : List Piece} {n : Text}
    (h : ∀ vars, fillPieces vars ps = Variables.value vars n) : .variable n ∈ ps := by
  have hset : 'v' ∈ fillPieces (Dictionary.empty.insert n ['v']) ps := by
    rw [h, value_insert_empty, if_pos rfl]
    exact List.mem_singleton_self 'v'
  obtain ⟨p, hp, hv⟩ := List.mem_flatMap.mp hset
  -- the piece that gives this gives nothing if no variable is set
  have hempty : p.fill .empty = [] := List.flatMap_eq_nil_iff.mp (h .empty) p hp
  rcases p with t | m
  · have hnil : t = [] := hempty
    rw [hnil] at hv
    cases hv
  · rw [fill_variable, value_insert_empty] at hv
    split at hv
    · next hm => exact hm ▸ hp
    · cases hv

theorem isRead_iff {quoted : Bool} {n : Text} :
    IsRead quoted n ↔ isIdentifier n = true ∨ n = statusName := by
  have hlaws := expansionLaws_expandText quoted
  constructor
  · intro h
    refine name_of_variable_mem (t := '$' :: n) (variable_mem_of_fillPieces fun vars => ?_)
    rw [← expandChars_eq, ← expandText_eq quoted]
    exact h vars
  · rintro (hn | rfl) vars
    · exact (hlaws vars).name n hn
    · exact (hlaws vars).status

/-- Two references do not read a variable whose name has a `$`. -/
example : ¬ IsRead false "x$y" := by
  rw [isRead_iff]
  decide

/-- **A word depends on no other variables.** -/
theorem expand_congr {vars vars' : Variables}
    (h : ∀ n, isIdentifier n = true ∨ n = statusName → vars.value n = vars'.value n) (w : Word) :
    w.expand vars = w.expand vars' := by
  rw [w.expand_eq, w.expand_eq]
  refine List.flatMap_congr fun p hp => ?_
  rcases p with t | n
  · rfl
  · obtain ⟨part, -, hn⟩ := List.mem_flatMap.mp hp
    rw [Part.pieces] at hn
    split at hn
    · exact h n (name_of_variable_mem hn)
    · cases List.mem_singleton.mp hn

/-! ### All of them -/

/-- **The grammars of names agree.**  To be an identifier, to be assigned to by `NAME=value`, to be
read by `$NAME` without being the name of the last status, and to reach programs whenever it is set
are the same for a name.  So the variables that can be read are those that can be assigned to, and
the last status; words depend on no others.  The last status can be read and never reaches a
program, as nothing does that has no identifier for a name. -/
theorem nameGrammars_agree (quoted : Bool) (n : Text) :
    [isIdentifier n = true, IsAssigned n, IsRead quoted n ∧ n ≠ statusName, IsExported n].TFAE ∧
    (IsRead quoted n ↔ IsAssigned n ∨ n = statusName) ∧
    (∀ vars vars' : Variables, (∀ m, IsRead quoted m → vars.value m = vars'.value m) →
      ∀ w : Word, w.expand vars = w.expand vars') ∧
    (∀ (vars : Variables) (value : Text), (n, value) ∈ vars.exported →
      IsAssigned n ∧ n ≠ statusName) := by
  have hother : isIdentifier n = true → n ≠ statusName := by
    rintro hn rfl
    exact absurd hn (by simp)
  refine ⟨?_, ?_, fun vars vars' h w => ?_, fun vars value h => ?_⟩
  · tfae_have 1 ↔ 2 := isAssigned_iff.symm
    tfae_have 1 → 3 := fun hn => ⟨isRead_iff.mpr (.inl hn), hother hn⟩
    tfae_have 3 → 1 := fun ⟨hread, hne⟩ => (isRead_iff.mp hread).resolve_right hne
    tfae_have 1 ↔ 4 := isExported_iff.symm
    tfae_finish
  · rw [isRead_iff, isAssigned_iff]
  · exact expand_congr (fun m hm => h m (isRead_iff.mpr hm)) w
  · have hn := isIdentifier_of_mem_exported h
    exact ⟨isAssigned_iff.mpr hn, hother hn⟩

end CommandShell
