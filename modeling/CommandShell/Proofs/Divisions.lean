import CommandShell.Proofs.References
import Mathlib.Data.List.Forall2

/-!
# How a word is divided

Which characters of a word stand for themselves and which name a variable is a matter of its
spelling alone.  In a part where `$` is special the text is divided from left to right: `$?` and
`$NAME` are references, the name as long as it can be, and every other character, a lone `$`
included, stands for itself.  A part where `$` is not special stands for itself as a whole.

Every word is divided in exactly one way, which is the row of pieces that expansion fills in.

## Main definitions

* `Divides t ps` — the division of a text in which `$` is special.
* `Part.Divides`, `Word.Divides` — the division of a part and of a word.
* `Word.Fixed` — no `$` of the word is special.

## Main results

* `exists_divides_expandChars` — expansion divides a text as it goes.
* `divides_iff` — a text has one division, `piecesFrom`.
* `expandChars_append`, `length_expandChars_append_lt` — where a text may be cut, and where not.
* `Word.divides_iff` — a word has one division, its pieces.
* `Word.expand_eq` — a word stands for what its pieces are filled in to.
* `Word.expand_of_fixed` — a word without special `$` stands for its own characters.
-/

namespace CommandShell

/-- **The division of a text in which `$` is special** into literals and references. -/
inductive Divides : Text → List Piece → Prop
  /-- There is nothing left. -/
  | nil : Divides [] []
  /-- A character other than `$` stands for itself. -/
  | char {c : Char} {t : Text} {ps : List Piece} :
      c ≠ '$' → Divides t ps → Divides (c :: t) (.literal [c] :: ps)
  /-- The last status is referred to. -/
  | status {t : Text} {ps : List Piece} :
      Divides t ps → Divides ('$' :: '?' :: t) (.variable statusName :: ps)
  /-- A variable is referred to, by a name that cannot be longer. -/
  | name {n t : Text} {ps : List Piece} :
      isIdentifier n = true → (∀ c ∈ t.head?, isNameChar c = false) → Divides t ps →
      Divides ('$' :: (n ++ t)) (.variable n :: ps)
  /-- A `$` that starts no reference stands for itself. -/
  | dollar {t : Text} {ps : List Piece} :
      (∀ c ∈ t.head?, c ≠ '?' ∧ isNameStart c = false) → Divides t ps →
      Divides ('$' :: t) (.literal ['$'] :: ps)

/-! ### A text is divided in one way -/

/-- A name takes the characters that it can. -/
theorem piecesFrom_named_append {more : Text} (hmore : more.all isNameChar = true) (name t : Text) :
    piecesFrom (.named name) (more ++ t) = piecesFrom (.named (name ++ more)) t := by
  induction more generalizing name with
  | nil => rw [List.append_nil, List.nil_append]
  | cons c more ih =>
    rw [List.all_cons, Bool.and_eq_true] at hmore
    rw [List.cons_append, Reference.piecesFrom_named_of_isNameChar hmore.1, ih hmore.2,
      List.append_assoc, List.singleton_append]

/-- After a `$`, a name that cannot be longer is one reference. -/
theorem piecesFrom_dollar_name {n t : Text} (hn : isIdentifier n = true)
    (ht : ∀ c ∈ t.head?, isNameChar c = false) :
    piecesFrom .outside ('$' :: (n ++ t)) = .variable n :: piecesFrom .outside t := by
  cases n with
  | nil => exact absurd hn (by simp [isIdentifier])
  | cons c n =>
    rw [isIdentifier, Bool.and_eq_true] at hn
    have hcut : ∀ d ∈ t.head?, (Reference.named (c :: n)).continues d = false := ht
    rw [piecesFrom, if_pos rfl, List.cons_append, Reference.piecesFrom_dollar_of_isNameStart hn.1,
      piecesFrom_named_append hn.2, List.singleton_append,
      Reference.piecesFrom_of_not_continues hcut]
    rfl

theorem Divides.eq_piecesFrom {t : Text} {ps : List Piece} (h : Divides t ps) :
    ps = piecesFrom .outside t := by
  induction h with
  | nil => rfl
  | char hc _ ih => rw [piecesFrom, if_neg hc, ih]
  | status _ ih => rw [ih]; rfl
  | name hn ht _ ih => rw [piecesFrom_dollar_name hn ht, ih]
  | @dollar t ps ht _ ih =>
    have hcut : ∀ c ∈ t.head?, Reference.dollar.continues c = false := by
      intro c hc
      obtain ⟨hquestion, hstart⟩ := ht c hc
      simp [Reference.continues, hquestion, hstart]
    rw [piecesFrom, if_pos rfl, Reference.piecesFrom_of_not_continues hcut, ih]
    rfl

/-- A name that starts takes all characters that it can. -/
theorem isIdentifier_takeWhile {c : Char} (hc : isNameStart c = true) (t : Text) :
    isIdentifier ((c :: t).takeWhile isNameChar) = true := by
  have hchar : isNameChar c = true := by rw [isNameChar, hc, Bool.true_or]
  rw [List.takeWhile_cons_of_pos hchar, isIdentifier, hc, List.all_takeWhile]
  rfl

/-- What follows the name does not go on with it. -/
theorem not_isNameChar_of_dropWhile {t : Text} :
    ∀ c ∈ (t.dropWhile isNameChar).head?, isNameChar c = false := by
  intro c hc
  have hnot := List.head?_dropWhile_not isNameChar t
  rw [Option.mem_def.mp hc] at hnot
  exact hnot

/-- **Expansion divides a text as it goes**, and puts in a value for each reference. -/
theorem exists_divides_expandChars (vars : Variables) (t : Text) :
    ∃ ps, Divides t ps ∧ expandChars vars t = fillPieces vars ps := by
  fun_induction expandChars vars t with
  | case1 => exact ⟨[], .nil, rfl⟩
  | case2 c rest hc ih =>
    obtain ⟨ps, hps, hfill⟩ := ih
    exact ⟨_, .char hc hps, congrArg (List.cons c) hfill⟩
  | case3 c hc =>
    obtain rfl := not_not.mp hc
    exact ⟨_, .dollar (by simp) .nil, rfl⟩
  | case4 c hc more ih =>
    obtain rfl := not_not.mp hc
    obtain ⟨ps, hps, hfill⟩ := ih
    exact ⟨_, .status hps, congrArg (vars.value statusName ++ ·) hfill⟩
  | case5 c hc first more hquestion hstart ih =>
    obtain rfl := not_not.mp hc
    obtain ⟨ps, hps, hfill⟩ := ih
    have hdivides := Divides.name (isIdentifier_takeWhile hstart more)
      not_isNameChar_of_dropWhile hps
    rw [List.takeWhile_append_dropWhile] at hdivides
    exact ⟨_, hdivides, congrArg (vars.value _ ++ ·) hfill⟩
  | case6 c hc first more hquestion hstart ih =>
    obtain rfl := not_not.mp hc
    obtain ⟨ps, hps, hfill⟩ := ih
    have hlone : ∀ d ∈ (first :: more).head?, d ≠ '?' ∧ isNameStart d = false := by
      rintro d ⟨⟩
      exact ⟨hquestion, Bool.not_eq_true _ ▸ hstart⟩
    exact ⟨_, .dollar hlone hps, congrArg (List.cons '$') hfill⟩

/-- **A text is divided in exactly one way.** -/
theorem divides_iff {t : Text} {ps : List Piece} : Divides t ps ↔ ps = piecesFrom .outside t := by
  constructor
  · exact Divides.eq_piecesFrom
  · rintro rfl
    obtain ⟨qs, hqs, -⟩ := exists_divides_expandChars .empty t
    rwa [← hqs.eq_piecesFrom]

/-- **Expansion fills in the pieces of a text.** -/
theorem expandChars_eq (vars : Variables) (t : Text) :
    expandChars vars t = fillPieces vars (piecesFrom .outside t) := by
  obtain ⟨ps, hps, hfill⟩ := exists_divides_expandChars vars t
  rw [hfill, hps.eq_piecesFrom]

/-- `$NAME` stands for the value of the variable. -/
theorem expandChars_name {n t : Text} (hn : isIdentifier n = true)
    (ht : ∀ c ∈ t.head?, isNameChar c = false) (vars : Variables) :
    expandChars vars ('$' :: (n ++ t)) = vars.value n ++ expandChars vars t := by
  rw [expandChars_eq, expandChars_eq, piecesFrom_dollar_name hn ht, fillPieces_cons, fill_variable]

/-- A `$NAME` on its own. -/
theorem expandChars_reference {n : Text} (hn : isIdentifier n = true) (vars : Variables) :
    expandChars vars ('$' :: n) = vars.value n := by
  have h := expandChars_name (t := []) hn (by simp) vars
  rw [List.append_nil] at h
  exact h.trans (List.append_nil _)

/-- **A text may be cut where no reference is continued.** -/
theorem expandChars_append {a b : Text} (h : ∀ c ∈ b.head?, ¬ LeavesOpen a c) (vars : Variables) :
    expandChars vars (a ++ b) = expandChars vars a ++ expandChars vars b := by
  rw [expandChars_eq, expandChars_eq, expandChars_eq, piecesFrom_append h, fillPieces_append]

/-- Elsewhere characters are lost if no variable is set. -/
theorem length_expandChars_append_lt {a t : Text} {c : Char} (h : LeavesOpen a c) :
    (expandChars .empty (a ++ c :: t)).length
      < (expandChars .empty a).length + (expandChars .empty (c :: t)).length := by
  rw [expandChars_eq, expandChars_eq, expandChars_eq]
  exact length_fillPieces_append_lt h

/-! ### Parts and words -/

/-- A relation that is a function relates rows item by item. -/
theorem forall₂_iff_eq_map {α β : Type} {R : α → β → Prop} {f : α → β}
    (h : ∀ a b, R a b ↔ b = f a) {xs : List α} {ys : List β} :
    List.Forall₂ R xs ys ↔ ys = xs.map f := by
  have hR : R = fun a b => f a = b := by
    funext a b
    exact propext ((h a b).trans eq_comm)
  rw [hR, ← List.forall₂_map_left_iff, List.forall₂_eq_eq_eq]
  exact eq_comm

/-- The division of a part: a literal where `$` is not special. -/
def Part.Divides (p : Part) (ps : List Piece) : Prop :=
  if p.expands then CommandShell.Divides p.text ps else ps = [.literal p.text]

theorem Part.divides_iff {p : Part} {ps : List Piece} : p.Divides ps ↔ ps = p.pieces := by
  rw [Part.Divides, Part.pieces]
  split
  · exact CommandShell.divides_iff
  · rfl

/-- Parts are divided one by one, each in one way. -/
theorem Part.forall₂_divides_iff {parts : List Part} {rows : List (List Piece)} :
    List.Forall₂ Part.Divides parts rows ↔ rows = parts.map Part.pieces := by
  refine forall₂_iff_eq_map fun p ps => ?_
  exact Part.divides_iff

namespace Word

/-- The division of a word: that of its parts, one after the other. -/
def Divides (w : Word) (ps : List Piece) : Prop :=
  ∃ rows, List.Forall₂ Part.Divides w.parts rows ∧ ps = rows.flatten

/-- **A word is divided in exactly one way**, which is the row of its pieces. -/
theorem divides_iff {w : Word} {ps : List Piece} : w.Divides ps ↔ ps = w.pieces := by
  constructor
  · rintro ⟨rows, h, rfl⟩
    rw [Part.forall₂_divides_iff.mp h]
    rfl
  · rintro rfl
    exact ⟨_, Part.forall₂_divides_iff.mpr rfl, rfl⟩

end Word

/-! ### What parts and words stand for -/

/-- **Expansion fills in the pieces of a part.** -/
theorem Part.expand_eq (vars : Variables) (p : Part) :
    p.expand vars = fillPieces vars p.pieces := by
  rw [Part.expand, Part.pieces]
  split
  · exact expandChars_eq vars p.text
  · exact (List.append_nil _).symm

/-- **Expansion fills in the pieces of a word.** -/
theorem Word.expand_eq (vars : Variables) (w : Word) :
    w.expand vars = fillPieces vars w.pieces := by
  have hparts : w.expand vars = w.parts.flatMap fun p => fillPieces vars p.pieces :=
    List.flatMap_congr fun p _ => p.expand_eq vars
  rw [hparts, Word.pieces, fillPieces, List.flatMap_assoc]
  rfl

/-! ### Words without references -/

/-- No `$` of the word is special. -/
def Word.Fixed (w : Word) : Prop := ∀ p ∈ w.parts, p.expands = true → '$' ∉ p.text

/-- A text without `$` stands for itself. -/
theorem expandChars_of_notMem {t : Text} (h : '$' ∉ t) (vars : Variables) :
    expandChars vars t = t := by
  induction t with
  | nil => rfl
  | cons c t ih =>
    rw [List.mem_cons, not_or] at h
    rw [expandChars_cons_of_ne (Ne.symm h.1), ih h.2]

/-- **A word without special `$` stands for its own characters**, whatever the variables are. -/
theorem Word.expand_of_fixed {w : Word} (h : w.Fixed) (vars : Variables) :
    w.expand vars = w.text := by
  refine List.flatMap_congr fun p hp => ?_
  rw [Part.expand]
  split
  · next hexpands => exact expandChars_of_notMem (h p hp hexpands) vars
  · rfl

end CommandShell
