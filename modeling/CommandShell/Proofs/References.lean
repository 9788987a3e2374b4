import CommandShell.Proofs.Pieces
import Mathlib.Data.List.Induction

/-!
# References to variables in a text

A scan for `$` is a machine with a state, `Reference`, and the pieces of a text are what the
machine gives on its way together with what its last state still holds.  A text may therefore be
cut wherever the next character does not go on with a reference that is open there.

## Main definitions

* `Reference.next`, `Reference.emit` — one character of a scan.
* `Reference.scan`, `Reference.complete` — where a scan ends, and the pieces given on the way.
* `LeavesOpen t c` — the text `t` ends in a reference, and the character `c` goes on with it.

## Main results

* `continues_scan_iff` — a scan can go on exactly after such a text.
* `piecesFrom_append` — the pieces of a text that is cut where no reference is continued.
* `length_fillPieces_append_lt` — where one is, characters are lost if no variable is set.
-/

namespace CommandShell

/-- The name of the last status is no start of a longer name. -/
theorem ne_question_of_isNameStart {c : Char} (h : isNameStart c = true) : c ≠ '?' := by
  rintro rfl
  exact absurd h (by decide)

namespace Reference

/-! ### One character -/

/-- Where a scan stands after a character. -/
def next : Reference → Char → Reference
  | .outside, c => if c = '$' then .dollar else .outside
  | .dollar, c =>
      if c = '?' then .outside
      else if isNameStart c then .named [c]
      else if c = '$' then .dollar
      else .outside
  | .named name, c =>
      if isNameChar c then .named (name ++ [c]) else if c = '$' then .dollar else .outside

/-- The pieces that a character completes. -/
def emit : Reference → Char → List Piece
  | .outside, c => if c = '$' then [] else [.literal [c]]
  | .dollar, c =>
      if c = '?' then [.variable statusName]
      else if isNameStart c then []
      else if c = '$' then [.literal ['$']]
      else [.literal ['$'], .literal [c]]
  | .named name, c =>
      if isNameChar c then []
      else if c = '$' then [.variable name]
      else [.variable name, .literal [c]]

/-- The character belongs to the reference in which a scan stands. -/
def continues : Reference → Char → Bool
  | .outside, _ => false
  | .dollar, c => c == '?' || isNameStart c
  | .named _, c => isNameChar c

theorem piecesFrom_cons (r : Reference) (c : Char) (t : Text) :
    piecesFrom r (c :: t) = r.emit c ++ piecesFrom (r.next c) t := by
  cases r with
  | outside =>
    rw [piecesFrom, emit, next]
    split <;> rfl
  | dollar =>
    rw [piecesFrom, emit, next]
    split
    · rfl
    split
    · rfl
    split <;> rfl
  | named name =>
    rw [piecesFrom, emit, next]
    split
    · rfl
    split <;> rfl

/-- A dollar sign starts a reference wherever it stands. -/
@[simp] theorem next_dollar (r : Reference) : r.next '$' = .dollar := by
  cases r <;> rfl

/-- Only a dollar sign leads to the state after a dollar sign. -/
theorem eq_dollar_of_next {r : Reference} {c : Char} (h : r.next c = .dollar) : c = '$' := by
  cases r <;> simp only [next] at h <;> grind

/-! ### A text -/

/-- Where a scan stands after a text. -/
def scan (r : Reference) (t : Text) : Reference := t.foldl next r

/-- The pieces that a text completes. -/
def complete : Reference → Text → List Piece
  | _, [] => []
  | r, c :: t => r.emit c ++ complete (r.next c) t

@[simp] theorem scan_nil (r : Reference) : r.scan [] = r := rfl

@[simp] theorem scan_cons (r : Reference) (c : Char) (t : Text) :
    r.scan (c :: t) = (r.next c).scan t := rfl

theorem scan_append (r : Reference) (a b : Text) : r.scan (a ++ b) = (r.scan a).scan b := by
  rw [scan, List.foldl_append]
  rfl

/-- The pieces of a text are those of its front and those that the scan gives from there. -/
theorem piecesFrom_eq_complete (r : Reference) (a b : Text) :
    piecesFrom r (a ++ b) = r.complete a ++ piecesFrom (r.scan a) b := by
  induction a generalizing r with
  | nil => rfl
  | cons c a ih =>
    rw [List.cons_append, piecesFrom_cons, ih, complete, List.append_assoc, scan_cons]

/-- A character that does not go on with a reference ends it. -/
theorem piecesFrom_of_not_continues {r : Reference} {t : Text}
    (h : ∀ c ∈ t.head?, r.continues c = false) :
    piecesFrom r t = piecesFrom r [] ++ piecesFrom .outside t := by
  cases t with
  | nil => cases r <;> simp [piecesFrom]
  | cons c t =>
    have hc : r.continues c = false := h c (by simp)
    cases r with
    | outside => rfl
    | dollar =>
      rw [continues, Bool.or_eq_false_iff, beq_eq_false_iff_ne] at hc
      by_cases hd : c = '$'
      · subst hd
        rfl
      · simp [piecesFrom, hc, hd]
    | named name =>
      simp only [continues] at hc
      by_cases hd : c = '$'
      · subst hd
        rfl
      · simp [piecesFrom, hc, hd]

end Reference

/-! ### References that are left open -/

/-- A text ends in a reference, and the character goes on with it. -/
def LeavesOpen (t : Text) (c : Char) : Prop :=
  (∃ p, t = p ++ ['$'] ∧ (c = '?' ∨ isNameStart c = true)) ∨
    ∃ p name, t = p ++ '$' :: name ∧ isIdentifier name = true ∧ isNameChar c = true

namespace LeavesOpen

variable {t : Text} {c : Char}

theorem ne_nil (h : LeavesOpen t c) : t ≠ [] := by
  rcases h with ⟨p, rfl, -⟩ | ⟨p, name, rfl, -, -⟩ <;> simp

/-- Only the end of a text matters. -/
theorem append_left (h : LeavesOpen t c) (s : Text) : LeavesOpen (s ++ t) c := by
  rcases h with ⟨p, rfl, hc⟩ | ⟨p, name, rfl, hname, hc⟩
  · exact .inl ⟨s ++ p, (List.append_assoc s p _).symm, hc⟩
  · exact .inr ⟨s ++ p, name, (List.append_assoc s p _).symm, hname, hc⟩

end LeavesOpen

namespace Reference

/-- A scan stands after a dollar sign exactly if the text ends in one. -/
theorem scan_eq_dollar_iff {t : Text} :
    Reference.scan .outside t = .dollar ↔ ∃ p, t = p ++ ['$'] := by
  constructor
  · intro h
    rcases List.eq_nil_or_concat t with rfl | ⟨p, c, rfl⟩
    · exact absurd h (by simp)
    · rw [List.concat_eq_append, scan_append] at h
      exact ⟨p, by rw [List.concat_eq_append, eq_dollar_of_next h]⟩
  · rintro ⟨p, rfl⟩
    rw [scan_append]
    exact next_dollar _

theorem scan_named {name : Text} : ∀ {rest : Text}, rest.all isNameChar = true →
    Reference.scan (.named name) rest = .named (name ++ rest) := by
  intro rest
  induction rest generalizing name with
  | nil => simp
  | cons c rest ih =>
    intro h
    rw [List.all_cons, Bool.and_eq_true] at h
    rw [scan_cons, next, if_pos h.1, ih h.2, List.append_assoc, List.singleton_append]

theorem isIdentifier_concat {name : Text} {c : Char} (hn : isIdentifier name = true)
    (hc : isNameChar c = true) : isIdentifier (name ++ [c]) = true := by
  cases name with
  | nil => exact absurd hn (by simp [isIdentifier])
  | cons d name =>
    rw [isIdentifier, Bool.and_eq_true] at hn
    rw [List.cons_append, isIdentifier, List.all_append, hn.1, hn.2, List.all_cons, hc]
    rfl

/-- A scan stands in a name exactly if an identifier has followed a dollar sign. -/
theorem scan_eq_named_iff {t name : Text} :
    Reference.scan .outside t = .named name
      ↔ ∃ p, t = p ++ '$' :: name ∧ isIdentifier name = true := by
  constructor
  · intro h
    -- the last character has been added to a name, or starts one after a dollar sign
    induction t using List.reverseRecOn generalizing name with
    | nil => exact absurd h (by simp)
    | append_singleton t c ih =>
      rw [scan_append, scan_cons, scan_nil] at h
      cases hr : Reference.scan .outside t with
      | outside =>
        rw [hr, next] at h
        split at h <;> exact absurd h (by simp)
      | dollar =>
        obtain ⟨p, rfl⟩ := scan_eq_dollar_iff.mp hr
        rw [hr, next] at h
        split at h
        · exact absurd h (by simp)
        split at h
        · next hstart =>
          obtain rfl := Reference.named.inj h
          exact ⟨p, by simp, by simp [isIdentifier, hstart]⟩
        split at h <;> exact absurd h (by simp)
      | named m =>
        obtain ⟨p, rfl, hm⟩ := ih hr
        rw [hr, next] at h
        split at h
        · next hchar =>
          obtain rfl := Reference.named.inj h
          exact ⟨p, by simp, isIdentifier_concat hm hchar⟩
        split at h <;> exact absurd h (by simp)
  · rintro ⟨p, rfl, hname⟩
    cases name with
    | nil => exact absurd hname (by simp [isIdentifier])
    | cons c name =>
      rw [isIdentifier, Bool.and_eq_true] at hname
      have hquestion : c ≠ '?' := ne_question_of_isNameStart hname.1
      rw [scan_append, scan_cons, next_dollar, scan_cons, next, if_neg hquestion,
        if_pos hname.1, scan_named hname.2, List.singleton_append]

end Reference

/-- **A scan can go on with a character exactly after a text that leaves a reference open.** -/
theorem continues_scan_iff {t : Text} {c : Char} :
    (Reference.scan .outside t).continues c = true ↔ LeavesOpen t c := by
  constructor
  · intro h
    cases hr : Reference.scan .outside t with
    | outside => rw [hr] at h; exact absurd h (by simp [Reference.continues])
    | dollar =>
      obtain ⟨p, hp⟩ := Reference.scan_eq_dollar_iff.mp hr
      rw [hr] at h
      exact .inl ⟨p, hp, by simpa [Reference.continues] using h⟩
    | named name =>
      obtain ⟨p, hp, hname⟩ := Reference.scan_eq_named_iff.mp hr
      rw [hr] at h
      exact .inr ⟨p, name, hp, hname, h⟩
  · rintro (⟨p, hp, hc⟩ | ⟨p, name, hp, hname, hc⟩)
    · rw [Reference.scan_eq_dollar_iff.mpr ⟨p, hp⟩]
      simpa [Reference.continues] using hc
    · rw [Reference.scan_eq_named_iff.mpr ⟨p, hp, hname⟩]
      exact hc

/-- **The pieces of a text that is cut where no reference is continued.** -/
theorem piecesFrom_append {a b : Text} (h : ∀ c ∈ b.head?, ¬ LeavesOpen a c) :
    piecesFrom .outside (a ++ b) = piecesFrom .outside a ++ piecesFrom .outside b := by
  have hcut : ∀ c ∈ b.head?, (Reference.scan .outside a).continues c = false := fun c hc =>
    Bool.eq_false_iff.mpr fun hcont => h c hc (continues_scan_iff.mp hcont)
  have ha := Reference.piecesFrom_eq_complete .outside a []
  rw [List.append_nil] at ha
  rw [Reference.piecesFrom_eq_complete, Reference.piecesFrom_of_not_continues hcut, ha,
    List.append_assoc]

/-! ### A reference that is continued

What a character adds to a reference is part of a name, and if no variable is set a name stands
for nothing.  The character is lost, while cut off it would stand for itself. -/

namespace Reference

/-- A character that can stand in a name is a literal where no reference is open. -/
theorem piecesFrom_outside_of_isNameChar {c : Char} (h : isNameChar c = true) (t : Text) :
    piecesFrom .outside (c :: t) = .literal [c] :: piecesFrom .outside t := by
  have hc : c ≠ '$' := by
    rintro rfl
    exact absurd h (by decide)
  rw [piecesFrom, if_neg hc]

theorem piecesFrom_named_of_isNameChar {c : Char} (h : isNameChar c = true) (name t : Text) :
    piecesFrom (.named name) (c :: t) = piecesFrom (.named (name ++ [c])) t := by
  rw [piecesFrom, if_pos h]

theorem piecesFrom_dollar_of_isNameStart {c : Char} (h : isNameStart c = true) (t : Text) :
    piecesFrom .dollar (c :: t) = piecesFrom (.named [c]) t := by
  rw [piecesFrom, if_neg (ne_question_of_isNameStart h), if_pos h]

theorem length_fillPieces_named_le (name t : Text) :
    (fillPieces .empty (piecesFrom (.named name) t)).length
      ≤ (fillPieces .empty (piecesFrom .outside t)).length := by
  induction t generalizing name with
  | nil => exact Nat.le_refl _
  | cons c t ih =>
    by_cases hc : isNameChar c = true
    · have hrest := ih (name ++ [c])
      rw [piecesFrom_named_of_isNameChar hc, piecesFrom_outside_of_isNameChar hc]
      simp only [fillPieces_cons, fill_literal, List.length_append, List.length_singleton]
      omega
    · -- here the name ends on its own, and nothing is lost
      have hcut : ∀ d ∈ (c :: t).head?, (Reference.named name).continues d = false := by
        simpa [continues] using hc
      rw [piecesFrom_of_not_continues hcut]
      exact Nat.le_refl _

/-- The character that a reference takes in is missing from the text. -/
theorem length_fillPieces_lt {r : Reference} {c : Char} (h : r.continues c = true) (t : Text) :
    (fillPieces .empty (piecesFrom r (c :: t))).length
      < (fillPieces .empty (piecesFrom r [])).length
        + (fillPieces .empty (piecesFrom .outside (c :: t))).length := by
  cases r with
  | outside => exact absurd h (by simp [continues])
  | dollar =>
    by_cases hquestion : c = '?'
    · subst hquestion
      simp only [piecesFrom, if_true, Char.reduceEq, if_false, fillPieces_cons, fill_literal,
        fill_variable_empty, fillPieces_nil, List.length_append, List.length_singleton,
        List.length_nil]
      omega
    · have hstart : isNameStart c = true := by simpa [continues, hquestion] using h
      have hrest := length_fillPieces_named_le [c] t
      rw [piecesFrom_outside_of_isNameChar (by simp [isNameChar, hstart]),
        piecesFrom_dollar_of_isNameStart hstart]
      simp only [fillPieces_cons, fill_literal, List.length_append, List.length_singleton]
      omega
  | named name =>
    have hrest := length_fillPieces_named_le (name ++ [c]) t
    rw [continues] at h
    rw [piecesFrom_outside_of_isNameChar h, piecesFrom_named_of_isNameChar h]
    simp only [fillPieces_cons, fill_literal, List.length_append, List.length_singleton]
    omega

end Reference

/-- **Where a reference is continued, characters are lost if no variable is set.** -/
theorem length_fillPieces_append_lt {a t : Text} {c : Char} (h : LeavesOpen a c) :
    (fillPieces .empty (piecesFrom .outside (a ++ c :: t))).length
      < (fillPieces .empty (piecesFrom .outside a)).length
        + (fillPieces .empty (piecesFrom .outside (c :: t))).length := by
  have hlost := Reference.length_fillPieces_lt (continues_scan_iff.mpr h) t
  have ha := Reference.piecesFrom_eq_complete .outside a []
  rw [List.append_nil] at ha
  rw [Reference.piecesFrom_eq_complete, ha, fillPieces_append, fillPieces_append,
    List.length_append, List.length_append]
  omega

end CommandShell
