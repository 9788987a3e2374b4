import CommandShell.Proofs.Divisions

/-!
# The laws of expansion

In a part where `$` is special a text is expanded from left to right, with names as long as they can
be.  A few laws say all of that.  A text may be cut wherever no reference is open, and what it
stands for is then what its two parts stand for, one after the other.  A text without `$`, a lone
`$`, `$?` and `$NAME` stand for what one expects.

No other map of texts has these laws, since every text can be cut into such parts: that is its
division.  And a text may be cut nowhere else, if the variables are not known.  Two consequences
are worth stating: every `$` starts a reference of its own, and a value is put in as it is, whatever
`$` it has.

## Main definitions

* `expandText` — what a text stands for where `$` is special.
* `ExpansionLaws` — the laws.

## Main results

* `expansionLaws_expandText`, `ExpansionLaws.eq_of_divides` — expansion has the laws, and they leave
  no choice.
* `expandText_determined` — **expansion is what its laws say**, and it is cut exactly there.
-/

namespace CommandShell

/-- What a text stands for that is a part in which `$` is special, with or without quotes. -/
def expandText (quoted : Bool) (vars : Variables) (t : Text) : Text :=
  Word.expand vars ⟨[⟨t, true, quoted⟩]⟩

/-- **The laws of expansion**, for a map of texts. -/
structure ExpansionLaws (vars : Variables) (f : Text → Text) : Prop where
  /-- A text may be cut where no reference is open that goes on. -/
  append : ∀ a b, (∀ c ∈ b.head?, ¬ LeavesOpen a c) → f (a ++ b) = f a ++ f b
  /-- A text without `$` stands for itself. -/
  literal : ∀ t, '$' ∉ t → f t = t
  /-- So does a `$` alone. -/
  dollar : f ['$'] = ['$']
  /-- `$?` stands for the last status. -/
  status : f ['$', '?'] = (vars.get? statusName).getD []
  /-- `$NAME` stands for the value of the variable, which is empty if it is not set. -/
  name : ∀ n, isIdentifier n = true → f ('$' :: n) = (vars.get? n).getD []

theorem expandText_eq (quoted : Bool) (vars : Variables) (t : Text) :
    expandText quoted vars t = expandChars vars t := Word.expand_ofChars vars t quoted

/-! ### The laws hold -/

section Expansion

variable (quoted : Bool) (vars : Variables)

theorem expandText_append {a b : Text} (h : ∀ c ∈ b.head?, ¬ LeavesOpen a c) :
    expandText quoted vars (a ++ b) = expandText quoted vars a ++ expandText quoted vars b := by
  rw [expandText_eq, expandText_eq, expandText_eq, expandChars_append h]

/-- `$?` before any text. -/
theorem expandText_status (t : Text) : expandText quoted vars ('$' :: '?' :: t)
    = (vars.get? statusName).getD [] ++ expandText quoted vars t := by
  rw [expandText_eq, expandText_eq, expandChars_status]
  rfl

/-- `$NAME` before a text that does not go on with the name. -/
theorem expandText_name {n t : Text} (hn : isIdentifier n = true)
    (ht : ∀ c ∈ t.head?, isNameChar c = false) :
    expandText quoted vars ('$' :: (n ++ t))
      = (vars.get? n).getD [] ++ expandText quoted vars t := by
  rw [expandText_eq, expandText_eq, expandChars_name hn ht]
  rfl

theorem expansionLaws_expandText : ExpansionLaws vars (expandText quoted vars) := by
  refine ⟨fun a b h => expandText_append quoted vars h, fun t ht => ?_, rfl, ?_, fun n hn => ?_⟩
  · rw [expandText_eq, expandChars_of_notMem ht]
  · exact (expandText_eq quoted vars _).trans (expandChars_statusReference vars)
  · exact (expandText_eq quoted vars _).trans (expandChars_reference hn vars)

/-- A `$` never goes on with a reference. -/
theorem not_leavesOpen_dollar (a : Text) : ¬ LeavesOpen a '$' := by
  rintro (⟨-, -, hc⟩ | ⟨-, -, -, -, hc⟩)
  · exact absurd hc (by decide)
  · exact absurd hc (by decide)

/-- **Every `$` starts a reference of its own.** -/
theorem expandText_append_dollar (a b : Text) :
    expandText quoted vars (a ++ '$' :: b)
      = expandText quoted vars a ++ expandText quoted vars ('$' :: b) := by
  refine expandText_append quoted vars fun c hc => ?_
  obtain rfl : '$' = c := Option.some.inj hc
  exact not_leavesOpen_dollar a

end Expansion

/-! ### The laws leave no choice -/

/-- A text without `$` leaves nothing open. -/
theorem not_leavesOpen_of_notMem {t : Text} (h : '$' ∉ t) (c : Char) : ¬ LeavesOpen t c := by
  rintro (⟨p, rfl, -⟩ | ⟨p, n, rfl, -, -⟩)
  · exact h (by simp)
  · exact h (by simp)

/-- After a single reference a text may be cut unless it goes on with the name. -/
theorem not_leavesOpen_of_continues {t : Text} {c : Char} {r : Reference}
    (hr : Reference.scan .outside t = r) (hc : r.continues c = false) : ¬ LeavesOpen t c := by
  rw [← continues_scan_iff, hr, hc]
  exact Bool.false_ne_true

/-- **What a text stands for follows from the laws**, by its division. -/
theorem ExpansionLaws.eq_of_divides {vars : Variables} {f : Text → Text}
    (hf : ExpansionLaws vars f) {t : Text} {ps : List Piece} (h : Divides t ps) :
    f t = fillPieces vars ps := by
  induction h with
  | nil => exact hf.literal [] List.not_mem_nil
  | @char c t ps hc _ ih =>
    have hmem : '$' ∉ [c] := by simpa [eq_comm] using hc
    have hcut := hf.append [c] t fun d _ => not_leavesOpen_of_notMem hmem d
    rw [hf.literal [c] hmem, ih] at hcut
    exact hcut
  | @status t ps _ ih =>
    have hcut := hf.append ['$', '?'] t fun d _ => not_leavesOpen_of_continues rfl rfl
    rw [hf.status, ih] at hcut
    exact hcut
  | @name n t ps hn ht _ ih =>
    have hscan : Reference.scan .outside ('$' :: n) = .named n :=
      Reference.scan_eq_named_iff.mpr ⟨[], rfl, hn⟩
    have hcut := hf.append ('$' :: n) t fun d hd => not_leavesOpen_of_continues hscan (ht d hd)
    rw [hf.name n hn, ih] at hcut
    exact hcut
  | @dollar t ps ht _ ih =>
    have hcut := hf.append ['$'] t fun d hd => by
      obtain ⟨hquestion, hstart⟩ := ht d hd
      have hstops : Reference.dollar.continues d = false := by
        simp [Reference.continues, hquestion, hstart]
      exact not_leavesOpen_of_continues rfl hstops
    rw [hf.dollar, ih] at hcut
    exact hcut

/-- **Expansion is what its laws say.**  In a part where `$` is special, a map of texts has the laws
of expansion exactly if it is expansion.  Without knowing the variables, a text may be cut in two
exactly where the second part does not go on with a reference that the first leaves open.  Every `$`
starts a reference of its own, and what a reference stands for is put in as it is, with whatever it
has of `$`, between what stands before and after it. -/
theorem expandText_determined (quoted : Bool) :
    (∀ vars f, ExpansionLaws vars f ↔ f = expandText quoted vars) ∧
    (∀ a b, (∀ vars, expandText quoted vars (a ++ b)
        = expandText quoted vars a ++ expandText quoted vars b) ↔
      ∀ c ∈ b.head?, ¬ LeavesOpen a c) ∧
    (∀ vars a b, expandText quoted vars (a ++ '$' :: b)
      = expandText quoted vars a ++ expandText quoted vars ('$' :: b)) ∧
    (∀ vars a b, expandText quoted vars (a ++ '$' :: '?' :: b)
      = expandText quoted vars a ++ (vars.get? statusName).getD [] ++ expandText quoted vars b) ∧
    (∀ vars a n b, isIdentifier n = true → (∀ c ∈ b.head?, isNameChar c = false) →
      expandText quoted vars (a ++ '$' :: (n ++ b))
        = expandText quoted vars a ++ (vars.get? n).getD [] ++ expandText quoted vars b) := by
  refine ⟨fun vars f => ⟨fun hf => ?_, ?_⟩, fun a b => ⟨fun h => ?_, fun h vars => ?_⟩,
    expandText_append_dollar quoted, fun vars a b => ?_, fun vars a n b hn hb => ?_⟩
  · funext t
    rw [expandText_eq, expandChars_eq]
    exact hf.eq_of_divides (divides_iff.mpr rfl)
  · rintro rfl
    exact expansionLaws_expandText quoted vars
  · -- without variables, characters are lost where a reference goes on
    rintro c hc hopen
    obtain ⟨t, rfl⟩ := List.head?_eq_some_iff.mp hc
    have hlost := length_expandChars_append_lt (t := t) hopen
    have hcut := congrArg List.length (h .empty)
    rw [expandText_eq, expandText_eq, expandText_eq, List.length_append] at hcut
    omega
  · exact expandText_append quoted vars h
  · rw [expandText_append_dollar, expandText_status, List.append_assoc]
  · rw [expandText_append_dollar, expandText_name quoted vars hn hb, List.append_assoc]

/-- A lone `$`, a value with a `$` in it, a digit after `$`, and a letter after `$?`. -/
example : expandText false (.ofList [("x", "$y"), ("y", "1"), ("?", "0")]) "$$x$1$?yé$"
    = "$$y$10yé$".toList := by decide

end CommandShell
