import CommandShell.Line.Word
import Mathlib.Data.List.Chain

/-!
# Words as rows of marked characters

A word is a row of parts, and a part is a run of characters in one quoting mode.  What a word
says is simpler: a row of characters, each with the mode that it was written in.  The parts add
nothing to that as long as they are grouped, that is, as long as none of them is empty and
neighbours differ in their modes.

## Main definitions

* `Mark` — a character with its mode.
* `Word.marks` — the row of marked characters that a word stands for.
* `Word.ofMarks` — the word that is made by pushing the characters of a row in order.
* `Word.Grouped` — no part is empty, and neighbouring parts differ in their modes.

## Main results

* `Word.marks_ofMarks`, `Word.ofMarks_marks` — rows of marked characters and grouped words are
  the same thing.
-/

namespace CommandShell

/-- A character of a word with the mode in which it was written. -/
structure Mark where
  /-- The character. -/
  char : Char
  /-- Whether `$` names a variable here. -/
  expands : Bool
  /-- Whether the character was inside quotes or escaped by a backslash. -/
  quoted : Bool
  deriving DecidableEq, Repr

/-- The quoting mode of a marked character. -/
def Mark.mode (m : Mark) : Bool × Bool := (m.expands, m.quoted)

/-- The quoting mode of a part. -/
def Part.mode (p : Part) : Bool × Bool := (p.expands, p.quoted)

/-- The characters of a part, each with the mode of the part. -/
def Part.marks (p : Part) : List Mark := p.text.map fun c => ⟨c, p.expands, p.quoted⟩

/-- A part with more characters at its end. -/
def Part.extend (p : Part) (t : Text) : Part := { p with text := p.text ++ t }

@[simp] theorem Part.mode_extend (p : Part) (t : Text) : (p.extend t).mode = p.mode := rfl

@[simp] theorem Part.marks_extend (p : Part) (t : Text) :
    (p.extend t).marks = p.marks ++ t.map fun c => ⟨c, p.expands, p.quoted⟩ := by
  simp [Part.marks, Part.extend]

namespace Word

/-- The characters of a word with their modes. -/
def marks (w : Word) : List Mark := w.parts.flatMap Part.marks

/-- One more marked character at the end of a word. -/
def pushMark (w : Word) (m : Mark) : Word := w.push m.char m.expands m.quoted

/-- More marked characters at the end of a word. -/
def pushMarks (w : Word) (ms : List Mark) : Word := ms.foldl pushMark w

/-- The word with given characters and modes. -/
def ofMarks (ms : List Mark) : Word := empty.pushMarks ms

/-- No part is empty, and neighbouring parts differ in their modes. -/
structure Grouped (w : Word) : Prop where
  /-- Every part has a character. -/
  nonempty : ∀ p ∈ w.parts, p.text ≠ []
  /-- Neighbouring parts differ in their modes. -/
  distinct : w.parts.IsChain fun p q => p.mode ≠ q.mode

/-- The characters of a part are marked in the mode of the part. -/
theorem mem_marks_of_mem_part {w : Word} {p : Part} (hp : p ∈ w.parts) {c : Char}
    (hc : c ∈ p.text) : ⟨c, p.expands, p.quoted⟩ ∈ w.marks :=
  List.mem_flatMap.mpr ⟨p, hp, List.mem_map.mpr ⟨c, hc, rfl⟩⟩

/-- The marked characters of a word are those of its text. -/
theorem char_marks (w : Word) : w.marks.map Mark.char = w.text := by
  have hpart : ∀ p : Part, p.marks.map Mark.char = p.text := by
    intro p
    simp [Part.marks, Function.comp_def]
  rw [marks, text, List.map_flatMap]
  exact List.flatMap_congr fun p _ => hpart p

@[simp] theorem marks_empty : empty.marks = [] := rfl

@[simp] theorem pushMarks_nil (w : Word) : w.pushMarks [] = w := rfl

@[simp] theorem pushMarks_cons (w : Word) (m : Mark) (ms : List Mark) :
    w.pushMarks (m :: ms) = (w.pushMark m).pushMarks ms := rfl

theorem pushMarks_append (w : Word) (ms ns : List Mark) :
    w.pushMarks (ms ++ ns) = (w.pushMarks ms).pushMarks ns := by
  simp [pushMarks, List.foldl_append]

/-! ### Pushing -/

theorem pushPart_cons_cons (c : Char) (expands quoted : Bool) (p q : Part) (parts : List Part) :
    pushPart c expands quoted (p :: q :: parts) = p :: pushPart c expands quoted (q :: parts) := rfl

/-- Only the last part of a word matters when a character is pushed. -/
theorem pushPart_concat (c : Char) (expands quoted : Bool) (parts : List Part) (p : Part) :
    pushPart c expands quoted (parts ++ [p]) = parts ++ pushPart c expands quoted [p] := by
  induction parts with
  | nil => rfl
  | cons first parts ih =>
    cases parts with
    | nil => rfl
    | cons second parts =>
      rw [List.cons_append, List.cons_append, pushPart_cons_cons]
      exact congrArg (List.cons first) ih

/-- A character in the mode of the last part joins it. -/
theorem pushMark_concat_of_eq {parts : List Part} {p : Part} {m : Mark} (h : m.mode = p.mode) :
    pushMark ⟨parts ++ [p]⟩ m = ⟨parts ++ [p.extend [m.char]]⟩ := by
  obtain ⟨he, hq⟩ := Prod.mk.inj h
  rw [pushMark, push, pushPart_concat]
  simp [pushPart, he, hq, Part.extend]

/-- A character in another mode than the last part starts a part. -/
theorem pushMark_concat_of_ne {parts : List Part} {p : Part} {m : Mark} (h : m.mode ≠ p.mode) :
    pushMark ⟨parts ++ [p]⟩ m = ⟨parts ++ [p, ⟨[m.char], m.expands, m.quoted⟩]⟩ := by
  have hne : ¬ (p.expands = m.expands ∧ p.quoted = m.quoted) :=
    fun ⟨he, hq⟩ => h (Prod.ext he.symm hq.symm)
  rw [pushMark, push, pushPart_concat]
  simp [pushPart, hne]

/-- The characters of a word after a push, with their modes. -/
@[simp] theorem marks_pushMark (w : Word) (m : Mark) : (w.pushMark m).marks = w.marks ++ [m] := by
  obtain ⟨parts⟩ := w
  rcases List.eq_nil_or_concat parts with rfl | ⟨parts, p, rfl⟩
  · rfl
  · by_cases h : m.mode = p.mode
    · obtain ⟨he, hq⟩ := Prod.mk.inj h
      rw [List.concat_eq_append, pushMark_concat_of_eq h]
      simp [marks, ← he, ← hq]
    · rw [List.concat_eq_append, pushMark_concat_of_ne h]
      simp [marks, Part.marks]

@[simp] theorem marks_pushMarks (w : Word) (ms : List Mark) :
    (w.pushMarks ms).marks = w.marks ++ ms := by
  induction ms generalizing w with
  | nil => simp
  | cons m ms ih =>
    rw [pushMarks_cons, ih, marks_pushMark, List.append_assoc, List.singleton_append]

/-- Every row of marked characters is that of a word. -/
@[simp] theorem marks_ofMarks (ms : List Mark) : (ofMarks ms).marks = ms := by
  rw [ofMarks, marks_pushMarks, marks_empty, List.nil_append]

/-! ### Grouping -/

theorem grouped_empty : empty.Grouped := ⟨by simp [empty], .nil⟩

theorem Grouped.pushMark {w : Word} (h : w.Grouped) (m : Mark) : (w.pushMark m).Grouped := by
  obtain ⟨parts⟩ := w
  obtain ⟨hne, hd⟩ := h
  -- the chain can change only at the last part: it grows, or a part comes after it
  rcases List.eq_nil_or_concat parts with rfl | ⟨parts, p, rfl⟩
  · exact ⟨by simp [Word.pushMark, push, pushPart], .singleton _⟩
  · rw [List.concat_eq_append] at hne hd ⊢
    rw [List.isChain_append] at hd
    by_cases hm : m.mode = p.mode
    · rw [pushMark_concat_of_eq hm]
      refine ⟨?_, ?_⟩
      · simp only [List.mem_append, List.mem_singleton] at hne ⊢
        rintro q (hq | rfl)
        · exact hne q (.inl hq)
        · simp [Part.extend]
      · rw [List.isChain_append]
        exact ⟨hd.1, .singleton _, by simpa using hd.2.2⟩
    · rw [pushMark_concat_of_ne hm]
      refine ⟨?_, ?_⟩
      · simp only [List.mem_append, List.mem_cons, List.not_mem_nil, or_false] at hne ⊢
        rintro q (hq | rfl | rfl)
        · exact hne q (.inl hq)
        · exact hne q (.inr rfl)
        · simp
      · rw [List.isChain_append]
        exact ⟨hd.1, List.isChain_pair.mpr (Ne.symm hm), by simpa using hd.2.2⟩

theorem Grouped.pushMarks {w : Word} (h : w.Grouped) (ms : List Mark) :
    (w.pushMarks ms).Grouped := by
  induction ms generalizing w with
  | nil => exact h
  | cons m ms ih => exact ih (h.pushMark m)

/-- Pushing keeps words grouped, so a word that is made by pushing is grouped. -/
theorem grouped_ofMarks (ms : List Mark) : (ofMarks ms).Grouped := grouped_empty.pushMarks ms

/-- Characters in the mode of the last part join it. -/
theorem pushMarks_concat_of_eq (parts : List Part) (p : Part) (t : Text) :
    pushMarks ⟨parts ++ [p]⟩ (t.map fun c => ⟨c, p.expands, p.quoted⟩)
      = ⟨parts ++ [p.extend t]⟩ := by
  induction t generalizing p with
  | nil => simp [Part.extend]
  | cons c t ih =>
    rw [List.map_cons, pushMarks_cons, pushMark_concat_of_eq rfl]
    have h := ih (p.extend [c])
    simpa [Part.extend] using h

/-- The characters of a part that may follow make up that part again. -/
theorem pushMarks_marks {parts : List Part} {p : Part} (hp : p.text ≠ [])
    (hmode : ∀ q ∈ parts.getLast?, q.mode ≠ p.mode) :
    pushMarks ⟨parts⟩ p.marks = ⟨parts ++ [p]⟩ := by
  obtain ⟨text, expands, quoted⟩ := p
  cases text with
  | nil => exact absurd rfl hp
  | cons c text =>
    -- the first character starts the part, since the part before it has another mode
    have hfirst : pushMark ⟨parts⟩ ⟨c, expands, quoted⟩
        = ⟨parts ++ [⟨[c], expands, quoted⟩]⟩ := by
      rcases List.eq_nil_or_concat parts with rfl | ⟨parts, q, rfl⟩
      · rfl
      · rw [List.concat_eq_append] at hmode ⊢
        have hq : Mark.mode ⟨c, expands, quoted⟩ ≠ q.mode := Ne.symm (hmode q (by simp))
        rw [pushMark_concat_of_ne hq, List.append_assoc, List.singleton_append]
    rw [Part.marks, List.map_cons, pushMarks_cons, hfirst]
    exact pushMarks_concat_of_eq parts ⟨[c], expands, quoted⟩ text

/-- Parts that are grouped together with those before them are made by pushing. -/
theorem pushMarks_flatMap_marks {parts : List Part} : ∀ {rest : List Part},
    Grouped ⟨parts ++ rest⟩ → pushMarks ⟨parts⟩ (rest.flatMap Part.marks) = ⟨parts ++ rest⟩ := by
  intro rest
  induction rest generalizing parts with
  | nil => intro _; simp
  | cons p rest ih =>
    intro h
    have hchain := (List.isChain_append.mp h.distinct).2.2
    have hp : pushMarks ⟨parts⟩ p.marks = ⟨parts ++ [p]⟩ :=
      pushMarks_marks (h.nonempty p (by simp)) fun q hq => hchain q hq p (by simp)
    rw [List.flatMap_cons, pushMarks_append, hp, ih (by simpa using h)]
    simp

/-- A grouped word is made of its characters and their modes. -/
theorem ofMarks_marks {w : Word} (h : w.Grouped) : ofMarks w.marks = w := by
  have hparts : Grouped ⟨[] ++ w.parts⟩ := h
  exact pushMarks_flatMap_marks hparts

/-- Grouped words with the same characters in the same modes are equal. -/
theorem Grouped.eq_of_marks_eq {u v : Word} (hu : u.Grouped) (hv : v.Grouped)
    (h : u.marks = v.marks) : u = v := by
  rw [← ofMarks_marks hu, h, ofMarks_marks hv]

end Word

end CommandShell
