import CommandShell.Proofs.Layouts

/-!
# Lines that are written on purpose

A line is derived by the grammar if somebody writes it that way: choose the segments of each
word, put blanks between the words and pipe signs between the stages.  What such a line looks
like as a text, and when its lexemes fit, can be said word by word, since a blank or a pipe sign
never changes what stands before it unless that ends in a kept backslash.

Of the ways to write a text, the one between single quotes is the only one that takes more than
one segment: a single quote in the text has to be written outside of them.

## Main definitions

* `WordLayout.spell`, `StageLayout.spell` — a word with the blanks after it, a stage.
* `inSingleQuotes`, `singleSegments` — a text between single quotes, and its segments.

## Main results

* `spell_lineLexemes` — a layout spells its stages with pipe signs between them.
* `lexemesFit_line` — the lexemes of a line fit if those of its words do.
* `spell_singleSegments`, `marks_singleSegments` — what single quotes keep.
-/

namespace CommandShell

/-! ### Layouts as text -/

/-- A word with the blanks after it. -/
def WordLayout.spell (w : WordLayout) : Text := w.segments.flatMap Segment.spell ++ w.gap

/-- A stage with the blanks before its first word. -/
def StageLayout.spell (s : StageLayout) : Text := s.lead ++ s.words.flatMap WordLayout.spell

theorem spell_segments (segments : List Segment) :
    (segments.map Lexeme.segment).flatMap Lexeme.spell = segments.flatMap Segment.spell :=
  List.flatMap_map _ _ segments

theorem WordLayout.spell_lexemes (w : WordLayout) : w.lexemes.flatMap Lexeme.spell = w.spell := by
  rw [lexemes, List.flatMap_append, spell_segments, spell_blanks, spell]

theorem StageLayout.spell_lexemes (s : StageLayout) :
    s.lexemes.flatMap Lexeme.spell = s.spell := by
  have hwords : (s.words.flatMap WordLayout.lexemes).flatMap Lexeme.spell
      = s.words.flatMap WordLayout.spell := by
    rw [List.flatMap_assoc]
    exact congrArg s.words.flatMap (funext WordLayout.spell_lexemes)
  rw [lexemes, List.flatMap_append, spell_blanks, hwords, spell]

/-- **A layout spells its stages with pipe signs between them.** -/
theorem spell_lineLexemes (t : List StageLayout) :
    (lineLexemes t).flatMap Lexeme.spell = ['|'].intercalate (t.map StageLayout.spell) := by
  induction t with
  | nil => rfl
  | cons s t ih =>
    cases t with
    | nil => rw [lineLexemes_singleton, s.spell_lexemes, List.map_singleton,
        List.intercalate_singleton]
    | cons r t =>
      rw [lineLexemes_cons s (List.cons_ne_nil r t), List.flatMap_append, List.flatMap_cons,
        s.spell_lexemes, ih]
      simp [Lexeme.spell]

/-! ### Lexemes that fit -/

section Rows

variable {α β : Type} {spell : α → Text} {fits : α → Text → Prop}

/-- Items that fit before every text make a row that does. -/
theorem rowFits_of_forall {xs : List α} (h : ∀ x ∈ xs, ∀ rest, fits x rest) (rest : Text) :
    RowFits spell fits xs rest := by
  induction xs with
  | nil => trivial
  | cons x xs ih =>
    rw [List.forall_mem_cons] at h
    exact ⟨h.1 _, ih h.2⟩

/-- Rows that fit before every text fit one after the other. -/
theorem rowFits_flatMap {f : β → List α} {xs : List β}
    (h : ∀ x ∈ xs, ∀ rest, RowFits spell fits (f x) rest) (rest : Text) :
    RowFits spell fits (xs.flatMap f) rest := by
  induction xs with
  | nil => trivial
  | cons x xs ih =>
    rw [List.forall_mem_cons] at h
    rw [List.flatMap_cons, rowFits_append]
    exact ⟨h.1 _, ih h.2⟩

end Rows

/-- Segments that fit before every text make a row that does. -/
theorem lexemesFit_segments {segments : List Segment}
    (h : ∀ s ∈ segments, ∀ rest, s.Fits rest) (rest : Text) :
    LexemesFit (segments.map .segment) rest := by
  refine rowFits_of_forall (fun l hl rest => ?_) rest
  obtain ⟨s, hs, rfl⟩ := List.mem_map.mp hl
  exact h s hs rest

/-- A word fits if its segments fit before the blanks after it. -/
theorem WordLayout.lexemesFit {w : WordLayout} {rest : Text}
    (hsegments : LexemesFit (w.segments.map .segment) (w.gap ++ rest))
    (hgap : ∀ c ∈ w.gap, isBlank c = true) : LexemesFit w.lexemes rest := by
  rw [lexemes, LexemesFit, rowFits_append, spell_blanks]
  exact ⟨hsegments, (lexemesFit_blanks w.gap rest).mpr hgap⟩

/-- **The lexemes of a line fit** if its stages fit wherever they stand, except that the last one
need only fit at the end of the line. -/
theorem lexemesFit_line {front : List StageLayout} {last : StageLayout}
    (hfront : ∀ s ∈ front, ∀ rest, LexemesFit s.lexemes rest)
    (hlast : LexemesFit last.lexemes []) : LexemesFit (lineLexemes (front ++ [last])) [] := by
  induction front with
  | nil => rwa [List.nil_append, lineLexemes_singleton]
  | cons s front ih =>
    rw [List.forall_mem_cons] at hfront
    have hmore : front ++ [last] ≠ [] := List.concat_ne_nil last front
    rw [List.cons_append, lineLexemes_cons s hmore, LexemesFit, rowFits_append]
    exact ⟨hfront.1 _, trivial, ih hfront.2⟩

/-! ### Single quotes -/

/-- A text between single quotes.  A single quote in it is written outside of them, after a
backslash. -/
def inSingleQuotes (t : Text) : Text :=
  '\'' :: (t.flatMap (fun c => if c = '\'' then ['\'', '\\', '\'', '\''] else [c]) ++ ['\''])

/-- The segments of a text between single quotes, of which `read` stands in the first. -/
def singleSegmentsFrom (read : Text) : Text → List Segment
  | [] => [.single read]
  | c :: t =>
      if c = '\'' then .single read :: .escape '\'' :: singleSegmentsFrom [] t
      else singleSegmentsFrom (read ++ [c]) t

/-- The segments of a text between single quotes. -/
def singleSegments (t : Text) : List Segment := singleSegmentsFrom [] t

theorem spell_singleSegmentsFrom (read t : Text) :
    (singleSegmentsFrom read t).flatMap Segment.spell
      = '\'' :: (read ++ t.flatMap (fun c => if c = '\'' then ['\'', '\\', '\'', '\''] else [c])
          ++ ['\'']) := by
  induction t generalizing read with
  | nil => simp [singleSegmentsFrom, Segment.spell]
  | cons c t ih =>
    by_cases hc : c = '\''
    · simp [singleSegmentsFrom, hc, ih, Segment.spell]
    · simp [singleSegmentsFrom, hc, ih]

theorem marks_singleSegmentsFrom (read t : Text) :
    (singleSegmentsFrom read t).flatMap Segment.marks
      = (read ++ t).map fun c => ⟨c, false, true⟩ := by
  induction t generalizing read with
  | nil => simp [singleSegmentsFrom, Segment.marks]
  | cons c t ih =>
    by_cases hc : c = '\''
    · simp [singleSegmentsFrom, hc, ih, Segment.marks]
    · simp [singleSegmentsFrom, hc, ih]

theorem fits_singleSegmentsFrom {read : Text} (hread : '\'' ∉ read) (t : Text) :
    ∀ s ∈ singleSegmentsFrom read t, ∀ rest, s.Fits rest := by
  induction t generalizing read with
  | nil =>
    intro s hs rest
    rw [List.mem_singleton.mp hs]
    exact hread
  | cons c t ih =>
    by_cases hc : c = '\''
    · simp only [singleSegmentsFrom, if_pos hc, List.forall_mem_cons]
      refine ⟨fun rest => hread, fun rest => ?_, ih List.not_mem_nil⟩
      exact .inr (by decide)
    · rw [singleSegmentsFrom, if_neg hc]
      refine ih ?_
      rw [List.mem_append, List.mem_singleton]
      rintro (h | h)
      · exact hread h
      · exact hc h.symm

/-- Single quotes are spelled by their segments. -/
theorem spell_singleSegments (t : Text) :
    (singleSegments t).flatMap Segment.spell = inSingleQuotes t :=
  spell_singleSegmentsFrom [] t

/-- **Single quotes keep every character**, in the mode in which nothing is special. -/
theorem marks_singleSegments (t : Text) :
    (singleSegments t).flatMap Segment.marks = t.map fun c => ⟨c, false, true⟩ :=
  marks_singleSegmentsFrom [] t

/-- They may stand before anything. -/
theorem fits_singleSegments (t : Text) : ∀ s ∈ singleSegments t, ∀ rest, s.Fits rest :=
  fits_singleSegmentsFrom List.not_mem_nil t

theorem singleSegments_ne_nil (t : Text) : singleSegments t ≠ [] := by
  intro h
  have hspell := spell_singleSegments t
  rw [h] at hspell
  exact absurd hspell (List.cons_ne_nil _ _).symm

end CommandShell
