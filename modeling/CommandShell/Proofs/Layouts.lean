import CommandShell.Proofs.Lexemes

/-!
# The grammar of a line

Above the lexemes the grammar of a line is regular: segments that touch make a word, words with
blanks between them make a stage, and stages with pipe signs between them make a line.  A
derivation is a *layout*, which keeps the blanks as well, so it spells the line character by
character.

Every row of lexemes has exactly one layout, `layoutOf`, in which some stages may lack words.
The grammar derives the line if none does.

## Main definitions

* `WordLayout`, `StageLayout` — words and stages as they stand in a line.
* `Spells t tail line` — the stages `t` spell the line up to a tail.
* `Derives t line` — the stages `t` spell the whole line, and all of them have words.
* `Carries t stages` — the stages of words have the characters and modes of a layout.

## Main results

* `exists_spells` — every line has a layout, up to a quote without a partner.
* `Spells.unique` — a line has no two layouts.
* `carries_iff` — a layout stands for one list of stages, `readLayout`.
-/

namespace CommandShell

/-! ### Layouts -/

/-- A word as it stands in a line: its segments, and the blanks after it. -/
structure WordLayout where
  /-- The segments, which touch. -/
  segments : List Segment
  /-- The blanks up to the next word or the end of the stage. -/
  gap : Text
  deriving DecidableEq, Repr

/-- A stage as it stands in a line: the blanks before it, and its words. -/
structure StageLayout where
  /-- The blanks before the first word, all of them if there is no word. -/
  lead : Text
  /-- The words. -/
  words : List WordLayout
  deriving DecidableEq, Repr

namespace WordLayout

/-- The lexemes of a word and of the blanks after it. -/
def lexemes (w : WordLayout) : List Lexeme := w.segments.map .segment ++ w.gap.map .blank

/-- The characters of a word with their modes. -/
def marks (w : WordLayout) : List Mark := w.segments.flatMap Segment.marks

end WordLayout

/-- Every word has a segment, and neighbouring words have a blank between them. -/
def Separated : List WordLayout → Prop
  | [] => True
  | [w] => w.segments ≠ []
  | w :: v :: rest => w.segments ≠ [] ∧ w.gap ≠ [] ∧ Separated (v :: rest)

/-- Only a word that is followed by another needs a blank after it. -/
theorem separated_cons {w : WordLayout} {words : List WordLayout} :
    Separated (w :: words) ↔ w.segments ≠ [] ∧ (w.gap ≠ [] ∨ words = []) ∧ Separated words := by
  cases words with
  | nil => exact ⟨fun h => ⟨h, .inr rfl, trivial⟩, fun h => h.1⟩
  | cons v words =>
    exact ⟨fun h => ⟨h.1, .inl h.2.1, h.2.2⟩,
      fun h => ⟨h.1, h.2.1.resolve_right (List.cons_ne_nil v words), h.2.2⟩⟩

/-- The lexemes of a stage. -/
def StageLayout.lexemes (s : StageLayout) : List Lexeme :=
  s.lead.map .blank ++ s.words.flatMap WordLayout.lexemes

/-- The lexemes of a line: its stages, with pipe signs between them. -/
def lineLexemes (t : List StageLayout) : List Lexeme :=
  [.pipe].intercalate (t.map StageLayout.lexemes)

/-- The stages of a layout spell a line up to a tail.  Stages may lack words. -/
structure Spells (t : List StageLayout) (tail line : Text) : Prop where
  /-- There is a stage. -/
  nonempty : t ≠ []
  /-- The words of a stage are kept apart. -/
  separated : ∀ s ∈ t, Separated s.words
  /-- Every lexeme fits what follows it, up to the end of the line. -/
  fits : LexemesFit (lineLexemes t) tail
  /-- The line is what the lexemes and the tail spell. -/
  line_eq : line = (lineLexemes t).flatMap Lexeme.spell ++ tail

/-- **A derivation of a line**: stages, each with a word, that spell all of it. -/
structure Derives (t : List StageLayout) (line : Text) : Prop extends Spells t [] line where
  /-- Every stage has a word. -/
  words : ∀ s ∈ t, s.words ≠ []

/-- The words of a line are those of a derivation: in the same stages and order, with the same
characters in the same modes, and grouped into parts as far as the modes allow. -/
structure Carries (t : List StageLayout) (stages : List Stage) : Prop where
  /-- The characters of the words, and their modes. -/
  marks : stages.map (List.map Word.marks) = t.map fun s => s.words.map WordLayout.marks
  /-- The parts of the words. -/
  grouped : ∀ stage ∈ stages, ∀ w ∈ stage, w.Grouped

/-- The stages that a layout stands for. -/
def readLayout (t : List StageLayout) : List Stage :=
  t.map fun s => s.words.map fun w => Word.ofMarks w.marks

/-- A layout stands for the only stages that have its characters and modes. -/
theorem carries_iff {t : List StageLayout} {stages : List Stage} :
    Carries t stages ↔ stages = readLayout t := by
  constructor
  · rintro ⟨hmarks, hgrouped⟩
    -- a grouped word can be made again from its marks, which are those of the layout
    have hstage : ∀ stage ∈ stages, (stage.map Word.marks).map Word.ofMarks = stage := by
      intro stage hs
      rw [List.map_map]
      exact (List.map_congr_left fun w hw => Word.ofMarks_marks (hgrouped stage hs w hw)).trans
        (List.map_id stage)
    calc stages = (stages.map (List.map Word.marks)).map (List.map Word.ofMarks) := by
          rw [List.map_map]
          exact ((List.map_congr_left hstage).trans (List.map_id stages)).symm
      _ = readLayout t := by
          rw [hmarks, List.map_map, readLayout]
          exact List.map_congr_left fun s _ => List.map_map
  · rintro rfl
    refine ⟨?_, ?_⟩
    · simp [readLayout, Function.comp_def]
    · simp only [readLayout, List.mem_map, forall_exists_index, and_imp]
      rintro stage s - rfl w hw
      obtain ⟨v, -, rfl⟩ := List.mem_map.mp hw
      exact Word.grouped_ofMarks _

@[simp] theorem lineLexemes_singleton (s : StageLayout) : lineLexemes [s] = s.lexemes :=
  List.intercalate_singleton

theorem lineLexemes_cons (s : StageLayout) {t : List StageLayout} (h : t ≠ []) :
    lineLexemes (s :: t) = s.lexemes ++ .pipe :: lineLexemes t := by
  have hmap : t.map StageLayout.lexemes ≠ [] := mt List.map_eq_nil_iff.mp h
  rw [lineLexemes, List.map_cons, List.intercalate_cons_of_ne_nil hmap,
    List.append_assoc, List.singleton_append, lineLexemes]

theorem lineLexemes_append {t u : List StageLayout} (ht : t ≠ []) (hu : u ≠ []) :
    lineLexemes (t ++ u) = lineLexemes t ++ .pipe :: lineLexemes u := by
  induction t with
  | nil => exact absurd rfl ht
  | cons s t ih =>
    cases t with
    | nil => rw [List.singleton_append, lineLexemes_cons s hu, lineLexemes_singleton]
    | cons r t =>
      have hne : r :: t ≠ [] := List.cons_ne_nil r t
      rw [List.cons_append, lineLexemes_cons s (by simp), ih hne, lineLexemes_cons s hne,
        List.append_assoc, List.cons_append]

/-! ### Every row of lexemes is laid out in one way -/

/-- One more blank before a stage. -/
def StageLayout.consBlank (c : Char) (s : StageLayout) : StageLayout :=
  { s with lead := c :: s.lead }

/-- One more segment before a stage: it belongs to the first word if no blank is between. -/
def StageLayout.consSegment (x : Segment) : StageLayout → StageLayout
  | ⟨[], w :: words⟩ => ⟨[], { w with segments := x :: w.segments } :: words⟩
  | ⟨gap, words⟩ => ⟨[], ⟨[x], gap⟩ :: words⟩

/-- The layout of a row of lexemes. -/
def layoutOf : List Lexeme → List StageLayout
  | [] => [⟨[], []⟩]
  | .pipe :: ls => ⟨[], []⟩ :: layoutOf ls
  | .blank c :: ls => (layoutOf ls).modifyHead (.consBlank c)
  | .segment x :: ls => (layoutOf ls).modifyHead (.consSegment x)

theorem layoutOf_ne_nil (ls : List Lexeme) : layoutOf ls ≠ [] := by
  fun_induction layoutOf ls with
  | case1 => simp
  | case2 ls ih => simp
  | case3 c ls ih => simpa using ih
  | case4 x ls ih => simpa using ih

@[simp] theorem StageLayout.lexemes_consBlank (c : Char) (s : StageLayout) :
    (s.consBlank c).lexemes = .blank c :: s.lexemes := rfl

@[simp] theorem StageLayout.lexemes_consSegment (x : Segment) (s : StageLayout) :
    (s.consSegment x).lexemes = .segment x :: s.lexemes := by
  fun_cases StageLayout.consSegment x s <;> simp [lexemes, WordLayout.lexemes]

theorem StageLayout.separated_consSegment (x : Segment) {s : StageLayout}
    (h : Separated s.words) : Separated (s.consSegment x).words := by
  fun_cases StageLayout.consSegment x s with
  | case1 w words => cases words <;> simp_all [Separated]
  | case2 gap words hne => cases words <;> simp_all [Separated]

/-- A change of the first stage that puts a lexeme before it puts that before the line. -/
theorem lineLexemes_modifyHead {f : StageLayout → StageLayout} {l : Lexeme}
    (hf : ∀ s, (f s).lexemes = l :: s.lexemes) {t : List StageLayout} (ht : t ≠ []) :
    lineLexemes (t.modifyHead f) = l :: lineLexemes t := by
  obtain ⟨s, t, rfl⟩ := List.exists_cons_of_ne_nil ht
  rw [List.modifyHead_cons]
  rcases eq_or_ne t [] with rfl | hne
  · rw [lineLexemes_singleton, lineLexemes_singleton, hf]
  · rw [lineLexemes_cons _ hne, lineLexemes_cons _ hne, hf, List.cons_append]

/-- The layout of a row of lexemes has these lexemes. -/
theorem lineLexemes_layoutOf (ls : List Lexeme) : lineLexemes (layoutOf ls) = ls := by
  induction ls with
  | nil => rfl
  | cons l ls ih =>
    have hne := layoutOf_ne_nil ls
    cases l with
    | blank c =>
      rw [layoutOf, lineLexemes_modifyHead (StageLayout.lexemes_consBlank c) hne, ih]
    | pipe => rw [layoutOf, lineLexemes_cons _ hne, ih]; rfl
    | segment x =>
      rw [layoutOf, lineLexemes_modifyHead (StageLayout.lexemes_consSegment x) hne, ih]

theorem separated_layoutOf (ls : List Lexeme) : ∀ s ∈ layoutOf ls, Separated s.words := by
  induction ls with
  | nil => simp [layoutOf, Separated]
  | cons l ls ih =>
    obtain ⟨s, t, hst⟩ := List.exists_cons_of_ne_nil (layoutOf_ne_nil ls)
    rw [hst, List.forall_mem_cons] at ih
    cases l with
    | blank c =>
      rw [layoutOf, hst, List.modifyHead_cons, List.forall_mem_cons]
      exact ih
    | pipe =>
      rw [layoutOf, hst, List.forall_mem_cons, List.forall_mem_cons]
      exact ⟨trivial, ih⟩
    | segment x =>
      rw [layoutOf, hst, List.modifyHead_cons, List.forall_mem_cons]
      exact ⟨StageLayout.separated_consSegment x ih.1, ih.2⟩

theorem layoutOf_blanks {ls : List Lexeme} {s : StageLayout} {t : List StageLayout}
    (h : layoutOf ls = s :: t) (gap : Text) :
    layoutOf (gap.map .blank ++ ls) = { s with lead := gap ++ s.lead } :: t := by
  induction gap with
  | nil => exact h
  | cons c gap ih => rw [List.map_cons, List.cons_append, layoutOf, ih]; rfl

/-- Segments make one word, and the blanks after them end it. -/
theorem layoutOf_segments {ls : List Lexeme} {gap : Text} {words : List WordLayout}
    {t : List StageLayout} (h : layoutOf ls = ⟨gap, words⟩ :: t) (hgap : gap ≠ [] ∨ words = [])
    {segments : List Segment} (hne : segments ≠ []) :
    layoutOf (segments.map .segment ++ ls) = ⟨[], ⟨segments, gap⟩ :: words⟩ :: t := by
  induction segments with
  | nil => exact absurd rfl hne
  | cons x segments ih =>
    rw [List.map_cons, List.cons_append, layoutOf]
    -- the last segment starts the word, and those before it join it
    rcases eq_or_ne segments [] with rfl | hmore
    · rw [List.map_nil, List.nil_append, h]
      cases gap with
      | nil => rw [hgap.resolve_left (· rfl)]; rfl
      | cons c gap => rfl
    · rw [ih hmore]
      rfl

theorem layoutOf_words {ls : List Lexeme} {t : List StageLayout}
    (h : layoutOf ls = ⟨[], []⟩ :: t) {words : List WordLayout} (hw : Separated words) :
    layoutOf (words.flatMap WordLayout.lexemes ++ ls) = ⟨[], words⟩ :: t := by
  induction words with
  | nil => exact h
  | cons w words ih =>
    obtain ⟨hne, hgap, hrest⟩ := separated_cons.mp hw
    have hblanks := layoutOf_blanks (ih hrest) w.gap
    rw [List.append_nil] at hblanks
    rw [List.flatMap_cons, WordLayout.lexemes, List.append_assoc, List.append_assoc]
    exact layoutOf_segments hblanks hgap hne

theorem layoutOf_stage {ls : List Lexeme} {t : List StageLayout}
    (h : layoutOf ls = ⟨[], []⟩ :: t) {s : StageLayout} (hs : Separated s.words) :
    layoutOf (s.lexemes ++ ls) = s :: t := by
  have hblanks := layoutOf_blanks (layoutOf_words h hs) s.lead
  rw [List.append_nil] at hblanks
  rw [StageLayout.lexemes, List.append_assoc, hblanks]

/-- A layout is the one that its lexemes have. -/
theorem layoutOf_lineLexemes {t : List StageLayout} (hne : t ≠ [])
    (h : ∀ s ∈ t, Separated s.words) : layoutOf (lineLexemes t) = t := by
  induction t with
  | nil => exact absurd rfl hne
  | cons s t ih =>
    rw [List.forall_mem_cons] at h
    -- the layout of what follows a stage is built first, and the stage is put before it
    rcases eq_or_ne t [] with rfl | hmore
    · rw [lineLexemes_singleton, ← List.append_nil s.lexemes]
      exact layoutOf_stage rfl h.1
    · have hpipe : layoutOf (.pipe :: lineLexemes t) = ⟨[], []⟩ :: t := by
        rw [layoutOf, ih hmore h.2]
      rw [lineLexemes_cons s hmore]
      exact layoutOf_stage hpipe h.1

/-- **Every line has a layout** up to a quote without a partner, if it has one. -/
theorem exists_spells (line : Text) :
    ∃ t tail, Spells t tail line ∧ (tail = [] ∨ OpenQuote tail) := by
  obtain ⟨ls, tail, hline, hfit, htail⟩ := exists_lexemes line
  refine ⟨layoutOf ls, tail, ⟨layoutOf_ne_nil ls, separated_layoutOf ls, ?_, ?_⟩, htail⟩
  · rwa [lineLexemes_layoutOf]
  · rwa [lineLexemes_layoutOf]

/-- **A line has no two layouts**, hence no two derivations. -/
theorem Spells.unique {t u : List StageLayout} {line : Text} (ht : Spells t [] line)
    (hu : Spells u [] line) : t = u := by
  have hspell : (lineLexemes t).flatMap Lexeme.spell = (lineLexemes u).flatMap Lexeme.spell := by
    have h := ht.line_eq.symm.trans hu.line_eq
    rwa [List.append_nil, List.append_nil] at h
  -- the lexemes are decided by the line, and the layout by the lexemes
  have hlexemes := lexemes_unique ht.fits hu.fits hspell
  rw [← layoutOf_lineLexemes ht.nonempty ht.separated, hlexemes,
    layoutOf_lineLexemes hu.nonempty hu.separated]

/-- What stands before a pipe sign of a line is itself laid out, before that pipe sign. -/
theorem Spells.front {front back : List StageLayout} {tail line : Text}
    (h : Spells (front ++ back) tail line) (hfront : front ≠ []) (hback : back ≠ []) :
    ∃ rest, Spells front ('|' :: rest) line := by
  have hfits := h.fits
  rw [lineLexemes_append hfront hback, LexemesFit, rowFits_append] at hfits
  refine ⟨(lineLexemes back).flatMap Lexeme.spell ++ tail, hfront,
    fun s hs => h.separated s (List.mem_append_left back hs), ?_, ?_⟩
  · exact hfits.1
  · rw [h.line_eq, lineLexemes_append hfront hback, List.flatMap_append, List.append_assoc]
    rfl

theorem lexemes_infix_lineLexemes {s : StageLayout} {t : List StageLayout} (h : s ∈ t) :
    s.lexemes <:+: lineLexemes t := by
  induction t with
  | nil => exact absurd h List.not_mem_nil
  | cons r t ih =>
    rcases eq_or_ne t [] with rfl | hne
    · obtain rfl : s = r := List.mem_singleton.mp h
      exact (lineLexemes_singleton s).symm ▸ List.infix_refl s.lexemes
    · rw [lineLexemes_cons r hne]
      rcases List.mem_cons.mp h with rfl | hs
      · exact List.infix_append_left
      · exact List.infix_append_of_infix_right (List.infix_cons (ih hs))

/-- The segments of a word, or a stretch of them, are legal where nothing follows. -/
theorem Spells.segments_fit {t : List StageLayout} {tail line : Text} (h : Spells t tail line)
    {s : StageLayout} (hs : s ∈ t) {w : WordLayout} (hw : w ∈ s.words) {g : List Segment}
    (hg : g <:+: w.segments) : LexemesFit (g.map .segment) [] := by
  have hword : w.lexemes <:+: s.lexemes := by
    have hmem : w.lexemes ∈ s.words.map WordLayout.lexemes := List.mem_map_of_mem hw
    exact List.infix_append_of_infix_right (List.infix_of_mem_flatten hmem)
  have hline := ((hg.map Lexeme.segment).trans List.infix_append_left).trans
    (hword.trans (lexemes_infix_lineLexemes hs))
  obtain ⟨rest, hrest⟩ := h.fits.exists_of_infix hline
  exact RowFits.front Lexeme.Fits.front hrest

/-- Blanks are spelled as themselves. -/
theorem spell_blanks (t : Text) : (t.map Lexeme.blank).flatMap Lexeme.spell = t := by
  induction t with
  | nil => rfl
  | cons c t ih => rw [List.map_cons, List.flatMap_cons, ih]; rfl

theorem lexemesFit_blanks (t rest : Text) :
    LexemesFit (t.map .blank) rest ↔ ∀ c ∈ t, isBlank c = true := by
  induction t with
  | nil => simp
  | cons c t ih =>
    rw [List.forall_mem_cons, ← ih]
    rfl

/-- A line is blank exactly if it is a single stage without words. -/
theorem spells_blank {lead line : Text} :
    Spells [⟨lead, []⟩] [] line ↔ line = lead ∧ allBlank line = true := by
  have hlexemes : lineLexemes [⟨lead, []⟩] = lead.map .blank := by simp [StageLayout.lexemes]
  have hall : allBlank lead = true ↔ LexemesFit (lead.map .blank) [] :=
    List.all_eq_true.trans (lexemesFit_blanks lead []).symm
  constructor
  · intro h
    have hline := h.line_eq
    rw [hlexemes, spell_blanks, List.append_nil] at hline
    exact ⟨hline, hline ▸ hall.mpr (hlexemes ▸ h.fits)⟩
  · rintro ⟨rfl, h⟩
    refine ⟨by simp, by simp [Separated], hlexemes ▸ hall.mp h, ?_⟩
    rw [hlexemes, spell_blanks, List.append_nil]

/-- Either all stages have words, or there is a first one without. -/
theorem words_or_split (t : List StageLayout) :
    (∀ s ∈ t, s.words ≠ []) ∨ ∃ front lead back, t = front ++ ⟨lead, []⟩ :: back ∧
      ∀ s ∈ front, s.words ≠ [] := by
  induction t with
  | nil => exact .inl (by simp)
  | cons s t ih =>
    by_cases hs : s.words = []
    · obtain ⟨lead, words⟩ := s
      obtain rfl : words = [] := hs
      exact .inr ⟨[], lead, t, rfl, by simp⟩
    · rcases ih with h | ⟨front, lead, back, rfl, hfront⟩
      · exact .inl (List.forall_mem_cons.mpr ⟨hs, h⟩)
      · exact .inr ⟨s :: front, lead, back, rfl, List.forall_mem_cons.mpr ⟨hs, hfront⟩⟩

end CommandShell
