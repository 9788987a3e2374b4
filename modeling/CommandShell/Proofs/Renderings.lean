import CommandShell.Proofs.Spellings
import CommandShell.Proofs.WellFormed

/-!
# Stages written as a line

Stages that a line can be read as can be written as a line again.  Each part is written in the
quotes of its mode, words get one blank between them, and stages a pipe sign between blanks.  The
line need not be the one that they came from, but it is read as the same stages, with the same
parts in the same modes.  So the conditions of `WellFormed` describe exactly what the tokenizer
can give.

A part that is written next to another could only be disturbed by it after a kept backslash, and
what may follow one is what the conditions say.

## Main definitions

* `Part.render`, `Word.render`, `renderLine` — parts, words and stages as text.
* `layoutWords`, `layoutStages` — the layout of such a line.

## Main results

* `tokenize_renderLine` — what is rendered is read back.
* `tokenize_image` — **the image of the tokenizer, and a line for each element of it.**
-/

namespace CommandShell

/-! ### Stages as text -/

/-- A part: between double quotes if `$` is special and the part is quoted, between single quotes
if `$` is not special but the part is quoted, and bare otherwise. -/
def Part.render (p : Part) : Text :=
  match p.expands, p.quoted with
  | true, true => '"' :: (p.text ++ ['"'])
  | false, true => inSingleQuotes p.text
  | _, false => p.text

/-- A word: its parts, or two quotes if it has none. -/
def Word.render (w : Word) : Text :=
  if w.parts = [] then ['\'', '\''] else w.parts.flatMap Part.render

/-- A stage: its words with a blank between neighbours. -/
def renderStage (stage : Stage) : Text := [' '].intercalate (stage.map Word.render)

/-- A line: its stages with a pipe sign between neighbours, and blanks around that. -/
def renderLine (stages : List Stage) : Text := [' ', '|', ' '].intercalate (stages.map renderStage)

/-- The segments of a part. -/
def Part.segments (p : Part) : List Segment :=
  match p.expands, p.quoted with
  | true, true => [.double (p.text.map .char)]
  | false, true => singleSegments p.text
  | true, false => p.text.map .plain
  | false, false => [.backslash]

/-- The segments of a word. -/
def Word.segments (w : Word) : List Segment :=
  if w.parts = [] then [.single []] else w.parts.flatMap Part.segments

/-! ### Parts -/

section Parts

variable {p : Part} {next : List Part} {last : Prop}

theorem Part.Legal.spell_segments (h : p.Legal next last) :
    p.segments.flatMap Segment.spell = p.render := by
  obtain ⟨text, expands, quoted⟩ := p
  cases expands with
  | true =>
    cases quoted with
    | true => simp [Part.segments, Part.render, Segment.spell, List.flatMap_map, QuotedItem.spell]
    | false => simp [Part.segments, Part.render, Segment.spell, List.flatMap_map]
  | false =>
    cases quoted with
    | true => exact spell_singleSegments text
    | false =>
      obtain rfl : text = ['\\'] := (h.kept rfl).1
      rfl

theorem Part.Legal.marks_segments (h : p.Legal next last) :
    p.segments.flatMap Segment.marks = p.marks := by
  obtain ⟨text, expands, quoted⟩ := p
  cases expands with
  | true =>
    cases quoted with
    | true => simp [Part.segments, Part.marks, Segment.marks, QuotedItem.mark]
    | false =>
      rw [Part.segments, List.flatMap_map]
      exact List.flatMap_pure_eq_map _ text
  | false =>
    cases quoted with
    | true => exact marks_singleSegments text
    | false =>
      obtain rfl : text = ['\\'] := (h.kept rfl).1
      rfl

theorem Part.segments_ne_nil (hp : p.text ≠ []) : p.segments ≠ [] := by
  obtain ⟨text, expands, quoted⟩ := p
  cases expands with
  | true =>
    cases quoted with
    | true => exact List.cons_ne_nil _ _
    | false => simpa [Part.segments] using hp
  | false =>
    cases quoted with
    | true => exact singleSegments_ne_nil text
    | false => exact List.cons_ne_nil _ _

/-- A part that is not a kept backslash may stand before anything. -/
theorem Part.Legal.fits_segments (h : p.Legal next last) (hp : p.mode ≠ (false, false)) :
    ∀ s ∈ p.segments, ∀ rest, s.Fits rest := by
  obtain ⟨text, expands, quoted⟩ := p
  cases expands with
  | true =>
    cases quoted with
    | true =>
      intro s hs rest
      rw [List.mem_singleton.mp hs]
      obtain ⟨hquote, hslash⟩ := h.double rfl
      refine rowFits_of_forall (fun i hi rest => ?_) _
      obtain ⟨c, hc, rfl⟩ := List.mem_map.mp hi
      refine ⟨?_, ?_⟩
      · rintro rfl
        exact hquote hc
      · rintro rfl
        exact hslash hc
    | false =>
      intro s hs rest
      obtain ⟨c, hc, rfl⟩ := List.mem_map.mp hs
      exact h.plain rfl c hc
  | false =>
    cases quoted with
    | true => exact fits_singleSegments text
    | false => exact absurd rfl hp

end Parts

/-! ### Words -/

namespace Word

variable {w : Word} {last : Prop}

theorem WellFormed.legal_of_mem (h : w.WellFormed last) {p : Part} (hp : p ∈ w.parts) :
    ∃ next, p.Legal next last := by
  obtain ⟨front, back, hparts⟩ := List.append_of_mem hp
  exact ⟨back, h.legal front p back hparts⟩

theorem WellFormed.spell_segments (h : w.WellFormed last) :
    w.segments.flatMap Segment.spell = w.render := by
  rw [segments, render]
  split
  · rfl
  · rw [List.flatMap_assoc]
    refine List.flatMap_congr fun p hp => ?_
    obtain ⟨next, hlegal⟩ := h.legal_of_mem hp
    exact hlegal.spell_segments

theorem WellFormed.marks_segments (h : w.WellFormed last) :
    w.segments.flatMap Segment.marks = w.marks := by
  rw [segments, marks]
  split
  · next hnil => rw [hnil]; rfl
  · rw [List.flatMap_assoc]
    refine List.flatMap_congr fun p hp => ?_
    obtain ⟨next, hlegal⟩ := h.legal_of_mem hp
    exact hlegal.marks_segments

theorem WellFormed.segments_ne_nil (h : w.WellFormed last) : w.segments ≠ [] := by
  rw [segments]
  split
  · exact List.cons_ne_nil _ _
  · next hne =>
    obtain ⟨p, parts, hparts⟩ := List.exists_cons_of_ne_nil hne
    rw [hparts, List.flatMap_cons]
    have hp : p.text ≠ [] := h.nonempty p (by simp [hparts])
    exact List.append_ne_nil_of_left_ne_nil (Part.segments_ne_nil hp) _

/-- A character that is plain outside quotes and not `$` is not escaped by a backslash. -/
theorem not_escaped_of_plain {c : Char} (hblank : isBlank c = false)
    (hc : c ∉ ['|', '\'', '"', '\\']) (hdollar : c ≠ '$') : ¬ EscapedPlain c := by
  rintro (h | h)
  · rw [hblank] at h
    exact absurd h (by decide)
  · simp only [List.mem_cons, List.not_mem_nil, or_false] at h hc
    tauto

/-- **The segments of a well-formed word fit** before anything, or at the end of the line if that
is where the word belongs. -/
theorem WellFormed.lexemesFit (h : w.WellFormed last) {rest : Text} (hrest : last → rest = []) :
    LexemesFit (w.segments.map .segment) rest := by
  rw [segments]
  split
  · exact ⟨List.not_mem_nil, trivial⟩
  · -- part by part, each before those that follow it in the word
    have key : ∀ front parts, w.parts = front ++ parts →
        LexemesFit ((parts.flatMap Part.segments).map .segment) rest := by
      intro front parts
      induction parts generalizing front with
      | nil => exact fun _ => trivial
      | cons p parts ih =>
        intro hparts
        have hp : p.Legal parts last := h.legal front p parts hparts
        have htail := ih (front ++ [p]) (by rw [hparts, List.append_cons])
        rw [List.flatMap_cons, List.map_append, LexemesFit, rowFits_append]
        refine ⟨?_, htail⟩
        by_cases hmode : p.mode = (false, false)
        · have hsegments : p.segments = [.backslash] := by
            obtain ⟨text, expands, quoted⟩ := p
            obtain ⟨rfl, rfl⟩ : expands = false ∧ quoted = false := Prod.mk.inj hmode
            rfl
          rw [hsegments]
          refine ⟨?_, trivial⟩
          rcases (hp.kept hmode).2 with ⟨q, back, rfl, hq, hdollar⟩ | ⟨rfl, hlast⟩
          · have hlegal := h.legal (front ++ [p]) q back (by rw [hparts, List.append_cons])
            have hne : q.text ≠ [] := h.nonempty q (by simp [hparts])
            obtain ⟨text, expands, quoted⟩ := q
            obtain ⟨rfl, rfl⟩ : expands = true ∧ quoted = false := Prod.mk.inj hq
            obtain ⟨d, text, rfl⟩ := List.exists_cons_of_ne_nil hne
            obtain ⟨hblank, hd⟩ := hlegal.plain rfl d List.mem_cons_self
            intro c hc
            obtain rfl : d = c := Option.some.inj hc
            exact not_escaped_of_plain hblank hd fun h => hdollar (congrArg some h)
          · rw [hrest hlast]
            exact fun c hc => absurd hc (by simp)
        · exact lexemesFit_segments (hp.fits_segments hmode) _
    exact key [] w.parts rfl

end Word

/-! ### The layout of what is rendered -/

/-- Words with one blank between neighbours, and `gap` after the last of them. -/
def layoutWords (gap : Text) : List Word → List WordLayout
  | [] => []
  | [w] => [⟨w.segments, gap⟩]
  | w :: v :: words => ⟨w.segments, [' ']⟩ :: layoutWords gap (v :: words)

/-- Stages with blanks around the pipe signs between them, and `lead` before the first. -/
def layoutStages (lead : Text) : List Stage → List StageLayout
  | [] => []
  | [stage] => [⟨lead, layoutWords [] stage⟩]
  | stage :: next :: stages =>
      ⟨lead, layoutWords [' '] stage⟩ :: layoutStages [' '] (next :: stages)

theorem isBlank_of_mem_space : ∀ c ∈ [' '], isBlank c = true :=
  List.forall_mem_singleton.mpr (by decide)

section Words

variable {stage : Stage} {last : Prop}

theorem layoutWords_ne_nil {gap : Text} (hne : stage ≠ []) : layoutWords gap stage ≠ [] := by
  fun_cases layoutWords gap stage with
  | case1 => exact absurd rfl hne
  | case2 w => exact List.cons_ne_nil _ _
  | case3 w v words => exact List.cons_ne_nil _ _

theorem spell_layoutWords (gap : Text) (hne : stage ≠ []) (h : Stage.WellFormed stage last) :
    (layoutWords gap stage).flatMap WordLayout.spell = renderStage stage ++ gap := by
  fun_induction layoutWords gap stage with
  | case1 => exact absurd rfl hne
  | case2 w =>
    rw [List.flatMap_singleton, WordLayout.spell, h.head.spell_segments, renderStage,
      List.map_singleton, List.intercalate_singleton]
  | case3 w v words ih =>
    rw [List.flatMap_cons, WordLayout.spell, h.head.spell_segments,
      ih (List.cons_ne_nil v words) h.tail, ← List.append_assoc]
    simp [renderStage]

theorem separated_layoutWords (gap : Text) (h : Stage.WellFormed stage last) :
    Separated (layoutWords gap stage) := by
  fun_induction layoutWords gap stage with
  | case1 => trivial
  | case2 w => exact h.head.segments_ne_nil
  | case3 w v words ih =>
    rw [separated_cons]
    exact ⟨h.head.segments_ne_nil, .inl (List.cons_ne_nil _ _), ih h.tail⟩

/-- The words of a stage fit before anything, or at the end of the line if the stage belongs
there. -/
theorem lexemesFit_layoutWords {gap rest : Text} (hgap : ∀ c ∈ gap, isBlank c = true)
    (h : Stage.WellFormed stage last) (hrest : last → gap ++ rest = []) :
    LexemesFit ((layoutWords gap stage).flatMap WordLayout.lexemes) rest := by
  fun_induction layoutWords gap stage with
  | case1 => trivial
  | case2 w =>
    rw [List.flatMap_singleton]
    exact WordLayout.lexemesFit (h.head.lexemesFit fun hlast => hrest hlast.2) hgap
  | case3 w v words ih =>
    rw [List.flatMap_cons, LexemesFit, rowFits_append]
    refine ⟨WordLayout.lexemesFit (h.head.lexemesFit fun hlast => ?_) isBlank_of_mem_space,
      ih h.tail⟩
    -- a word before another is not the last
    exact absurd hlast.1 (List.cons_ne_nil v words)

theorem marks_layoutWords (gap : Text) (h : Stage.WellFormed stage last) :
    (layoutWords gap stage).map WordLayout.marks = stage.map Word.marks := by
  fun_induction layoutWords gap stage with
  | case1 => rfl
  | case2 w =>
    rw [List.map_singleton, WordLayout.marks, h.head.marks_segments]
    rfl
  | case3 w v words ih =>
    rw [List.map_cons, WordLayout.marks, h.head.marks_segments, ih h.tail]
    rfl

end Words

section Stages

variable {stages : List Stage}

theorem layoutStages_ne_nil {lead : Text} (hne : stages ≠ []) : layoutStages lead stages ≠ [] := by
  fun_cases layoutStages lead stages with
  | case1 => exact absurd rfl hne
  | case2 stage => exact List.cons_ne_nil _ _
  | case3 stage next stages => exact List.cons_ne_nil _ _

theorem spell_layoutStages (lead : Text) (hne : stages ≠ []) (h : WellFormed stages) :
    ['|'].intercalate ((layoutStages lead stages).map StageLayout.spell)
      = lead ++ renderLine stages := by
  fun_induction layoutStages lead stages with
  | case1 => exact absurd rfl hne
  | case2 lead stage =>
    have hwords := spell_layoutWords [] h.head_ne_nil h.head
    rw [List.append_nil] at hwords
    rw [List.map_singleton, List.intercalate_singleton, StageLayout.spell, hwords, renderLine,
      List.map_singleton, List.intercalate_singleton]
  | case3 lead stage next stages ih =>
    have hmore := ih (List.cons_ne_nil next stages) h.tail
    have hrest : (layoutStages [' '] (next :: stages)).map StageLayout.spell ≠ [] :=
      mt List.map_eq_nil_iff.mp (layoutStages_ne_nil (List.cons_ne_nil next stages))
    rw [List.map_cons, List.intercalate_cons_of_ne_nil hrest, hmore, StageLayout.spell,
      spell_layoutWords [' '] h.head_ne_nil h.head]
    simp [renderLine]

theorem separated_layoutStages (lead : Text) (h : WellFormed stages) :
    ∀ s ∈ layoutStages lead stages, Separated s.words := by
  fun_induction layoutStages lead stages with
  | case1 => simp
  | case2 lead stage =>
    rw [List.forall_mem_singleton]
    exact separated_layoutWords [] h.head
  | case3 lead stage next stages ih =>
    rw [List.forall_mem_cons]
    exact ⟨separated_layoutWords [' '] h.head, ih h.tail⟩

theorem words_layoutStages (lead : Text) (h : WellFormed stages) :
    ∀ s ∈ layoutStages lead stages, s.words ≠ [] := by
  fun_induction layoutStages lead stages with
  | case1 => simp
  | case2 lead stage =>
    rw [List.forall_mem_singleton]
    exact layoutWords_ne_nil h.head_ne_nil
  | case3 lead stage next stages ih =>
    rw [List.forall_mem_cons]
    exact ⟨layoutWords_ne_nil h.head_ne_nil, ih h.tail⟩

/-- **The lexemes of what is rendered fit.**  A kept backslash at the end of a word stands at the
end of the line, since the word is the last of the last stage. -/
theorem lexemesFit_layoutStages {lead : Text} (hlead : ∀ c ∈ lead, isBlank c = true)
    (h : WellFormed stages) : LexemesFit (lineLexemes (layoutStages lead stages)) [] := by
  fun_induction layoutStages lead stages with
  | case1 => trivial
  | case2 lead stage =>
    rw [lineLexemes_singleton, StageLayout.lexemes, LexemesFit, rowFits_append]
    exact ⟨(lexemesFit_blanks lead _).mpr hlead,
      lexemesFit_layoutWords (by simp) h.head fun _ => rfl⟩
  | case3 lead stage next stages ih =>
    have hrest : layoutStages [' '] (next :: stages) ≠ [] :=
      layoutStages_ne_nil (List.cons_ne_nil next stages)
    rw [lineLexemes_cons _ hrest, LexemesFit, rowFits_append, StageLayout.lexemes,
      rowFits_append]
    refine ⟨⟨(lexemesFit_blanks lead _).mpr hlead, ?_⟩, trivial, ih isBlank_of_mem_space h.tail⟩
    exact lexemesFit_layoutWords isBlank_of_mem_space h.head fun hlast =>
      absurd hlast (List.cons_ne_nil _ _)

theorem marks_layoutStages (lead : Text) (h : WellFormed stages) :
    (layoutStages lead stages).map (fun s => s.words.map WordLayout.marks)
      = stages.map (List.map Word.marks) := by
  fun_induction layoutStages lead stages with
  | case1 => rfl
  | case2 lead stage =>
    rw [List.map_singleton, marks_layoutWords [] h.head]
    rfl
  | case3 lead stage next stages ih =>
    rw [List.map_cons, ih h.tail, marks_layoutWords [' '] h.head]
    rfl

/-! ### Reading it back -/

/-- The grammar derives what is rendered. -/
theorem derives_renderLine (hne : stages ≠ []) (h : WellFormed stages) :
    Derives (layoutStages [] stages) (renderLine stages) := by
  refine ⟨⟨layoutStages_ne_nil hne, separated_layoutStages [] h,
    lexemesFit_layoutStages (by simp) h, ?_⟩, words_layoutStages [] h⟩
  rw [spell_lineLexemes, spell_layoutStages [] hne h, List.nil_append, List.append_nil]

theorem carries_layoutStages (h : WellFormed stages) : Carries (layoutStages [] stages) stages := by
  refine ⟨(marks_layoutStages [] h).symm, fun stage hs w hw => ?_⟩
  obtain ⟨before, after, hstages⟩ := List.append_of_mem hs
  obtain ⟨front, back, hstage⟩ := List.append_of_mem hw
  exact (h.legal before stage after hstages front w back hstage).toGrouped

/-- **What is rendered is read back**, with the same parts in the same modes. -/
theorem tokenize_renderLine (h : WellFormed stages) :
    tokenize (renderLine stages) = .ok stages := by
  rcases eq_or_ne stages [] with rfl | hne
  · exact tokenize_of_allBlank rfl
  · rw [tokenize_of_derives (derives_renderLine hne h), ← carries_iff.mp (carries_layoutStages h)]

end Stages

/-- **The image of the tokenizer, and a line for each element of it.**  The lists of stages that
lines are read as are the well-formed ones, and these are the ones that are what their own
rendering is read as, with the same parts in the same modes. -/
theorem tokenize_image (stages : List Stage) :
    (WellFormed stages ↔ ∃ line, tokenize line = .ok stages) ∧
    (WellFormed stages ↔ tokenize (renderLine stages) = .ok stages) := by
  refine ⟨⟨fun h => ⟨_, tokenize_renderLine h⟩, ?_⟩, tokenize_renderLine, wellFormed_of_tokenize⟩
  rintro ⟨line, hline⟩
  exact wellFormed_of_tokenize hline

/-- A word of two parts, an empty word, and a kept backslash at the end of the line. -/
example : renderLine [[⟨[⟨"a b", true, true⟩, ⟨"'", false, true⟩]⟩],
    [.empty, ⟨[⟨"c", true, false⟩, ⟨"\\", false, false⟩]⟩]]
    = ("\"a b\"''\\''' | '' c\\" : Text) := by decide

end CommandShell
