import CommandShell.Proofs.Tokenizing

/-!
# The stages that lines are read as

Not every list of words is what some line is read as.  The parts of a word are grouped; a part
outside quotes has no character that would have ended it; a part between double quotes has
neither a double quote nor a backslash, since a backslash there is always in a mode of its own.
A kept backslash is a part by itself, and what follows it is narrow: a character that it does not
escape, so a plain one other than `$`, or the end of the line.

The conditions are about parts, while a line is read segment by segment.  Between the two stand
the marked characters of a word, each with those that follow it.

## Main definitions

* `Part.Legal`, `Word.WellFormed`, `Stage.WellFormed`, `WellFormed` — the conditions, for a part,
  a word, a stage and a line.
* `MarksLegal` — the same for the marked characters of a word.

## Main results

* `marksLegal_segments` — segments of a line have legal characters.
* `wellFormed_of_marksLegal` — a word with legal characters has legal parts.
* `wellFormed_of_tokenize` — **what a line is read as is well formed.**
-/

namespace CommandShell

/-! ### The conditions -/

/-- A part is legal before other parts of its word; `last` tells whether the word ends a line. -/
structure Part.Legal (p : Part) (next : List Part) (last : Prop) : Prop where
  /-- Outside quotes stand characters that have no meaning there. -/
  plain : p.mode = (true, false) → ∀ c ∈ p.text, isBlank c = false ∧ c ∉ ['|', '\'', '"', '\\']
  /-- Between double quotes stands neither their end nor a backslash. -/
  double : p.mode = (true, true) → '"' ∉ p.text ∧ '\\' ∉ p.text
  /-- A kept backslash is alone, and what follows it is not escaped by it. -/
  kept : p.mode = (false, false) → p.text = ['\\'] ∧
    ((∃ q rest, next = q :: rest ∧ q.mode = (true, false) ∧ q.text.head? ≠ some '$') ∨
      (next = [] ∧ last))

/-- A word is well formed; `last` tells whether it ends a line. -/
structure Word.WellFormed (w : Word) (last : Prop) : Prop extends w.Grouped where
  /-- Every part is legal before those that follow it. -/
  legal : ∀ front p back, w.parts = front ++ p :: back → p.Legal back last

/-- The words of a stage are well formed where they stand; `last` tells whether the stage ends a
line. -/
def Stage.WellFormed (stage : Stage) (last : Prop) : Prop :=
  ∀ front w back, stage = front ++ w :: back → Word.WellFormed w (back = [] ∧ last)

/-- **Stages that a line can be read as.**  Every stage has a word, and the words are well formed,
of which only the last of the last stage ends the line. -/
structure WellFormed (stages : List Stage) : Prop where
  /-- Every stage has a word. -/
  words : ∀ stage ∈ stages, stage ≠ []
  /-- Every stage is well formed where it stands. -/
  legal : ∀ before stage after, stages = before ++ stage :: after →
    Stage.WellFormed stage (after = [])

theorem Stage.WellFormed.head {w : Word} {stage : Stage} {last : Prop}
    (h : Stage.WellFormed (w :: stage) last) : w.WellFormed (stage = [] ∧ last) :=
  h [] w stage rfl

theorem Stage.WellFormed.tail {w : Word} {stage : Stage} {last : Prop}
    (h : Stage.WellFormed (w :: stage) last) : Stage.WellFormed stage last :=
  fun front v back hstage => h (w :: front) v back (congrArg (w :: ·) hstage)

theorem WellFormed.head_ne_nil {stage : Stage} {stages : List Stage}
    (h : WellFormed (stage :: stages)) : stage ≠ [] :=
  h.words stage List.mem_cons_self

theorem WellFormed.head {stage : Stage} {stages : List Stage} (h : WellFormed (stage :: stages)) :
    Stage.WellFormed stage (stages = []) :=
  h.legal [] stage stages rfl

theorem WellFormed.tail {stage : Stage} {stages : List Stage} (h : WellFormed (stage :: stages)) :
    WellFormed stages :=
  ⟨fun r hr => h.words r (List.mem_cons_of_mem stage hr),
    fun before r after hstages => h.legal (stage :: before) r after
      (congrArg (stage :: ·) hstages)⟩

/-! ### Marked characters -/

/-- A marked character is legal before others of its word. -/
structure Mark.Legal (m : Mark) (next : List Mark) (last : Prop) : Prop where
  /-- Outside quotes stand characters that have no meaning there. -/
  plain : m.mode = (true, false) → isBlank m.char = false ∧ m.char ∉ ['|', '\'', '"', '\\']
  /-- Between double quotes stands neither their end nor a backslash. -/
  double : m.mode = (true, true) → m.char ≠ '"' ∧ m.char ≠ '\\'
  /-- What follows a kept backslash is not escaped by it. -/
  kept : m.mode = (false, false) → m.char = '\\' ∧
    ((∃ n rest, next = n :: rest ∧ n.mode = (true, false) ∧ n.char ≠ '$') ∨ (next = [] ∧ last))

/-- Every character of a row is legal before those that follow it. -/
def MarksLegal (last : Prop) : List Mark → Prop
  | [] => True
  | m :: ms => m.Legal ms last ∧ MarksLegal last ms

variable {last : Prop}

theorem MarksLegal.right {ms ns : List Mark} (h : MarksLegal last (ms ++ ns)) :
    MarksLegal last ns := by
  induction ms with
  | nil => exact h
  | cons m ms ih => exact ih h.2

theorem MarksLegal.exists_legal {ms : List Mark} (h : MarksLegal last ms) {m : Mark}
    (hm : m ∈ ms) : ∃ next, m.Legal next last := by
  induction ms with
  | nil => exact absurd hm List.not_mem_nil
  | cons n ms ih =>
    rcases List.mem_cons.mp hm with rfl | hm
    · exact ⟨ms, h.1⟩
    · exact ih h.2 hm

/-- What follows matters to kept backslashes only. -/
theorem marksLegal_append {ms ns : List Mark} (hms : ∀ m ∈ ms, ∀ next, m.Legal next last)
    (hns : MarksLegal last ns) : MarksLegal last (ms ++ ns) := by
  induction ms with
  | nil => exact hns
  | cons m ms ih =>
    rw [List.forall_mem_cons] at hms
    exact ⟨hms.1 _, ih hms.2⟩

/-- A character that is escaped, or between single quotes, is legal before anything. -/
theorem legal_quoted (c : Char) (next : List Mark) : Mark.Legal ⟨c, false, true⟩ next last :=
  ⟨fun h => absurd h (by simp [Mark.mode]), fun h => absurd h (by simp [Mark.mode]),
    fun h => absurd h (by simp [Mark.mode])⟩

/-- Items between double quotes stand for legal characters. -/
theorem legal_items {items : List QuotedItem} {rest : Text} (h : QuotedFits items rest) :
    ∀ m ∈ items.map QuotedItem.mark, ∀ next, m.Legal next last := by
  induction items with
  | nil => simp
  | cons i items ih =>
    rw [List.map_cons, List.forall_mem_cons]
    refine ⟨fun next => ?_, ih h.2⟩
    cases i with
    | escape c => exact legal_quoted c next
    | backslash => exact legal_quoted '\\' next
    | char c =>
      exact ⟨fun hm => absurd hm (by simp [QuotedItem.mark, Mark.mode]), fun _ => h.1,
        fun hm => absurd hm (by simp [QuotedItem.mark, Mark.mode])⟩

/-- After a kept backslash a segment can only be a plain character other than `$`. -/
theorem exists_plain_of_not_escaped {s : Segment} {rest : Text}
    (h : ∀ c ∈ (s.spell ++ rest).head?, ¬ EscapedPlain c) : ∃ c, s = .plain c ∧ c ≠ '$' := by
  cases s with
  | plain c =>
    refine ⟨c, rfl, ?_⟩
    rintro rfl
    exact h '$' rfl (by decide)
  | escape c => exact absurd (by decide) (h '\\' rfl)
  | backslash => exact absurd (by decide) (h '\\' rfl)
  | single t => exact absurd (by decide) (h '\'' rfl)
  | double items => exact absurd (by decide) (h '"' rfl)

/-- **Segments of a line have legal characters.**  A backslash that is kept at the end of the word
is not followed by a character that it would escape; `last` is what this means for the line. -/
theorem marksLegal_segments {segments : List Segment} {rest : Text}
    (h : LexemesFit (segments.map .segment) rest)
    (hlast : (∀ c ∈ rest.head?, ¬ EscapedPlain c) → last) :
    MarksLegal last (segments.flatMap Segment.marks) := by
  induction segments with
  | nil => trivial
  | cons s segments ih =>
    obtain ⟨hs, hrest⟩ := h
    have hmarks := ih hrest
    rw [List.flatMap_cons]
    cases s with
    | plain c =>
      refine ⟨⟨fun _ => hs, fun hm => ?_, fun hm => ?_⟩, hmarks⟩
      · exact absurd hm (by simp [Mark.mode])
      · exact absurd hm (by simp [Mark.mode])
    | escape c => exact ⟨legal_quoted c _, hmarks⟩
    | single t =>
      refine marksLegal_append (fun m hm next => ?_) hmarks
      obtain ⟨c, -, rfl⟩ := List.mem_map.mp hm
      exact legal_quoted c next
    | double items => exact marksLegal_append (legal_items hs) hmarks
    | backslash =>
      refine ⟨⟨fun hm => ?_, fun hm => ?_, fun _ => ⟨rfl, ?_⟩⟩, hmarks⟩
      · exact absurd hm (by simp [Mark.mode])
      · exact absurd hm (by simp [Mark.mode])
      -- the next character of the line is that of the next segment, if there is one
      · cases segments with
        | nil => exact .inr ⟨rfl, hlast hs⟩
        | cons x segments =>
          have hhead : ∀ c ∈ (x.spell ++ ((segments.map .segment).flatMap Lexeme.spell
              ++ rest)).head?, ¬ EscapedPlain c := by
            rw [← List.append_assoc]
            exact hs
          obtain ⟨c, rfl, hc⟩ := exists_plain_of_not_escaped hhead
          exact .inl ⟨⟨c, true, false⟩, _, rfl, rfl, hc⟩

/-! ### From characters to parts -/

/-- **A grouped word with legal characters has legal parts.** -/
theorem wellFormed_of_marksLegal {w : Word} (hw : w.Grouped) (h : MarksLegal last w.marks) :
    w.WellFormed last := by
  refine ⟨hw, fun front p back hparts => ?_⟩
  have hmarks : MarksLegal last (p.marks ++ back.flatMap Part.marks) := by
    rw [Word.marks, hparts, List.flatMap_append, List.flatMap_cons] at h
    exact h.right
  have hchar : ∀ c ∈ p.text, ∃ next, Mark.Legal ⟨c, p.expands, p.quoted⟩ next last := by
    intro c hc
    refine hmarks.exists_legal (List.mem_append_left _ ?_)
    exact List.mem_map.mpr ⟨c, hc, rfl⟩
  refine ⟨fun hmode c hc => ?_, fun hmode => ?_, fun hmode => ?_⟩
  · obtain ⟨next, hlegal⟩ := hchar c hc
    exact hlegal.plain hmode
  · constructor
    · intro hc
      obtain ⟨next, hlegal⟩ := hchar _ hc
      exact (hlegal.double hmode).1 rfl
    · intro hc
      obtain ⟨next, hlegal⟩ := hchar _ hc
      exact (hlegal.double hmode).2 rfl
  · obtain ⟨text, expands, quoted⟩ := p
    obtain ⟨rfl, rfl⟩ : expands = false ∧ quoted = false := Prod.mk.inj hmode
    cases text with
    | nil => exact absurd rfl (hw.nonempty ⟨[], false, false⟩ (by simp [hparts]))
    | cons c text =>
      obtain ⟨hc, hnext⟩ := hmarks.1.kept rfl
      obtain rfl : c = '\\' := hc
      -- a second character of the part would be in its mode, but the next one is plain
      cases text with
      | cons d text =>
        rcases hnext with ⟨n, rest, hn, hplain, -⟩ | ⟨hn, -⟩
        · obtain ⟨rfl, -⟩ := List.cons.inj hn
          exact absurd hplain (by simp [Mark.mode])
        · exact absurd hn (List.cons_ne_nil _ _)
      | nil =>
        refine ⟨rfl, ?_⟩
        cases back with
        | nil =>
          rcases hnext with ⟨n, rest, hn, -⟩ | ⟨-, hlast⟩
          · exact absurd hn (List.cons_ne_nil _ _).symm
          · exact .inr ⟨rfl, hlast⟩
        | cons q back =>
          obtain ⟨other, expands, quoted⟩ := q
          cases other with
          | nil => exact absurd rfl (hw.nonempty ⟨[], expands, quoted⟩ (by simp [hparts]))
          | cons d other =>
            rcases hnext with ⟨n, rest, hn, hplain, hd⟩ | ⟨hn, -⟩
            · obtain ⟨rfl, -⟩ := List.cons.inj hn
              exact .inl ⟨_, _, rfl, hplain, fun hhead => hd (Option.some.inj hhead)⟩
            · exact absurd hn (List.cons_ne_nil _ _)

/-! ### Lines -/

/-- A stage of a line ends at a pipe sign or at the end of the line. -/
theorem exists_lineLexemes_split (before : List StageLayout) (s : StageLayout)
    (after : List StageLayout) :
    ∃ front back, lineLexemes (before ++ s :: after) = front ++ (s.lexemes ++ back) ∧
      ((back = [] ∧ after = []) ∨ ∃ more, back = .pipe :: more) := by
  have hrest : ∃ back, lineLexemes (s :: after) = s.lexemes ++ back ∧
      ((back = [] ∧ after = []) ∨ ∃ more, back = .pipe :: more) := by
    rcases eq_or_ne after [] with rfl | hafter
    · exact ⟨[], by rw [lineLexemes_singleton, List.append_nil], .inl ⟨rfl, rfl⟩⟩
    · exact ⟨_, lineLexemes_cons s hafter, .inr ⟨_, rfl⟩⟩
  obtain ⟨back, hback, hend⟩ := hrest
  rcases eq_or_ne before [] with rfl | hbefore
  · exact ⟨[], back, hback, hend⟩
  · refine ⟨lineLexemes before ++ [.pipe], back, ?_, hend⟩
    rw [lineLexemes_append hbefore (List.cons_ne_nil s after), hback, List.append_cons]

/-- A word that another follows has a blank after it. -/
theorem gap_ne_nil_of_separated {front : List WordLayout} {w : WordLayout}
    {back : List WordLayout} (h : Separated (front ++ w :: back)) : w.gap ≠ [] ∨ back = [] := by
  induction front with
  | nil => exact (separated_cons.mp h).2.1
  | cons v front ih => exact ih (separated_cons.mp h).2.2

/-- A word of a line has legal characters, and ends the line if it ends in a kept backslash. -/
theorem Spells.marksLegal {before : List StageLayout} {s : StageLayout}
    {after : List StageLayout} {line : Text} (h : Spells (before ++ s :: after) [] line)
    {front : List WordLayout} {w : WordLayout} {back : List WordLayout}
    (hw : s.words = front ++ w :: back) : MarksLegal (back = [] ∧ after = []) w.marks := by
  obtain ⟨ahead, behind, hlexemes, hend⟩ := exists_lineLexemes_split before s after
  have hfit := h.fits
  simp only [hlexemes, StageLayout.lexemes, hw, List.flatMap_append, List.flatMap_cons,
    WordLayout.lexemes, LexemesFit, rowFits_append] at hfit
  obtain ⟨-, ⟨-, -, ⟨hsegments, hgap⟩, -⟩, -⟩ := hfit
  refine marksLegal_segments hsegments fun hhead => ?_
  -- a blank or a pipe sign after the word would be escaped
  have hnogap : w.gap = [] := by
    cases hw : w.gap with
    | nil => rfl
    | cons c gap =>
      rw [hw] at hgap hhead
      have hblank := ((lexemesFit_blanks (c :: gap) _).mp hgap) c List.mem_cons_self
      exact absurd (.inl hblank) (hhead c rfl)
  have hback : back = [] := by
    have hsep := h.separated s (by simp)
    rw [hw] at hsep
    exact (gap_ne_nil_of_separated hsep).resolve_left fun hne => hne hnogap
  refine ⟨hback, ?_⟩
  rcases hend with ⟨-, hafter⟩ | ⟨more, rfl⟩
  · exact hafter
  · rw [hnogap, hback] at hhead
    exact absurd (by decide) (hhead '|' rfl)

theorem wellFormed_readLayout {t : List StageLayout} {line : Text} (h : Derives t line) :
    WellFormed (readLayout t) := by
  refine ⟨fun stage hs => ?_, fun before stage after hsplit front w back hstage => ?_⟩
  · obtain ⟨s, hmem, rfl⟩ := List.mem_map.mp hs
    simpa using h.words s hmem
  · obtain ⟨tbefore, rest, rfl, rfl, hrest⟩ := List.map_eq_append_iff.mp hsplit
    obtain ⟨s, tafter, rfl, rfl, rfl⟩ := List.map_eq_cons_iff.mp hrest
    obtain ⟨wfront, wrest, hwords, rfl, hwrest⟩ := List.map_eq_append_iff.mp hstage
    obtain ⟨v, wback, rfl, rfl, rfl⟩ := List.map_eq_cons_iff.mp hwrest
    have hmarks := h.toSpells.marksLegal hwords
    refine wellFormed_of_marksLegal (Word.grouped_ofMarks v.marks) ?_
    simpa using hmarks

/-- **What a line is read as is well formed.** -/
theorem wellFormed_of_tokenize {line : Text} {stages : List Stage}
    (h : tokenize line = .ok stages) : WellFormed stages := by
  rcases exists_derives_of_tokenize h with rfl | ⟨t, ht, rfl⟩
  · exact ⟨by simp, fun before stage after hsplit => absurd hsplit (by simp)⟩
  · exact wellFormed_readLayout ht

end CommandShell
