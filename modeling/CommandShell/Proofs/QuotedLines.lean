import CommandShell.Proofs.Plans
import CommandShell.Proofs.Spellings
import CommandShell.Proofs.Tokenizing

/-!
# Lines that say what they quote

Any text can be written as a word in which every character stands for itself: between single
quotes, between double quotes, or outside quotes with backslashes.  A line of such words is read
back as the texts that were written, whatever the variables are.  The command's name has to be
in quotes, since outside of them a text like `a=b` is an assignment.

All that is used of the three ways of writing is that the segments fit wherever they stand, that
their characters are those of the text, and that none of them is a special `$`.

## Main definitions

* `Quoting`, `Quoting.write` — three ways to write a text.
* `QuotedStage`, `writeLine` — a line of such words.
* `QuotedStage.command` — the command that it stands for.

## Main results

* `Quoting.expand_word` — a quoted text stands for itself.
* `readLine_writeLine` — **what is written is read back.**
-/

namespace CommandShell

/-! ### Three ways to write a text -/

/-- How a text is written as a word in which every character stands for itself. -/
inductive Quoting where
  /-- Between single quotes, with each single quote of the text outside of them. -/
  | single
  /-- Between double quotes, with a backslash before what is special there. -/
  | double
  /-- Outside quotes, with a backslash before what is special there. -/
  | bare
  deriving DecidableEq, Repr

/-- A text between double quotes. -/
def inDoubleQuotes (t : Text) : Text :=
  '"' :: (t.flatMap (fun c => if c ∈ ['$', backquote, '"', '\\'] then ['\\', c] else [c]) ++ ['"'])

/-- A text outside quotes. -/
def withBackslashes (t : Text) : Text :=
  t.flatMap fun c => if EscapedPlain c then ['\\', c] else [c]

namespace Quoting

/-- The text as it is written. -/
def write : Quoting → Text → Text
  | .single, t => inSingleQuotes t
  | .double, t => inDoubleQuotes t
  | .bare, t => withBackslashes t

/-- A character between double quotes. -/
def item (c : Char) : QuotedItem :=
  if c ∈ ['$', backquote, '"', '\\'] then .escape c else .char c

/-- A character outside quotes. -/
def segment (c : Char) : Segment := if EscapedPlain c then .escape c else .plain c

/-- The segments of a text that is written. -/
def segments : Quoting → Text → List Segment
  | .single, t => singleSegments t
  | .double, t => [.double (t.map item)]
  | .bare, t => t.map segment

theorem spell_segments (q : Quoting) (t : Text) :
    (q.segments t).flatMap Segment.spell = q.write t := by
  cases q with
  | single => exact spell_singleSegments t
  | double =>
    have hitem : ∀ c, (item c).spell
        = if c ∈ ['$', backquote, '"', '\\'] then ['\\', c] else [c] := by
      intro c
      rw [item]
      split <;> rfl
    simp only [segments, write, inDoubleQuotes, List.flatMap_singleton, Segment.spell,
      List.flatMap_map, hitem]
  | bare =>
    have hsegment : ∀ c, (segment c).spell = if EscapedPlain c then ['\\', c] else [c] := by
      intro c
      rw [segment]
      split <;> rfl
    simp only [segments, write, withBackslashes, List.flatMap_map, hsegment]

theorem segments_ne_nil {q : Quoting} {t : Text} (h : q = .bare → t ≠ []) : q.segments t ≠ [] := by
  cases q with
  | single => exact singleSegments_ne_nil t
  | double => exact List.cons_ne_nil _ _
  | bare => simpa [segments] using h rfl

/-- A quoted text may stand before anything. -/
theorem fits_segments (q : Quoting) (t : Text) : ∀ s ∈ q.segments t, ∀ rest, s.Fits rest := by
  cases q with
  | single => exact fits_singleSegments t
  | double =>
    intro s hs rest
    rw [List.mem_singleton.mp hs]
    -- no item is a kept backslash, so each of them fits on its own
    refine rowFits_of_forall (fun i hi rest => ?_) _
    obtain ⟨c, -, rfl⟩ := List.mem_map.mp hi
    rw [item]
    split
    · next hc =>
      simp only [List.mem_cons, List.not_mem_nil, or_false] at hc
      rcases hc with rfl | rfl | rfl | rfl
      · exact (by decide : EscapedDouble '$')
      · exact (by decide : EscapedDouble backquote)
      · exact (by decide : EscapedDouble '"')
      · exact (by decide : EscapedDouble '\\')
    · next hc =>
      simp only [List.mem_cons, List.not_mem_nil, or_false, not_or] at hc
      exact ⟨hc.2.2.1, hc.2.2.2⟩
  | bare =>
    intro s hs rest
    obtain ⟨c, -, rfl⟩ := List.mem_map.mp hs
    rw [segment]
    split
    · next hc => exact hc
    · next hc =>
      rw [EscapedPlain, not_or, Bool.not_eq_true] at hc
      refine ⟨hc.1, fun hmem => hc.2 ?_⟩
      simp only [List.mem_cons, List.not_mem_nil, or_false] at hmem ⊢
      tauto

/-! ### What they stand for -/

/-- The characters of a quoted text with their modes. -/
def marks (q : Quoting) (t : Text) : List Mark := (q.segments t).flatMap Segment.marks

theorem char_marks (q : Quoting) (t : Text) : (q.marks t).map Mark.char = t := by
  cases q with
  | single => simp [marks, segments, marks_singleSegments, Function.comp_def]
  | double =>
    have hitem : ∀ c, (item c).mark.char = c := by
      intro c
      rw [item]
      split <;> rfl
    simp [marks, segments, Segment.marks, Function.comp_def, hitem]
  | bare =>
    have hsegment : ∀ c, (segment c).marks.map Mark.char = [c] := by
      intro c
      rw [segment]
      split <;> rfl
    simp [marks, segments, List.flatMap_map, List.map_flatMap, hsegment]

/-- No `$` of a quoted text is special. -/
theorem ne_dollar_of_mem_marks {q : Quoting} {t : Text} :
    ∀ m ∈ q.marks t, m.expands = true → m.char ≠ '$' := by
  intro m hm hexpands
  cases q with
  | single =>
    rw [marks, segments, marks_singleSegments] at hm
    obtain ⟨c, -, rfl⟩ := List.mem_map.mp hm
    exact absurd hexpands (by simp)
  | double =>
    simp only [marks, segments, List.flatMap_singleton, Segment.marks, List.map_map,
      List.mem_map] at hm
    obtain ⟨c, -, rfl⟩ := hm
    rw [Function.comp_apply, item] at hexpands ⊢
    split at hexpands
    · exact absurd hexpands (by simp [QuotedItem.mark])
    · next hc =>
      rw [if_neg hc]
      rintro rfl
      exact hc (by simp)
  | bare =>
    simp only [marks, segments, List.flatMap_map, List.mem_flatMap] at hm
    obtain ⟨c, -, hm⟩ := hm
    rw [segment] at hm
    split at hm
    · rw [List.mem_singleton.mp hm] at hexpands
      exact absurd hexpands (by simp)
    · next hc =>
      rw [List.mem_singleton.mp hm]
      rintro rfl
      exact hc (by decide)

/-- In quotes, all characters are marked as quoted. -/
theorem quoted_of_mem_marks {q : Quoting} (hq : q ≠ .bare) {t : Text} :
    ∀ m ∈ q.marks t, m.quoted = true := by
  intro m hm
  cases q with
  | single =>
    rw [marks, segments, marks_singleSegments] at hm
    obtain ⟨c, -, rfl⟩ := List.mem_map.mp hm
    rfl
  | double =>
    simp only [marks, segments, List.flatMap_singleton, Segment.marks, List.map_map,
      List.mem_map] at hm
    obtain ⟨c, -, rfl⟩ := hm
    rw [Function.comp_apply, item]
    split <;> rfl
  | bare => exact absurd rfl hq

/-- The word that a quoted text is read as. -/
def word (q : Quoting) (t : Text) : Word := Word.ofMarks (q.marks t)

theorem fixed_word (q : Quoting) (t : Text) : (q.word t).Fixed := by
  intro p hp hexpands hdollar
  have hmem := Word.mem_marks_of_mem_part hp hdollar
  rw [word, Word.marks_ofMarks] at hmem
  exact ne_dollar_of_mem_marks _ hmem hexpands rfl

/-- **A quoted text stands for itself**, whatever the variables are. -/
theorem expand_word (q : Quoting) (t : Text) (vars : Variables) :
    (q.word t).expand vars = t := by
  rw [Word.expand_of_fixed (q.fixed_word t), ← Word.char_marks, word, Word.marks_ofMarks,
    char_marks]

/-- In quotes it is no assignment, whatever it looks like. -/
theorem assignment?_word {q : Quoting} (hq : q ≠ .bare) (t : Text) :
    (q.word t).assignment? = none := by
  rw [Word.assignment?]
  split
  · rfl
  · next first others hparts =>
    have hfirst : first ∈ (q.word t).parts := by simp [hparts]
    obtain ⟨c, hc⟩ := List.exists_mem_of_ne_nil _
      ((Word.grouped_ofMarks (q.marks t)).nonempty first hfirst)
    have hmem := Word.mem_marks_of_mem_part hfirst hc
    rw [word, Word.marks_ofMarks] at hmem
    rw [if_pos (quoted_of_mem_marks hq _ hmem)]

end Quoting

/-! ### Lines of quoted texts -/

/-- A text, how it is written, and the blanks after it. -/
structure QuotedWord where
  /-- The text. -/
  text : Text
  /-- How it is written. -/
  quoting : Quoting
  /-- The blanks after it. -/
  gap : Text
  deriving DecidableEq, Repr

/-- The texts of a stage as they are written. -/
structure QuotedStage where
  /-- The blanks before the first text. -/
  lead : Text
  /-- The name of the command. -/
  name : QuotedWord
  /-- Its words. -/
  args : List QuotedWord
  deriving DecidableEq, Repr

namespace QuotedStage

/-- All texts of a stage. -/
def words (s : QuotedStage) : List QuotedWord := s.name :: s.args

/-- The stage as it is written. -/
def write (s : QuotedStage) : Text :=
  s.lead ++ s.words.flatMap fun w => w.quoting.write w.text ++ w.gap

/-- Neighbouring words have blanks between them, the name is in quotes, and a word outside
quotes has a character. -/
structure Legal (s : QuotedStage) : Prop where
  /-- The stage starts with blanks, if with anything before its name. -/
  lead : ∀ c ∈ s.lead, isBlank c = true
  /-- Only blanks stand after a word. -/
  gap : ∀ w ∈ s.words, ∀ c ∈ w.gap, isBlank c = true
  /-- They do if another word follows. -/
  apart : ∀ w ∈ s.words.dropLast, w.gap ≠ []
  /-- The name is in quotes. -/
  name : s.name.quoting ≠ .bare
  /-- Outside quotes nothing cannot be written. -/
  bare : ∀ w ∈ s.args, w.quoting = .bare → w.text ≠ []

/-- The command that a stage stands for. -/
def command (s : QuotedStage) : Command :=
  let argv := s.args.map QuotedWord.text
  ⟨s.name.text, (splitOptions argv).1, (splitOptions argv).2, argv⟩

end QuotedStage

/-- A line: its stages with pipe signs between them. -/
def writeLine (stages : List QuotedStage) : Text :=
  ['|'].intercalate (stages.map QuotedStage.write)

/-- The layout of a word. -/
def QuotedWord.layout (w : QuotedWord) : WordLayout := ⟨w.quoting.segments w.text, w.gap⟩

/-- The layout of a stage. -/
def QuotedStage.layout (s : QuotedStage) : StageLayout := ⟨s.lead, s.words.map QuotedWord.layout⟩

namespace QuotedStage

theorem spell_layout (s : QuotedStage) : s.layout.spell = s.write := by
  have hword : ∀ w : QuotedWord, w.layout.spell = w.quoting.write w.text ++ w.gap := by
    intro w
    rw [WordLayout.spell, QuotedWord.layout, Quoting.spell_segments]
  simp only [StageLayout.spell, layout, write, List.flatMap_map, hword]

theorem Legal.segments_ne_nil {s : QuotedStage} (h : s.Legal) {w : QuotedWord}
    (hw : w ∈ s.words) : w.layout.segments ≠ [] := by
  refine Quoting.segments_ne_nil fun hbare => ?_
  rcases List.mem_cons.mp hw with rfl | hw
  · exact absurd hbare h.name
  · exact h.bare w hw hbare

theorem Legal.separated {s : QuotedStage} (h : s.Legal) : Separated s.layout.words := by
  have key : ∀ words : List QuotedWord, (∀ w ∈ words, w.layout.segments ≠ []) →
      (∀ w ∈ words.dropLast, w.gap ≠ []) → Separated (words.map QuotedWord.layout) := by
    intro words
    induction words with
    | nil => exact fun _ _ => trivial
    | cons w words ih =>
      intro hsegments hgap
      rw [List.forall_mem_cons] at hsegments
      rw [List.map_cons, separated_cons, List.map_eq_nil_iff]
      rcases eq_or_ne words [] with rfl | hmore
      · exact ⟨hsegments.1, .inr rfl, trivial⟩
      · rw [List.dropLast_cons_of_ne_nil hmore, List.forall_mem_cons] at hgap
        exact ⟨hsegments.1, .inl hgap.1, ih hsegments.2 hgap.2⟩
  exact key s.words (fun w hw => h.segments_ne_nil hw) h.apart

/-- The lexemes of a legal stage fit wherever it stands. -/
theorem Legal.lexemesFit {s : QuotedStage} (h : s.Legal) (rest : Text) :
    LexemesFit s.layout.lexemes rest := by
  rw [StageLayout.lexemes, LexemesFit, rowFits_append]
  refine ⟨(lexemesFit_blanks s.lead _).mpr h.lead, rowFits_flatMap ?_ rest⟩
  intro v hv rest
  obtain ⟨w, hw, rfl⟩ := List.mem_map.mp hv
  exact WordLayout.lexemesFit (lexemesFit_segments (w.quoting.fits_segments w.text) _)
    (h.gap w hw)

/-- A legal stage is no assignment. -/
theorem Legal.exists_run {s : QuotedStage} (h : s.Legal) :
    ∃ name words, plan (s.words.map fun w => w.quoting.word w.text) = .run name words := by
  rw [words, List.map_cons, plan, Quoting.assignment?_word h.name]
  exact ⟨_, _, rfl⟩

/-- It is the plain command of its texts. -/
theorem Legal.readStage_eq {s : QuotedStage} (h : s.Legal) (vars : Variables) :
    readStage vars (s.words.map fun w => w.quoting.word w.text) = s.command := by
  have hword : ∀ w : QuotedWord, (w.quoting.word w.text).expand vars = w.text := fun w =>
    w.quoting.expand_word w.text vars
  rw [words, List.map_cons, readStage, Quoting.assignment?_word h.name]
  simp only [Command.ofWords, command, List.map_map, Function.comp_def, hword]

end QuotedStage

/-- The grammar derives a line of legal stages. -/
theorem derives_writeLine {stages : List QuotedStage} (hne : stages ≠ [])
    (h : ∀ s ∈ stages, s.Legal) : Derives (stages.map QuotedStage.layout) (writeLine stages) := by
  refine ⟨⟨by simpa using hne, ?_, ?_, ?_⟩, ?_⟩
  · intro r hr
    obtain ⟨s, hs, rfl⟩ := List.mem_map.mp hr
    exact (h s hs).separated
  · obtain ⟨front, last, rfl⟩ : ∃ front last, stages = front ++ [last] :=
      ⟨_, _, (List.dropLast_append_getLast hne).symm⟩
    rw [List.map_append, List.map_singleton]
    refine lexemesFit_line (fun r hr rest => ?_) ((h last (by simp)).lexemesFit [])
    obtain ⟨s, hs, rfl⟩ := List.mem_map.mp hr
    exact (h s (List.mem_append_left _ hs)).lexemesFit rest
  · rw [spell_lineLexemes, List.map_map, List.append_nil, writeLine]
    exact congrArg _ (List.map_congr_left fun s _ => s.spell_layout.symm)
  · intro r hr
    obtain ⟨s, -, rfl⟩ := List.mem_map.mp hr
    exact List.cons_ne_nil _ _

/-- **What is written is read back.**  A line of texts that are written in any of the three ways,
each command's name in quotes, has no assignment in it.  Whatever the variables are, it is read
as one command for each stage: the name is the first text, the words are the others, and the
options are split off them. -/
theorem readLine_writeLine {stages : List QuotedStage} (hne : stages ≠ [])
    (h : ∀ s ∈ stages, s.Legal) :
    ∃ read : List Stage, tokenize (writeLine stages) = .ok read ∧
      (∀ stage ∈ read, ∃ name words, plan stage = .run name words) ∧
      ∀ vars, readLine (writeLine stages) vars = .ok (stages.map QuotedStage.command) := by
  have hread := tokenize_of_derives (derives_writeLine hne h)
  have hlayout : readLayout (stages.map QuotedStage.layout)
      = stages.map fun s => s.words.map fun w => w.quoting.word w.text := by
    simp [readLayout, QuotedStage.layout, QuotedWord.layout, Function.comp_def, WordLayout.marks,
      Quoting.word, Quoting.marks]
  rw [hlayout] at hread
  refine ⟨_, hread, ?_, fun vars => ?_⟩
  · intro stage hs
    obtain ⟨s, hmem, rfl⟩ := List.mem_map.mp hs
    exact (h s hmem).exists_run
  · rw [readLine, hread, Except.map, List.map_map]
    refine congrArg _ (List.map_congr_left fun s hs => ?_)
    exact (h s hs).readStage_eq vars

/-- An assignment in quotes, an empty text, options and a reference, written in all three ways. -/
theorem readLine_writeLine_mixed :
    let stages : List QuotedStage :=
      [⟨[], ⟨"it's", .single, [' ']⟩, [⟨"$x|", .double, ['\t']⟩, ⟨"a b", .bare, []⟩]⟩,
        ⟨[' '], ⟨"x=1", .double, [' ']⟩, [⟨"-n", .bare, [' ']⟩, ⟨[], .single, [' ']⟩]⟩]
    stages ≠ [] ∧ (∀ s ∈ stages, s.Legal) ∧
      writeLine stages = "'it'\\''s' \"\\$x|\"\ta\\ b| \"x=1\" -n '' " ∧
      readLine (writeLine stages) (.ofList [("x", "1")])
        = .ok [⟨"it's", ["$x|", "a b"], .empty, ["$x|", "a b"]⟩,
            ⟨"x=1", [[]], .ofFlags [['n']], ["-n", []]⟩] := by
  intro stages
  have hne : stages ≠ [] := List.cons_ne_nil _ _
  have hlegal : ∀ s ∈ stages, s.Legal := by
    have hspace : isBlank ' ' = true := by decide
    have htab : isBlank '\t' = true := by decide
    simp only [stages, List.forall_mem_cons]
    refine ⟨⟨?_, ?_, ?_, ?_, ?_⟩, ⟨?_, ?_, ?_, ?_, ?_⟩, by simp⟩
    all_goals simp [QuotedStage.words, hspace, htab]
  obtain ⟨read, -, -, hline⟩ := readLine_writeLine hne hlegal
  refine ⟨hne, hlegal, by decide, ?_⟩
  rw [hline]
  decide

end CommandShell
