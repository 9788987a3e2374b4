import CommandShell.Line.Tokens
import CommandShell.Proofs.Layouts

/-!
# The tokenizer reads the grammar

The machine of `tokenize` takes a line one character at a time.  Between two lexemes it is
always outside quotes, so a whole lexeme can be read in one step, `Draft.read`, in which neither
quotes nor backslashes occur; what is left to be shown about a line is how blanks and pipe signs
end words and stages.  A backslash that escapes nothing is the only lexeme that the machine
finishes late, with the character after it.

## Main definitions

* `Draft.run` — what the rest of a line gives.
* `Draft.read` — one lexeme.
* `LacksStage`, `LacksQuote` — the two ways in which a line fails to be read.

## Main results

* `Draft.run_lexemes` — a row of lexemes is read lexeme by lexeme.
* `tokenize_of_derives`, `tokenize_of_lacksStage`, `tokenize_of_lacksQuote` — what a line gives.
* `reading_cases` — every line is blank, derived by the grammar, or lacks a stage or a quote.
* `tokenize_iff_derives` — **the tokenizer accepts the grammar and returns its structure.**
-/

namespace CommandShell

/-! ### Characters that are escaped -/

theorem escapablePlain_iff (c : Char) : escapablePlain c = true ↔ EscapedPlain c := by
  simp [escapablePlain, EscapedPlain, or_assoc]

theorem escapableDouble_iff (c : Char) : escapableDouble c = true ↔ EscapedDouble c := by
  have hquote : c.toNat = 0x60 ↔ c = backquote := by
    constructor
    · intro h
      exact Char.toNat_inj.mp h
    · rintro rfl
      rfl
  simp [escapableDouble, EscapedDouble, hquote, or_assoc]

namespace Draft

/-! ### Characters -/

/-- What the rest of a line gives. -/
def run (d : Draft) (t : Text) : Except LineError (List Stage) := t.foldlM step d >>= finish

@[simp] theorem run_nil (d : Draft) : d.run [] = d.finish := rfl

theorem run_cons (d : Draft) (c : Char) (t : Text) : d.run (c :: t) = d.step c >>= (run · t) := by
  rw [run, List.foldlM_cons, bind_assoc]
  rfl

theorem run_cons_of_step {d e : Draft} {c : Char} (h : d.step c = .ok e) (t : Text) :
    d.run (c :: t) = e.run t := by
  rw [run_cons, h]
  rfl

/-- What the end of a line outside quotes gives, by the stages and the words that there are. -/
theorem close_eq (d : Draft) : d.close = if d.endWord.words = []
    then (if d.stages = [] then .ok [] else .error .emptyPipe)
    else .ok (d.stages ++ [d.endWord.words]) := by
  rw [close, endStage]
  by_cases hW : d.endWord.words = [] <;> by_cases hS : d.stages = [] <;> simp [hW, hS, Except.map]

/-- At the end of a line the mode does not matter any more. -/
theorem close_turn (d : Draft) (mode : Mode) : (d.turn mode).close = d.close := by
  rw [close_eq, close_eq]
  rfl

variable (S : List Stage) (W : List Word)

/-- A single quote starts a word even if the string is empty. -/
theorem step_singleQuote (word : Option Word) :
    step ⟨S, W, word, .plain⟩ '\'' = .ok ⟨S, W, some (word.getD .empty), .single⟩ := rfl

/-- So does a double quote. -/
theorem step_doubleQuote (word : Option Word) :
    step ⟨S, W, word, .plain⟩ '"' = .ok ⟨S, W, some (word.getD .empty), .double⟩ := rfl

/-- What a backslash means is decided by the next character. -/
theorem step_plain_backslash (word : Option Word) :
    step ⟨S, W, word, .plain⟩ '\\' = .ok ⟨S, W, word, .plainEscape⟩ := rfl

theorem step_double_backslash (word : Option Word) :
    step ⟨S, W, word, .double⟩ '\\' = .ok ⟨S, W, word, .doubleEscape⟩ := rfl

/-- Between single quotes every other character is kept. -/
theorem run_single (w : Word) {t : Text} (ht : '\'' ∉ t) (rest : Text) :
    run ⟨S, W, some w, .single⟩ (t ++ rest)
      = run ⟨S, W, some (w.pushMarks (t.map fun c => ⟨c, false, true⟩)), .single⟩ rest := by
  induction t generalizing w with
  | nil => rfl
  | cons c t ih =>
    rw [List.mem_cons, not_or] at ht
    have hstep : step ⟨S, W, some w, .single⟩ c
        = .ok ⟨S, W, some (w.pushMark ⟨c, false, true⟩), .single⟩ := by
      simp [step, Ne.symm ht.1, push, Word.pushMark]
    rw [List.cons_append, run_cons_of_step hstep, ih _ ht.2]
    rfl

/-- Between double quotes an item is read as its character. -/
theorem run_item (w : Word) {i : QuotedItem} {rest : Text} (hi : i.Fits rest) :
    run ⟨S, W, some w, .double⟩ (i.spell ++ rest)
      = run ⟨S, W, some (w.pushMark i.mark), .double⟩ rest := by
  cases i with
  | escape c =>
    have hc : escapableDouble c = true := (escapableDouble_iff c).mpr hi
    have hstep : step ⟨S, W, some w, .doubleEscape⟩ c
        = .ok ⟨S, W, some (w.pushMark ⟨c, false, true⟩), .double⟩ := by
      simp [step, hc, push, turn, Word.pushMark]
    rw [QuotedItem.spell, List.cons_append, run_cons_of_step (step_double_backslash S W _),
      List.singleton_append, run_cons_of_step hstep]
    rfl
  | backslash =>
    rw [QuotedItem.spell, List.singleton_append, run_cons_of_step (step_double_backslash S W _)]
    -- the machine sees that the backslash is kept when it takes the next character
    cases rest with
    | nil => rfl
    | cons c rest =>
      have hc : ¬ escapableDouble c = true :=
        fun h => hi c (by simp) ((escapableDouble_iff c).mp h)
      rw [run_cons, run_cons]
      simp [step, hc, push, turn, Word.pushMark, QuotedItem.mark]
  | char c =>
    obtain ⟨hquote, hslash⟩ := hi
    have hstep : step ⟨S, W, some w, .double⟩ c
        = .ok ⟨S, W, some (w.pushMark ⟨c, true, true⟩), .double⟩ := by
      simp [step, stepDouble, hquote, hslash, push, Word.pushMark]
    rw [QuotedItem.spell, List.singleton_append, run_cons_of_step hstep]
    rfl

theorem run_items (w : Word) {items : List QuotedItem} {rest : Text}
    (hitems : QuotedFits items rest) :
    run ⟨S, W, some w, .double⟩ (items.flatMap QuotedItem.spell ++ rest)
      = run ⟨S, W, some (w.pushMarks (items.map QuotedItem.mark)), .double⟩ rest := by
  induction items generalizing w with
  | nil => rfl
  | cons i items ih =>
    rw [List.flatMap_cons, List.append_assoc, run_item S W w hitems.1, ih _ hitems.2]
    rfl

/-! ### Lexemes -/

/-- Read one lexeme. -/
def read (d : Draft) : Lexeme → Except LineError Draft
  | .blank _ => .ok d.endWord
  | .pipe => d.endStage
  | .segment s => .ok { d with word := some ((d.word.getD .empty).pushMarks s.marks) }

/-- A segment is read as its characters. -/
theorem run_segment (word : Option Word) {s : Segment} {rest : Text} (hs : s.Fits rest) :
    run ⟨S, W, word, .plain⟩ (s.spell ++ rest)
      = run ⟨S, W, some ((word.getD .empty).pushMarks s.marks), .plain⟩ rest := by
  cases s with
  | plain c =>
    obtain ⟨hblank, hc⟩ := hs
    have hstep : step ⟨S, W, word, .plain⟩ c
        = .ok ⟨S, W, some ((word.getD .empty).pushMark ⟨c, true, false⟩), .plain⟩ := by
      simp only [List.mem_cons, List.not_mem_nil, or_false, not_or] at hc
      simp [step, stepPlain, hblank, hc, push, Word.pushMark]
    exact run_cons_of_step hstep rest
  | escape c =>
    have hc : escapablePlain c = true := (escapablePlain_iff c).mpr hs
    have hstep : step ⟨S, W, word, .plainEscape⟩ c
        = .ok ⟨S, W, some ((word.getD .empty).pushMark ⟨c, false, true⟩), .plain⟩ := by
      simp [step, hc, push, turn, Word.pushMark]
    exact (run_cons_of_step (step_plain_backslash S W word) _).trans
      (run_cons_of_step hstep rest)
  | backslash =>
    refine (run_cons_of_step (step_plain_backslash S W word) rest).trans ?_
    -- kept at the end of the line, or because of the next character, which is then read again
    cases rest with
    | nil => exact close_turn (push ⟨S, W, word, .plain⟩ '\\' false false) .plainEscape
    | cons c rest =>
      have hc : ¬ escapablePlain c = true :=
        fun h => hs c (by simp) ((escapablePlain_iff c).mp h)
      rw [run_cons, run_cons]
      simp [step, hc, push, turn, Word.pushMark, Segment.marks]
  | single t =>
    rw [Segment.spell, List.cons_append, run_cons_of_step (step_singleQuote S W word),
      List.append_assoc, run_single S W _ hs]
    exact run_cons_of_step rfl rest
  | double items =>
    rw [Segment.spell, List.cons_append, run_cons_of_step (step_doubleQuote S W word),
      List.append_assoc, List.singleton_append, run_items S W _ hs]
    exact run_cons_of_step rfl rest

variable {S W}

theorem run_lexeme {d : Draft} (hd : d.mode = .plain) {l : Lexeme} {rest : Text}
    (hl : l.Fits rest) : d.run (l.spell ++ rest) = d.read l >>= (run · rest) := by
  obtain ⟨S, W, word, mode⟩ := d
  obtain rfl : mode = .plain := hd
  cases l with
  | blank c =>
    have hblank : isBlank c = true := hl
    have hstep : step ⟨S, W, word, .plain⟩ c = .ok (endWord ⟨S, W, word, .plain⟩) := by
      -- the machine looks for quotes, backslashes and pipe signs first
      have hne : ∀ d, isBlank d = false → c ≠ d := by
        rintro d hd rfl
        exact absurd hblank (by simp [hd])
      simp [step, stepPlain, hblank, hne '\'' rfl, hne '"' rfl, hne '\\' rfl, hne '|' rfl]
    exact run_cons_of_step hstep rest
  | pipe => exact run_cons _ '|' rest
  | segment s => exact run_segment S W word hl

/-- Reading a lexeme ends outside quotes. -/
theorem mode_of_read {d e : Draft} {l : Lexeme} (h : d.read l = .ok e) : e.mode = d.mode := by
  cases l with
  | blank c => rw [← Except.ok.inj h]; rfl
  | pipe =>
    rw [read, endStage] at h
    split at h
    · exact absurd h (by simp)
    · rw [← Except.ok.inj h]; rfl
  | segment s => rw [← Except.ok.inj h]

/-- **A row of lexemes is read lexeme by lexeme.** -/
theorem run_lexemes {d : Draft} (hd : d.mode = .plain) {ls : List Lexeme} {rest : Text}
    (hl : LexemesFit ls rest) :
    d.run (ls.flatMap Lexeme.spell ++ rest) = ls.foldlM read d >>= (run · rest) := by
  induction ls generalizing d with
  | nil => rfl
  | cons l ls ih =>
    rw [List.flatMap_cons, List.append_assoc, run_lexeme hd hl.1, List.foldlM_cons, bind_assoc]
    -- a lexeme leaves the machine outside quotes, where the next one is read, or stops it
    cases hr : d.read l with
    | error e => rfl
    | ok e => exact ih ((mode_of_read hr).trans hd) hl.2

/-- A quote without a partner is reported, whatever follows it. -/
theorem run_openQuote {d : Draft} (hd : d.mode = .plain) {t : Text} (ht : OpenQuote t) :
    d.run t = .error .unclosedQuote := by
  obtain ⟨S, W, word, mode⟩ := d
  obtain rfl : mode = .plain := hd
  rcases ht with ⟨u, rfl, hu⟩ | ⟨items, rfl, hitems⟩
  · rw [run_cons_of_step (step_singleQuote S W word), ← List.append_nil u, run_single S W _ hu]
    rfl
  · rw [run_cons_of_step (step_doubleQuote S W word),
      ← List.append_nil (items.flatMap QuotedItem.spell), run_items S W _ hitems]
    rfl

/-! ### Words, stages and lines -/

@[simp] theorem endWord_endWord (d : Draft) : d.endWord.endWord = d.endWord := by
  simp [endWord]

theorem foldlM_read_segments (S : List Stage) (W : List Word) (word : Option Word)
    {segments : List Segment} (h : segments ≠ []) :
    (segments.map Lexeme.segment).foldlM read ⟨S, W, word, .plain⟩
      = .ok ⟨S, W, some ((word.getD .empty).pushMarks (segments.flatMap Segment.marks)),
          .plain⟩ := by
  induction segments generalizing word with
  | nil => exact absurd rfl h
  | cons s segments ih =>
    rw [List.map_cons, List.foldlM_cons, List.flatMap_cons, Word.pushMarks_append]
    rcases eq_or_ne segments [] with rfl | hmore
    · rfl
    · exact ih _ hmore

/-- Blanks end a word if there are any; otherwise it is still to be ended. -/
theorem foldlM_read_blanks (d : Draft) (gap : Text) :
    ∃ e, (gap.map Lexeme.blank).foldlM read d = .ok e ∧ e.endWord = d.endWord ∧
      (gap ≠ [] → e = d.endWord) := by
  induction gap generalizing d with
  | nil => exact ⟨d, rfl, rfl, fun h => absurd rfl h⟩
  | cons c gap ih =>
    obtain ⟨e, hread, hend, hgap⟩ := ih d.endWord
    refine ⟨e, hread, by rw [hend, endWord_endWord], fun _ => ?_⟩
    cases gap with
    | nil => exact (Except.ok.inj hread).symm
    | cons c gap => rw [hgap (List.cons_ne_nil c gap), endWord_endWord]

theorem foldlM_read_words (S : List Stage) (W : List Word) {words : List WordLayout}
    (h : Separated words) :
    ∃ e, (words.flatMap WordLayout.lexemes).foldlM read ⟨S, W, none, .plain⟩ = .ok e ∧
      e.endWord = ⟨S, W ++ words.map fun w => Word.ofMarks w.marks, none, .plain⟩ := by
  induction words generalizing W with
  | nil => exact ⟨_, rfl, rfl⟩
  | cons w words ih =>
    obtain ⟨hne, hgap, hrest⟩ := separated_cons.mp h
    obtain ⟨e, hblanks, hend, hended⟩ :=
      foldlM_read_blanks ⟨S, W, some (Word.ofMarks w.marks), .plain⟩ w.gap
    have hword : w.lexemes.foldlM read ⟨S, W, none, .plain⟩ = .ok e := by
      rw [WordLayout.lexemes, List.foldlM_append, foldlM_read_segments S W none hne]
      exact hblanks
    rw [List.flatMap_cons, List.foldlM_append, hword]
    rcases eq_or_ne words [] with rfl | hmore
    · exact ⟨e, rfl, hend⟩
    · -- the next word needs a draft without an open one, which the blanks in between provide
      obtain rfl := hended (hgap.resolve_right hmore)
      obtain ⟨f, hread, hf⟩ := ih (W ++ [Word.ofMarks w.marks]) hrest
      refine ⟨f, hread, ?_⟩
      rw [hf, List.append_assoc, List.map_cons, List.singleton_append]

theorem foldlM_read_stage (S : List Stage) {s : StageLayout} (h : Separated s.words) :
    ∃ e, s.lexemes.foldlM read ⟨S, [], none, .plain⟩ = .ok e ∧
      e.endWord = ⟨S, s.words.map fun w => Word.ofMarks w.marks, none, .plain⟩ := by
  have hlead : (s.lead.map Lexeme.blank).foldlM read ⟨S, [], none, .plain⟩
      = .ok ⟨S, [], none, .plain⟩ := by
    obtain ⟨e, hread, hend, hgap⟩ := foldlM_read_blanks ⟨S, [], none, .plain⟩ s.lead
    rcases eq_or_ne s.lead [] with hnil | hne
    · rw [hnil]
      rfl
    · rw [hread, hgap hne]
      rfl
  rw [StageLayout.lexemes, List.foldlM_append, hlead]
  exact foldlM_read_words S [] h

/-- A stage can be ended if it has a word. -/
theorem endStage_of_endWord {d : Draft} {S : List Stage} {W : List Word}
    (h : d.endWord = ⟨S, W, none, .plain⟩) :
    d.endStage = if W = [] then .error .emptyPipe else .ok ⟨S ++ [W], [], none, .plain⟩ := by
  have hstages : d.stages = S := congrArg Draft.stages h
  rw [endStage, h, hstages]

theorem close_of_endWord {d : Draft} {S : List Stage} {W : List Word}
    (h : d.endWord = ⟨S, W, none, .plain⟩) :
    d.close = if W = [] then (if S = [] then .ok [] else .error .emptyPipe)
      else .ok (S ++ [W]) := by
  have hstages : d.stages = S := congrArg Draft.stages h
  rw [close_eq, h, hstages]

/-- The stages of a line up to the last, which is still to be ended. -/
theorem foldlM_read_line (S : List Stage) {front : List StageLayout} {s : StageLayout}
    (hfront : ∀ x ∈ front, x.words ≠ []) (h : ∀ x ∈ front ++ [s], Separated x.words) :
    ∃ e, (lineLexemes (front ++ [s])).foldlM read ⟨S, [], none, .plain⟩ = .ok e ∧
      e.endWord = ⟨S ++ readLayout front, s.words.map fun w => Word.ofMarks w.marks, none,
        .plain⟩ := by
  induction front generalizing S with
  | nil =>
    rw [readLayout, List.map_nil, List.append_nil, List.nil_append, lineLexemes_singleton]
    exact foldlM_read_stage S (h s (by simp))
  | cons x front ih =>
    rw [List.forall_mem_cons] at hfront
    rw [List.cons_append, List.forall_mem_cons] at h
    obtain ⟨e, hread, hend⟩ := foldlM_read_stage S h.1
    have hwords : (x.words.map fun w => Word.ofMarks w.marks) ≠ [] := by
      simpa using hfront.1
    have hpipe : e.read .pipe
        = .ok ⟨S ++ [x.words.map fun w => Word.ofMarks w.marks], [], none, .plain⟩ := by
      rw [read, endStage_of_endWord hend, if_neg hwords]
    obtain ⟨f, hrest, hf⟩ := ih (S ++ [x.words.map fun w => Word.ofMarks w.marks]) hfront.2 h.2
    have hline : (.pipe :: lineLexemes (front ++ [s])).foldlM read e = .ok f := by
      rw [List.foldlM_cons, hpipe]
      exact hrest
    refine ⟨f, ?_, ?_⟩
    · rw [List.cons_append, lineLexemes_cons x (by simp), List.foldlM_append, hread]
      exact hline
    · rw [hf, List.append_assoc]
      rfl

end Draft

/-- Up to its last stage, a line is read if all stages before it have words. -/
theorem tokenize_of_spells {front : List StageLayout} {s : StageLayout} {tail line : Text}
    (h : Spells (front ++ [s]) tail line) (hfront : ∀ x ∈ front, x.words ≠ []) :
    ∃ d : Draft, tokenize line = d.run tail ∧ d.mode = .plain ∧
      d.endWord = ⟨readLayout front, s.words.map fun w => Word.ofMarks w.marks, none, .plain⟩ := by
  obtain ⟨d, hread, hend⟩ := Draft.foldlM_read_line [] hfront h.separated
  refine ⟨d, ?_, congrArg Draft.mode hend, hend⟩
  have hrun : Draft.start.run line = (lineLexemes (front ++ [s])).foldlM Draft.read .start
      >>= (Draft.run · tail) := by
    rw [h.line_eq]
    exact Draft.run_lexemes rfl h.fits
  exact hrun.trans (by rw [Draft.start, hread]; rfl)

/-- A line has an empty stage: only blanks stand before a pipe sign, or between the last pipe
sign and the end, and no stage before is empty. -/
def LacksStage (line : Text) : Prop :=
  ∃ front lead tail, Spells (front ++ [⟨lead, []⟩]) tail line ∧ (∀ s ∈ front, s.words ≠ []) ∧
    ((tail = [] ∧ front ≠ []) ∨ ∃ rest, tail = '|' :: rest)

/-- A line opens a quote that it does not close, and no stage before is empty. -/
def LacksQuote (line : Text) : Prop :=
  ∃ front s tail, Spells (front ++ [s]) tail line ∧ (∀ s ∈ front, s.words ≠ []) ∧ OpenQuote tail

/-! ### What a line gives -/

theorem tokenize_of_allBlank {line : Text} (h : allBlank line = true) : tokenize line = .ok [] := by
  have hspells : Spells ([] ++ [⟨line, []⟩]) [] line := spells_blank.mpr ⟨rfl, h⟩
  obtain ⟨d, hline, hmode, hend⟩ :=
    tokenize_of_spells hspells (by simp)
  rw [hline, Draft.run_nil, Draft.finish, hmode]
  simp [Draft.close_of_endWord hend, readLayout]

/-- A line that the grammar derives is read as its stages. -/
theorem tokenize_of_derives {t : List StageLayout} {line : Text} (h : Derives t line) :
    tokenize line = .ok (readLayout t) := by
  obtain ⟨front, s, rfl⟩ : ∃ front s, t = front ++ [s] :=
    ⟨_, _, (List.dropLast_append_getLast h.nonempty).symm⟩
  have hfront : ∀ x ∈ front, x.words ≠ [] := fun x hx => h.words x (List.mem_append_left _ hx)
  have hs : s.words ≠ [] := h.words s (by simp)
  obtain ⟨d, hline, hmode, hend⟩ := tokenize_of_spells h.toSpells hfront
  rw [hline, Draft.run_nil, Draft.finish, hmode]
  simp [Draft.close_of_endWord hend, hs, readLayout]

theorem tokenize_of_lacksStage {line : Text} (h : LacksStage line) :
    tokenize line = .error .emptyPipe := by
  obtain ⟨front, lead, tail, hspells, hfront, htail⟩ := h
  obtain ⟨d, hline, hmode, hend⟩ := tokenize_of_spells hspells hfront
  rcases htail with ⟨rfl, hne⟩ | ⟨rest, rfl⟩
  · rw [hline, Draft.run_nil, Draft.finish, hmode]
    simp [Draft.close_of_endWord hend, hne, readLayout]
  · have hstep : d.step '|' = .error .emptyPipe := by
      rw [Draft.step, hmode]
      exact Draft.endStage_of_endWord hend
    rw [hline, Draft.run_cons, hstep]
    rfl

theorem tokenize_of_lacksQuote {line : Text} (h : LacksQuote line) :
    tokenize line = .error .unclosedQuote := by
  obtain ⟨front, s, tail, hspells, hfront, htail⟩ := h
  obtain ⟨d, hline, hmode, -⟩ := tokenize_of_spells hspells hfront
  rw [hline]
  exact Draft.run_openQuote hmode htail

/-- **Every line is of one of four kinds.** -/
theorem reading_cases (line : Text) :
    allBlank line = true ∨ (∃ t, Derives t line) ∨ LacksStage line ∨ LacksQuote line := by
  obtain ⟨t, tail, hspells, rfl | hquote⟩ := exists_spells line
  -- of two mistakes the first counts: a stage without words before all that follows it
  · rcases words_or_split t with hwords | ⟨front, lead, back, rfl, hfront⟩
    · exact .inr (.inl ⟨t, hspells, hwords⟩)
    · rcases eq_or_ne back [] with rfl | hback
      · rcases eq_or_ne front [] with rfl | hne
        · exact .inl (spells_blank.mp hspells).2
        · exact .inr (.inr (.inl ⟨front, lead, [], hspells, hfront, .inl ⟨rfl, hne⟩⟩))
      · rw [List.append_cons] at hspells
        obtain ⟨rest, hrest⟩ := hspells.front (by simp) hback
        exact .inr (.inr (.inl ⟨front, lead, _, hrest, hfront, .inr ⟨rest, rfl⟩⟩))
  · obtain ⟨ended, s, rfl⟩ : ∃ ended s, t = ended ++ [s] :=
      ⟨_, _, (List.dropLast_append_getLast hspells.nonempty).symm⟩
    rcases words_or_split ended with hwords | ⟨front, lead, back, rfl, hfront⟩
    · exact .inr (.inr (.inr ⟨ended, s, tail, hspells, hwords, hquote⟩))
    · rw [List.append_assoc, List.cons_append, List.append_cons] at hspells
      obtain ⟨rest, hrest⟩ := hspells.front (by simp) (by simp)
      exact .inr (.inr (.inl ⟨front, lead, _, hrest, hfront, .inr ⟨rest, rfl⟩⟩))

/-- What every line gives, by its kind. -/
theorem tokenize_cases (line : Text) :
    (allBlank line = true ∧ tokenize line = .ok []) ∨
    (∃ t, Derives t line ∧ tokenize line = .ok (readLayout t)) ∨
    (LacksStage line ∧ tokenize line = .error .emptyPipe) ∨
    (LacksQuote line ∧ tokenize line = .error .unclosedQuote) := by
  rcases reading_cases line with hblank | ⟨t, ht⟩ | hstage | hquote
  · exact .inl ⟨hblank, tokenize_of_allBlank hblank⟩
  · exact .inr (.inl ⟨t, ht, tokenize_of_derives ht⟩)
  · exact .inr (.inr (.inl ⟨hstage, tokenize_of_lacksStage hstage⟩))
  · exact .inr (.inr (.inr ⟨hquote, tokenize_of_lacksQuote hquote⟩))

theorem readLayout_ne_nil {t : List StageLayout} (h : t ≠ []) : readLayout t ≠ [] := by
  simpa [readLayout] using h

/-- Stages that a line gives are those of a derivation, unless there are none. -/
theorem exists_derives_of_tokenize {line : Text} {stages : List Stage}
    (h : tokenize line = .ok stages) :
    stages = [] ∨ ∃ t, Derives t line ∧ stages = readLayout t := by
  rcases tokenize_cases line with ⟨-, e⟩ | ⟨t, ht, e⟩ | ⟨-, e⟩ | ⟨-, e⟩
  · exact .inl (Except.ok.inj (h.symm.trans e))
  · exact .inr ⟨t, ht, Except.ok.inj (h.symm.trans e)⟩
  · exact absurd (e.symm.trans h) (by simp)
  · exact absurd (e.symm.trans h) (by simp)

/-- Every stage of a line has a word. -/
theorem stage_ne_nil_of_tokenize {line : Text} {stages : List Stage}
    (h : tokenize line = .ok stages) : ∀ stage ∈ stages, stage ≠ [] := by
  rcases exists_derives_of_tokenize h with rfl | ⟨t, ht, rfl⟩
  · exact fun stage hs => absurd hs List.not_mem_nil
  · intro stage hs
    obtain ⟨s, hmem, rfl⟩ := List.mem_map.mp hs
    simpa using ht.words s hmem

/-- **The tokenizer accepts the grammar and returns its structure.**  A line gives no stages if
it is blank; it gives stages if and only if the grammar derives it, and then the words of its
derivation, of which there is only one.  Every other line is refused: for a stage without words
or for a quote without a partner, whichever comes first. -/
theorem tokenize_iff_derives (line : Text) :
    (tokenize line = .ok [] ↔ allBlank line = true) ∧
    (∀ stages, stages ≠ [] ∧ tokenize line = .ok stages ↔
      ∃ t, Derives t line ∧ Carries t stages) ∧
    (∀ t u, Derives t line ∧ Derives u line → t = u) ∧
    (tokenize line = .error .emptyPipe ↔ LacksStage line) ∧
    (tokenize line = .error .unclosedQuote ↔ LacksQuote line) := by
  -- the four kinds have different answers, so each answer tells the kind
  have hcases := tokenize_cases line
  refine ⟨⟨fun h => ?_, tokenize_of_allBlank⟩, fun stages => ⟨?_, ?_⟩,
    fun t u ⟨ht, hu⟩ => ht.toSpells.unique hu.toSpells,
    ⟨fun h => ?_, tokenize_of_lacksStage⟩, ⟨fun h => ?_, tokenize_of_lacksQuote⟩⟩
  · rcases hcases with ⟨hblank, -⟩ | ⟨t, ht, e⟩ | ⟨-, e⟩ | ⟨-, e⟩
    · exact hblank
    · exact absurd (Except.ok.inj (e.symm.trans h)) (readLayout_ne_nil ht.nonempty)
    · exact absurd (e.symm.trans h) (by simp)
    · exact absurd (e.symm.trans h) (by simp)
  · rintro ⟨hne, h⟩
    rcases hcases with ⟨-, e⟩ | ⟨t, ht, e⟩ | ⟨-, e⟩ | ⟨-, e⟩
    · exact absurd (Except.ok.inj (h.symm.trans e)) hne
    · exact ⟨t, ht, carries_iff.mpr (Except.ok.inj (h.symm.trans e))⟩
    · exact absurd (e.symm.trans h) (by simp)
    · exact absurd (e.symm.trans h) (by simp)
  · rintro ⟨t, ht, hcarries⟩
    obtain rfl := carries_iff.mp hcarries
    exact ⟨readLayout_ne_nil ht.nonempty, tokenize_of_derives ht⟩
  · rcases hcases with ⟨-, e⟩ | ⟨t, -, e⟩ | ⟨hstage, -⟩ | ⟨-, e⟩
    · exact absurd (e.symm.trans h) (by simp)
    · exact absurd (e.symm.trans h) (by simp)
    · exact hstage
    · exact absurd (e.symm.trans h) (by simp)
  · rcases hcases with ⟨-, e⟩ | ⟨t, -, e⟩ | ⟨-, e⟩ | ⟨hquote, -⟩
    · exact absurd (e.symm.trans h) (by simp)
    · exact absurd (e.symm.trans h) (by simp)
    · exact absurd (e.symm.trans h) (by simp)
    · exact hquote

/-- A blank that is escaped, a quoted part, and a backslash that the end of the line keeps. -/
example : tokenize "a\\ 'b'|c\\" = .ok [
    [⟨[⟨['a'], true, false⟩, ⟨[' ', 'b'], false, true⟩]⟩],
    [⟨[⟨['c'], true, false⟩, ⟨['\\'], false, false⟩]⟩]] := by decide

end CommandShell
