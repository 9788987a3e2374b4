import CommandShell.Proofs.WellFormed

/-!
# Lines that are joined

Two lines can be joined by a pipe sign, and then the stages of the second follow those of the first;
or by blanks, and then the last stage of the first goes on with the first stage of the second.

Joined by either, the second line is read as it would be by itself: after a pipe sign or a blank
outside quotes the machine is where it was at the start, but for the stages and words that it has
read.  These stay before all that follows, and there is only one question whose answer they can
change: whether a stage has a word.  A first line that ends in a kept backslash cannot be joined,
since that would escape the joint.

## Main definitions

* `Draft.behind` — what has been read of a line, behind stages and words of another.
* `Follows`, `Resumes` — how reading goes on behind them, and what it gives.
* `lastPart?`, `keptBackslash` — where a line cannot be joined.
* `JoinsWith` — what a line gives that is joined of two.

## Main results

* `Draft.resumes_run` — the rest of a line is read alike behind other stages and words.
* `exists_draft_of_tokenize`, `stops_of_tokenize` — the machine at the joint.
* `tokenize_joined` — **a line that is joined is read as the lines that it is joined of.**
-/

namespace CommandShell

namespace Draft

/-! ### Behind another line -/

/-- **What has been read, behind other stages and words**: the stages stand before its own, and the
words before those of its first stage. -/
def behind (S : List Stage) (W : List Word) (d : Draft) : Draft :=
  match d.stages with
  | [] => { d with stages := S, words := W ++ d.words }
  | first :: rest => { d with stages := S ++ (W ++ first) :: rest }

variable (S : List Stage) (W : List Word)

/-- How a step goes on behind other stages and words.  A stage that has no word of its own may have
one of theirs, so a step that fails need not fail behind words. -/
def Follows : Except LineError Draft → Except LineError Draft → Prop
  | .ok d, r => r = .ok (d.behind S W)
  | .error e, r => W = [] → r = .error e

/-- What a line gives behind other stages and words.  If there is a pipe sign before it, it may not
be blank. -/
def Resumes : Except LineError (List Stage) → Except LineError (List Stage) → Prop
  | .ok (first :: rest), r => r = .ok (S ++ (W ++ first) :: rest)
  | .ok [], r => S ≠ [] → W = [] → r = .error .emptyPipe
  | .error e, r => W = [] → r = .error e

@[simp] theorem mode_behind (d : Draft) : (d.behind S W).mode = d.mode := by
  rw [behind]
  split <;> rfl

theorem turn_behind (d : Draft) (mode : Mode) :
    (d.behind S W).turn mode = (d.turn mode).behind S W := by
  obtain ⟨_ | ⟨first, rest⟩, words, word, _⟩ := d <;> rfl

theorem openWord_behind (d : Draft) : (d.behind S W).openWord = d.openWord.behind S W := by
  obtain ⟨_ | ⟨first, rest⟩, words, word, _⟩ := d <;> rfl

theorem push_behind (d : Draft) (c : Char) (expands quoted : Bool) :
    (d.behind S W).push c expands quoted = (d.push c expands quoted).behind S W := by
  obtain ⟨_ | ⟨first, rest⟩, words, word, _⟩ := d <;> rfl

theorem endWord_behind (d : Draft) : (d.behind S W).endWord = d.endWord.behind S W := by
  obtain ⟨_ | ⟨first, rest⟩, words, word, _⟩ := d
  · simp [endWord, behind]
  · rfl

/-- The first stage that ends takes the words before it with it. -/
theorem follows_endStage (d : Draft) : Follows S W d.endStage (d.behind S W).endStage := by
  rw [endStage, endStage, endWord_behind]
  obtain ⟨_ | ⟨first, rest⟩, words, word, mode⟩ := d
  · by_cases hwords : words ++ word.toList = []
    · simp only [endWord, hwords, if_true, Follows]
      rintro rfl
      simp [behind]
    · simp [endWord, behind, hwords, Follows]
  · by_cases hwords : words ++ word.toList = []
    · simp [endWord, behind, hwords, Follows]
    · simp [endWord, behind, hwords, Follows]

theorem follows_stepPlain (d : Draft) (c : Char) :
    Follows S W (d.stepPlain c) ((d.behind S W).stepPlain c) := by
  rw [stepPlain, stepPlain, openWord_behind, turn_behind, turn_behind, turn_behind, endWord_behind,
    push_behind]
  -- only a pipe sign can fail
  split
  · rfl
  split
  · rfl
  split
  · rfl
  split
  · exact follows_endStage S W d
  split
  · rfl
  · rfl

theorem stepDouble_behind (d : Draft) (c : Char) :
    (d.behind S W).stepDouble c = (d.stepDouble c).behind S W := by
  rw [stepDouble, stepDouble, turn_behind, turn_behind, push_behind]
  split
  · rfl
  split
  · rfl
  · rfl

/-- **One character is read alike** behind other stages and words. -/
theorem follows_step (d : Draft) (c : Char) : Follows S W (d.step c) ((d.behind S W).step c) := by
  rw [step, step, mode_behind]
  split
  · exact follows_stepPlain S W d c
  · rw [push_behind, turn_behind, push_behind, turn_behind]
    split
    · rfl
    · exact follows_stepPlain S W _ c
  · rw [turn_behind, push_behind]
    split
    · rfl
    · rfl
  · exact congrArg Except.ok (stepDouble_behind S W d c)
  · rw [push_behind, turn_behind, push_behind, turn_behind, stepDouble_behind]
    split
    · rfl
    · rfl

/-! ### The end of a line -/

theorem resumes_close (d : Draft) : Resumes S W d.close (d.behind S W).close := by
  rw [close_eq, close_eq, endWord_behind]
  obtain ⟨_ | ⟨first, rest⟩, words, word, mode⟩ := d
  · by_cases hwords : words ++ word.toList = []
    · simp only [endWord, hwords, if_true, Resumes]
      intro hS hW
      simp [behind, hS, hW]
    · simp [endWord, behind, hwords, Resumes]
  · by_cases hwords : words ++ word.toList = []
    · simp [endWord, behind, hwords, Resumes]
    · simp [endWord, behind, hwords, Resumes]

theorem resumes_finish (d : Draft) : Resumes S W d.finish (d.behind S W).finish := by
  rw [finish, finish, mode_behind]
  split
  · exact resumes_close S W d
  · rw [push_behind]
    exact resumes_close S W _
  · exact fun _ => rfl
  · exact fun _ => rfl
  · exact fun _ => rfl

/-- **The rest of a line is read alike** behind other stages and words. -/
theorem resumes_run (d : Draft) (t : Text) : Resumes S W (d.run t) ((d.behind S W).run t) := by
  induction t generalizing d with
  | nil => exact resumes_finish S W d
  | cons c t ih =>
    have hstep := follows_step S W d c
    rw [run_cons, run_cons]
    cases hd : d.step c with
    | ok e =>
      rw [hd] at hstep
      have hnext : (d.behind S W).step c = .ok (e.behind S W) := hstep
      rw [hnext]
      exact ih e
    | error e =>
      rw [hd] at hstep
      intro hW
      have hfails : (d.behind S W).step c = .error e := hstep hW
      rw [hfails]
      rfl

/-! ### The joint -/

/-- Where the machine stands after a pipe sign, and after blanks. -/
theorem behind_start : start.behind S W = ⟨S, W, none, .plain⟩ := by simp [start, behind]

theorem run_append {a : Text} {d : Draft} (h : a.foldlM step start = .ok d) (t : Text) :
    tokenize (a ++ t) = d.run t := by
  rw [tokenize, List.foldlM_append, h]
  rfl

end Draft

/-- The last part of the last word of a stage. -/
def lastPart? (stage : Stage) : Option Part := stage.getLast?.bind fun w => w.parts.getLast?

/-- A backslash outside quotes that escapes nothing. -/
def keptBackslash : Part := ⟨['\\'], false, false⟩

/-- The last part of a word is in the mode of its last character. -/
theorem Word.exists_getLast?_pushMark (w : Word) (m : Mark) :
    ∃ p, (w.pushMark m).parts.getLast? = some p ∧ p.mode = m.mode := by
  obtain ⟨parts⟩ := w
  rcases List.eq_nil_or_concat parts with rfl | ⟨parts, p, rfl⟩
  · exact ⟨_, rfl, rfl⟩
  · rw [List.concat_eq_append]
    by_cases h : m.mode = p.mode
    · rw [pushMark_concat_of_eq h]
      exact ⟨_, List.getLast?_concat, h.symm⟩
    · rw [pushMark_concat_of_ne h]
      exact ⟨⟨[m.char], m.expands, m.quoted⟩, by simp, rfl⟩

/-- A part of a line that is in the mode of kept backslashes is one. -/
theorem eq_keptBackslash_of_tokenize {line : Text} {front : List Stage} {last : Stage}
    (h : tokenize line = .ok (front ++ [last])) {p : Part} (hp : lastPart? last = some p)
    (hmode : p.mode = (false, false)) : p = keptBackslash := by
  obtain ⟨w, hw, hpart⟩ := Option.bind_eq_some_iff.mp hp
  obtain ⟨words, rfl⟩ := List.getLast?_eq_some_iff.mp hw
  obtain ⟨parts, hparts⟩ := List.getLast?_eq_some_iff.mp hpart
  have hword := (wellFormed_of_tokenize h).legal front (words ++ [w]) [] rfl words w [] rfl
  have htext := ((hword.legal parts p [] hparts).kept hmode).1
  obtain ⟨text, expands, quoted⟩ := p
  obtain ⟨rfl, rfl⟩ := Prod.mk.inj hmode
  obtain rfl : text = _ := htext
  rfl

namespace Draft

/-- A line that has stages has those that ended and a last one. -/
theorem close_eq_ok_concat {d : Draft} {front : List Stage} {last : Stage}
    (h : d.close = .ok (front ++ [last])) : d.stages = front ∧ d.endWord.words = last := by
  rw [close_eq] at h
  split at h
  · split at h
    · have hnil : [] = front ++ [last] := Except.ok.inj h
      exact absurd hnil (by simp)
    · cases h
  · obtain ⟨hfront, hlast⟩ := List.append_inj' (Except.ok.inj h) rfl
    exact ⟨hfront, List.head_eq_of_cons_eq hlast⟩

/-- A line without stages, or with an empty one at its end, has no word after the last pipe sign. -/
theorem endWord_eq_nil_of_close {d : Draft} (h : d.close = .ok [] ∨ d.close = .error .emptyPipe) :
    d.endWord.words = [] := by
  rw [close_eq] at h
  by_contra hwords
  rw [if_neg hwords] at h
  rcases h with h | h
  · have hnil : d.stages ++ [d.endWord.words] = [] := Except.ok.inj h
    exact absurd hnil (by simp)
  · cases h

/-- A backslash that is kept at the end of a line is a word or belongs to one. -/
theorem words_endWord_push (d : Draft) (c : Char) (expands quoted : Bool) :
    (d.push c expands quoted).endWord.words
      = d.words ++ [(d.word.getD .empty).pushMark ⟨c, expands, quoted⟩] := rfl

end Draft

/-- **The machine at the end of a line that has stages**, unless the line ends in a kept backslash:
it is outside quotes, and the last word may still be open. -/
theorem exists_draft_of_tokenize {a : Text} {front : List Stage} {last : Stage}
    (h : tokenize a = .ok (front ++ [last])) (hlast : lastPart? last ≠ some keptBackslash) :
    ∃ d : Draft, a.foldlM Draft.step .start = .ok d ∧ d.mode = .plain ∧
      d.endWord = ⟨front, last, none, .plain⟩ := by
  have hline := h
  rw [tokenize] at h
  cases hd : a.foldlM Draft.step .start with
  | error e =>
    rw [hd] at h
    cases h
  | ok d =>
    have hfinish : d.finish = .ok (front ++ [last]) := by rwa [hd] at h
    refine ⟨d, rfl, ?_⟩
    rw [Draft.finish] at hfinish
    cases hmode : d.mode with
    | plain =>
      rw [hmode] at hfinish
      obtain ⟨rfl, rfl⟩ := Draft.close_eq_ok_concat hfinish
      exact ⟨rfl, by rw [Draft.endWord, hmode]⟩
    | plainEscape =>
      -- the backslash would be the last part of the line
      rw [hmode] at hfinish
      obtain ⟨-, hwords⟩ := Draft.close_eq_ok_concat hfinish
      rw [Draft.words_endWord_push] at hwords
      obtain ⟨p, hp, hkept⟩ :=
        Word.exists_getLast?_pushMark (d.word.getD .empty) ⟨'\\', false, false⟩
      have hpart : lastPart? last = some p := by
        rw [lastPart?, ← hwords, List.getLast?_concat, Option.bind_some, hp]
      rw [eq_keptBackslash_of_tokenize hline hpart hkept] at hpart
      exact absurd hpart hlast
    | single => rw [hmode] at hfinish; cases hfinish
    | double => rw [hmode] at hfinish; cases hfinish
    | doubleEscape => rw [hmode] at hfinish; cases hfinish

/-- **A line that is blank or lacks a stage lacks one before a pipe sign**, whatever follows. -/
theorem stops_of_tokenize {a : Text} (h : tokenize a = .ok [] ∨ tokenize a = .error .emptyPipe)
    (b : Text) : tokenize (a ++ '|' :: b) = .error .emptyPipe := by
  cases hd : a.foldlM Draft.step .start with
  | error e =>
    rw [tokenize, hd] at h
    rw [tokenize, List.foldlM_append, hd]
    exact h.resolve_left (by simp [bind, Except.bind])
  | ok d =>
    have hfinish : d.finish = .ok [] ∨ d.finish = .error .emptyPipe := by rwa [tokenize, hd] at h
    rw [Draft.run_append hd, Draft.run_cons, Draft.step]
    rw [Draft.finish] at hfinish
    cases hmode : d.mode with
    | plain =>
      rw [hmode] at hfinish
      have hwords := Draft.endWord_eq_nil_of_close hfinish
      have hpipe : d.stepPlain '|' = .error .emptyPipe := if_pos hwords
      rw [hpipe]
      rfl
    | plainEscape =>
      rw [hmode] at hfinish
      have hwords := Draft.endWord_eq_nil_of_close hfinish
      exact absurd hwords (by simp [Draft.words_endWord_push])
    | single => rw [hmode] at hfinish; exact absurd hfinish (by simp)
    | double => rw [hmode] at hfinish; exact absurd hfinish (by simp)
    | doubleEscape => rw [hmode] at hfinish; exact absurd hfinish (by simp)

/-! ### Joined lines -/

section Joints

variable {a : Text} {front : List Stage} {last : Stage}
  (ha : tokenize a = .ok (front ++ [last])) (hlast : lastPart? last ≠ some keptBackslash)
include ha hlast

/-- After a pipe sign a line is read behind the stages before it. -/
theorem resumes_pipe (b : Text) :
    Draft.Resumes (front ++ [last]) [] (tokenize b) (tokenize (a ++ '|' :: b)) := by
  obtain ⟨d, hd, hmode, hend⟩ := exists_draft_of_tokenize ha hlast
  have hne : last ≠ [] := stage_ne_nil_of_tokenize ha last (by simp)
  have hstep : d.step '|' = .ok ⟨front ++ [last], [], none, .plain⟩ := by
    have hended := Draft.endStage_of_endWord hend
    rw [if_neg hne] at hended
    rw [Draft.step, hmode]
    exact hended
  rw [Draft.run_append hd, Draft.run_cons_of_step hstep, ← Draft.behind_start]
  exact Draft.resumes_run (front ++ [last]) [] .start b

/-- After blanks a line is read behind the stages and words before them. -/
theorem resumes_blanks {s : Text} (hs : s ≠ []) (hblank : allBlank s = true) (b : Text) :
    Draft.Resumes front last (tokenize b) (tokenize (a ++ s ++ b)) := by
  obtain ⟨d, hd, hmode, hend⟩ := exists_draft_of_tokenize ha hlast
  have hfits : LexemesFit (s.map .blank) b :=
    (lexemesFit_blanks s b).mpr (List.all_eq_true.mp hblank)
  have hread := Draft.run_lexemes hmode hfits
  obtain ⟨e, hblanks, -, hended⟩ := Draft.foldlM_read_blanks d s
  rw [spell_blanks, hblanks, hended hs, hend, ← Draft.behind_start] at hread
  have hrun : d.run (s ++ b) = (Draft.behind front last .start).run b := hread
  rw [List.append_assoc, Draft.run_append hd, hrun]
  exact Draft.resumes_run front last .start b

end Joints

/-- **What a line gives that is joined of two**, the first of which has the stages `front` and
`last`. -/
structure JoinsWith (a : Text) (front : List Stage) (last : Stage) (b : Text) : Prop where
  /-- At a pipe sign the stages of both follow each other. -/
  pipe : ∀ B, tokenize b = .ok B → B ≠ [] →
    tokenize (a ++ '|' :: b) = .ok (front ++ [last] ++ B)
  /-- At blanks the last stage goes on with the first stage of the second line. -/
  blanks : ∀ first rest, tokenize b = .ok (first :: rest) → ∀ s, s ≠ [] → allBlank s = true →
    tokenize (a ++ s ++ b) = .ok (front ++ (last ++ first) :: rest)
  /-- What is wrong with the second line is wrong with the whole. -/
  error : ∀ e, tokenize b = .error e → tokenize (a ++ '|' :: b) = .error e
  /-- A blank line cannot stand after a pipe sign. -/
  blank : allBlank b = true → tokenize (a ++ '|' :: b) = .error .emptyPipe

/-- **A line that is joined is read as the lines that it is joined of.**  If the first has stages
and does not end in a kept backslash, then at a pipe sign the stages of the second follow, and at
blanks the last stage of the first goes on with them; a second line that cannot be read, or that is
blank, cannot stand after a pipe sign.  A first line that is blank, or that lacks a stage itself,
cannot stand before one, whatever follows. -/
theorem tokenize_joined (a b : Text) :
    (∀ front last, tokenize a = .ok (front ++ [last]) → lastPart? last ≠ some keptBackslash →
      JoinsWith a front last b) ∧
    (allBlank a = true ∨ tokenize a = .error .emptyPipe →
      tokenize (a ++ '|' :: b) = .error .emptyPipe) := by
  refine ⟨fun front last ha hlast => ?_, fun ha => ?_⟩
  · have hpipe := resumes_pipe ha hlast b
    refine ⟨fun B hB hne => ?_, fun first rest hb s hs hblank => ?_, fun e he => ?_, fun hb => ?_⟩
    · obtain ⟨first, rest, rfl⟩ := List.exists_cons_of_ne_nil hne
      rw [hB] at hpipe
      exact hpipe
    · have hblanks := resumes_blanks ha hlast hs hblank b
      rw [hb] at hblanks
      exact hblanks
    · rw [he] at hpipe
      exact hpipe rfl
    · rw [tokenize_of_allBlank hb] at hpipe
      exact hpipe (by simp) rfl
  · exact stops_of_tokenize (ha.imp_left tokenize_of_allBlank) b

/-- A first line that ends in an escaped blank, joined with one whose first word is empty. -/
theorem tokenize_joined_escapes :
    let first : Stage := [⟨[⟨['a'], true, false⟩]⟩]
    let last : Stage := [⟨[⟨['b'], true, false⟩, ⟨[' '], false, true⟩]⟩]
    let next : Stage := [⟨[]⟩]
    tokenize "a|b\\ " = .ok ([first] ++ [last]) ∧ lastPart? last ≠ some keptBackslash ∧
    tokenize "\"\"|a" = .ok [next, first] ∧ allBlank "\u3000" = true ∧
    tokenize "a|b\\ |\"\"|a" = .ok ([first] ++ [last] ++ [next, first]) ∧
    tokenize "a|b\\ \u3000\"\"|a" = .ok ([first] ++ (last ++ next) :: [first]) ∧
    tokenize "a|| 'b" = .error .emptyPipe := by
  intro first last next
  have ha : tokenize "a|b\\ " = .ok ([first] ++ [last]) := by decide
  have hlast : lastPart? last ≠ some keptBackslash := by decide
  have hb : tokenize "\"\"|a" = .ok [next, first] := by decide
  have hblank : allBlank "\u3000" = true := by decide
  have hstop : tokenize "a|" = .error .emptyPipe := by decide
  have hjoins := (tokenize_joined "a|b\\ " "\"\"|a").1 [first] last ha hlast
  exact ⟨ha, hlast, hb, hblank, hjoins.pipe _ hb (List.cons_ne_nil _ _),
    hjoins.blanks _ _ hb "\u3000" (by decide) hblank, (tokenize_joined "a|" " 'b").2 (.inr hstop)⟩

/-- A kept backslash is no longer kept where a line is joined to it. -/
example : tokenize "a\\" = .ok [[⟨[⟨['a'], true, false⟩, keptBackslash]⟩]] ∧
    tokenize "b" = .ok [[⟨[⟨['b'], true, false⟩]⟩]] ∧
    tokenize "a\\|b" = .ok [[⟨[⟨['a'], true, false⟩, ⟨['|'], false, true⟩,
      ⟨['b'], true, false⟩]⟩]] := by decide

end CommandShell
