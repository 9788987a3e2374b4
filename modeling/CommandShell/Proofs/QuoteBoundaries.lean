import CommandShell.Proofs.Divisions
import CommandShell.Proofs.Tokenizing

/-!
# Expansion across quotes

A word forgets where the quotes of its spelling stood: characters in the same mode share a part,
also if quotes have been closed and opened again between them.  A reference to a variable ends
with its part, not with the quotes.  So the stretches of a word are expanded one by one, except
where a stretch begins with a character that goes on with a reference before it and is in the
mode of that reference.

Both halves of this are about one joint between two rows of marked characters.  Without a
continued reference the parts that meet are expanded to what they are expanded to apart.  With
one, characters are lost as soon as no variable is set.

## Main definitions

* `Continues a b` — the row `b` goes on with a reference that `a` leaves open.
* `Seamless rows` — no row does so with those before it.

## Main results

* `expand_flatten_iff` — rows are expanded one by one exactly if they are seamless.
* `expand_word_iff_seamless` — the same for the stretches of a word of a line, each of which is
  a word of its own when it stands alone.
-/

namespace CommandShell

/-- A row ends in a reference, and the next begins with a character that goes on with it.  Both
are in one mode, in which `$` is special. -/
def Continues (a b : List Mark) : Prop :=
  ∃ front t c back quoted, a = front ++ t.map (fun d => ⟨d, true, quoted⟩) ∧
    b = ⟨c, true, quoted⟩ :: back ∧ LeavesOpen t c

/-- No row goes on with a reference that the rows before it leave open. -/
def Seamless (rows : List (List Mark)) : Prop :=
  ∀ front row back, rows = front ++ row :: back → ¬ Continues front.flatten row

/-! ### Where two words meet -/

namespace Word

/-- The last characters of a word end its last part if they are in one mode. -/
theorem exists_last_part (front : List Mark) (expands quoted : Bool) {t : Text} (ht : t ≠ []) :
    ∃ parts s, (ofMarks (front ++ t.map fun c => ⟨c, expands, quoted⟩)).parts
      = parts ++ [⟨s ++ t, expands, quoted⟩] := by
  obtain ⟨c, t, rfl⟩ := List.exists_cons_of_ne_nil ht
  have hfirst : ∃ parts s, (ofMarks front).pushMark ⟨c, expands, quoted⟩
      = ⟨parts ++ [⟨s ++ [c], expands, quoted⟩]⟩ := by
    obtain ⟨parts⟩ := ofMarks front
    rcases List.eq_nil_or_concat parts with rfl | ⟨parts, p, rfl⟩
    · exact ⟨[], [], rfl⟩
    · rw [List.concat_eq_append]
      by_cases h : Mark.mode ⟨c, expands, quoted⟩ = p.mode
      · obtain ⟨rfl, rfl⟩ := Prod.mk.inj h
        exact ⟨parts, p.text, pushMark_concat_of_eq h⟩
      · refine ⟨parts ++ [p], [], ?_⟩
        rw [pushMark_concat_of_ne h, List.append_assoc]
        rfl
  obtain ⟨parts, s, hs⟩ := hfirst
  refine ⟨parts, s, ?_⟩
  rw [ofMarks, pushMarks_append, ← ofMarks, List.map_cons, pushMarks_cons, hs,
    pushMarks_concat_of_eq parts ⟨s ++ [c], expands, quoted⟩ t]
  simp [Part.extend]

/-- The first character of a word starts its first part. -/
theorem Grouped.exists_first_part {w : Word} (h : w.Grouped) {m : Mark} {ms : List Mark}
    (hm : w.marks = m :: ms) :
    ∃ t rest, w.parts = ⟨m.char :: t, m.expands, m.quoted⟩ :: rest := by
  obtain ⟨parts⟩ := w
  cases parts with
  | nil => exact absurd hm (by simp [marks])
  | cons p rest =>
    obtain ⟨text, expands, quoted⟩ := p
    cases text with
    | nil => exact absurd rfl (h.nonempty ⟨[], expands, quoted⟩ List.mem_cons_self)
    | cons c t =>
      rw [marks, List.flatMap_cons, Part.marks, List.map_cons, List.cons_append] at hm
      obtain ⟨rfl, -⟩ := List.cons.inj hm
      exact ⟨t, rest, rfl⟩

/-- Words whose parts meet in different modes are put together part by part. -/
theorem ofMarks_append_of_ne {a b : List Mark}
    (h : ∀ p ∈ (ofMarks a).parts.getLast?, ∀ q ∈ (ofMarks b).parts.head?, p.mode ≠ q.mode) :
    ofMarks (a ++ b) = ⟨(ofMarks a).parts ++ (ofMarks b).parts⟩ := by
  have ha := grouped_ofMarks a
  have hb := grouped_ofMarks b
  have hgrouped : Grouped ⟨(ofMarks a).parts ++ (ofMarks b).parts⟩ := by
    refine ⟨fun p hp => ?_, List.isChain_append.mpr ⟨ha.distinct, hb.distinct, h⟩⟩
    exact (List.mem_append.mp hp).elim (ha.nonempty p) (hb.nonempty p)
  refine (grouped_ofMarks _).eq_of_marks_eq hgrouped ?_
  have happend : marks ⟨(ofMarks a).parts ++ (ofMarks b).parts⟩
      = (ofMarks a).marks ++ (ofMarks b).marks := List.flatMap_append
  rw [happend, marks_ofMarks, marks_ofMarks, marks_ofMarks]

/-- Words whose parts meet in one mode are put together with these two parts in one. -/
theorem ofMarks_append_of_eq {a b : List Mark} {front back : List Part} {p q : Part}
    (ha : (ofMarks a).parts = front ++ [p]) (hb : (ofMarks b).parts = q :: back)
    (h : p.mode = q.mode) :
    ofMarks (a ++ b) = ⟨front ++ p.extend q.text :: back⟩ := by
  obtain ⟨hane, hadistinct⟩ := grouped_ofMarks a
  obtain ⟨hbne, hbdistinct⟩ := grouped_ofMarks b
  rw [ha] at hane hadistinct
  rw [hb] at hbne hbdistinct
  rw [List.isChain_append] at hadistinct
  rw [List.isChain_cons] at hbdistinct
  have hgrouped : Grouped ⟨front ++ p.extend q.text :: back⟩ := by
    refine ⟨fun r hr => ?_, ?_⟩
    · rcases List.mem_append.mp hr with hr | hr
      · exact hane r (List.mem_append_left _ hr)
      rcases List.mem_cons.mp hr with rfl | hr
      · have hp := hane p (by simp)
        simp [Part.extend, hp]
      · exact hbne r (List.mem_cons_of_mem _ hr)
    · rw [List.isChain_append, List.isChain_cons]
      refine ⟨hadistinct.1, ⟨?_, hbdistinct.2⟩, by simpa using hadistinct.2.2⟩
      intro r hr
      rw [Part.mode_extend, h]
      exact hbdistinct.1 r hr
  refine (grouped_ofMarks _).eq_of_marks_eq hgrouped ?_
  have hamarks := marks_ofMarks a
  have hbmarks := marks_ofMarks b
  rw [marks, ha] at hamarks
  rw [marks, hb] at hbmarks
  obtain ⟨he, hq⟩ := Prod.mk.inj h
  rw [marks_ofMarks, ← hamarks, ← hbmarks, marks]
  simp [Part.marks, Part.extend, he, hq]

end Word

/-! ### One joint -/

theorem eq_flatMap_marks {a : List Mark} {parts : List Part}
    (h : (Word.ofMarks a).parts = parts) : a = parts.flatMap Part.marks := by
  rw [← h]
  exact (Word.marks_ofMarks a).symm

/-- A part that is put together from two without a continued reference. -/
theorem expand_extend (vars : Variables) {p q : Part} (hmode : p.mode = q.mode)
    (h : p.expands = true → ∀ c ∈ q.text.head?, ¬ LeavesOpen p.text c) :
    (p.extend q.text).expand vars = p.expand vars ++ q.expand vars := by
  obtain ⟨text, expands, quoted⟩ := p
  obtain ⟨other, expands', quoted'⟩ := q
  obtain ⟨rfl, rfl⟩ : expands = expands' ∧ quoted = quoted' := Prod.mk.inj hmode
  cases expands with
  | false => rfl
  | true => exact expandChars_append (h rfl) vars

/-- Without a continued reference two rows are expanded one after the other. -/
theorem expand_of_not_continues {a b : List Mark} (h : ¬ Continues a b) (vars : Variables) :
    (Word.ofMarks (a ++ b)).expand vars
      = (Word.ofMarks a).expand vars ++ (Word.ofMarks b).expand vars := by
  rw [Word.expand, Word.expand, Word.expand]
  by_cases hmeet : ∃ p ∈ (Word.ofMarks a).parts.getLast?,
      ∃ q ∈ (Word.ofMarks b).parts.head?, p.mode = q.mode
  · obtain ⟨p, hp, q, hq, hmode⟩ := hmeet
    obtain ⟨front, ha⟩ := List.getLast?_eq_some_iff.mp hp
    obtain ⟨back, hb⟩ := List.head?_eq_some_iff.mp hq
    -- a reference that runs over the joint of these parts is one that `b` goes on with
    have hopen : p.expands = true → ∀ c ∈ q.text.head?, ¬ LeavesOpen p.text c := by
      intro hexpands c hc hopen
      obtain ⟨t, ht⟩ := List.head?_eq_some_iff.mp hc
      obtain ⟨he, hq⟩ := Prod.mk.inj hmode
      refine h ⟨front.flatMap Part.marks, p.text, c, t.map (fun d => ⟨d, true, p.quoted⟩)
        ++ back.flatMap Part.marks, p.quoted, ?_, ?_, hopen⟩
      · rw [eq_flatMap_marks ha, List.flatMap_append, ← hexpands]
        simp [Part.marks]
      · rw [eq_flatMap_marks hb, List.flatMap_cons, Part.marks, ht, ← hq, ← he, hexpands]
        rfl
    rw [Word.ofMarks_append_of_eq ha hb hmode, ha, hb, List.flatMap_append, List.flatMap_append,
      List.flatMap_cons, List.flatMap_cons, expand_extend vars hmode hopen]
    simp
  · rw [Word.ofMarks_append_of_ne fun p hp q hq heq => hmeet ⟨p, hp, q, hq, heq⟩,
      List.flatMap_append]

/-- With one, characters are lost if no variable is set. -/
theorem length_expand_of_continues {a b : List Mark} (h : Continues a b) :
    ((Word.ofMarks (a ++ b)).expand .empty).length
      < ((Word.ofMarks a).expand .empty).length + ((Word.ofMarks b).expand .empty).length := by
  obtain ⟨front, t, c, back, quoted, rfl, rfl, hopen⟩ := h
  obtain ⟨parts, s, ha⟩ := Word.exists_last_part front true quoted hopen.ne_nil
  obtain ⟨u, rest, hb⟩ := (Word.grouped_ofMarks _).exists_first_part
    (Word.marks_ofMarks (⟨c, true, quoted⟩ :: back))
  -- the parts that meet are one in the whole word, and the reference runs through it
  have hjoint := Word.ofMarks_append_of_eq ha hb rfl
  have hlost := length_expandChars_append_lt (t := u) (hopen.append_left s)
  rw [Word.expand, Word.expand, Word.expand, hjoint, ha, hb]
  simp only [List.flatMap_append, List.flatMap_cons, List.flatMap_nil, List.append_nil,
    List.length_append, Part.expand, Part.extend, if_true]
  omega

theorem length_expand_append_le (a b : List Mark) :
    ((Word.ofMarks (a ++ b)).expand .empty).length
      ≤ ((Word.ofMarks a).expand .empty).length + ((Word.ofMarks b).expand .empty).length := by
  by_cases h : Continues a b
  · exact Nat.le_of_lt (length_expand_of_continues h)
  · rw [expand_of_not_continues h, List.length_append]

/-! ### A row of rows -/

/-- The text that rows stand for if each of them is expanded on its own. -/
def expandApart (vars : Variables) (rows : List (List Mark)) : Text :=
  rows.flatMap fun row => (Word.ofMarks row).expand vars

theorem expandApart_concat (vars : Variables) (rows : List (List Mark)) (row : List Mark) :
    expandApart vars (rows ++ [row])
      = expandApart vars rows ++ (Word.ofMarks row).expand vars := by
  rw [expandApart, List.flatMap_append, List.flatMap_singleton]
  rfl

theorem seamless_concat {rows : List (List Mark)} {row : List Mark} :
    Seamless (rows ++ [row]) ↔ Seamless rows ∧ ¬ Continues rows.flatten row := by
  constructor
  · intro h
    refine ⟨fun front r back hrows => h front r (back ++ [row]) ?_, h rows row [] rfl⟩
    rw [hrows, List.append_assoc, List.cons_append]
  · rintro ⟨hrows, hrow⟩ front r back h
    rcases List.eq_nil_or_concat back with rfl | ⟨back, last, rfl⟩
    · obtain ⟨rfl, hr⟩ := List.append_inj' h rfl
      obtain rfl : row = r := List.head_eq_of_cons_eq hr
      exact hrow
    · rw [List.concat_eq_append, ← List.cons_append, ← List.append_assoc] at h
      exact hrows front r back (List.append_inj' h rfl).1

/-- Seamless rows are expanded one by one. -/
theorem expand_flatten {rows : List (List Mark)} (h : Seamless rows) (vars : Variables) :
    (Word.ofMarks rows.flatten).expand vars = expandApart vars rows := by
  induction rows using List.reverseRecOn with
  | nil => rfl
  | append_singleton rows row ih =>
    obtain ⟨hrows, hrow⟩ := seamless_concat.mp h
    rw [List.flatten_concat, expand_of_not_continues hrow, ih hrows, expandApart_concat]

theorem length_expand_flatten_le (rows : List (List Mark)) :
    ((Word.ofMarks rows.flatten).expand .empty).length ≤ (expandApart .empty rows).length := by
  induction rows using List.reverseRecOn with
  | nil => exact Nat.le_refl _
  | append_singleton rows row ih =>
    have hjoint := length_expand_append_le rows.flatten row
    rw [List.flatten_concat, expandApart_concat, List.length_append]
    omega

/-- A single seam costs a character that no later row brings back. -/
theorem length_expand_flatten_lt {rows : List (List Mark)} (h : ¬ Seamless rows) :
    ((Word.ofMarks rows.flatten).expand .empty).length < (expandApart .empty rows).length := by
  induction rows using List.reverseRecOn with
  | nil => exact absurd (fun front row back hnil => absurd hnil (by simp)) h
  | append_singleton rows row ih =>
    rw [List.flatten_concat, expandApart_concat, List.length_append]
    by_cases hrow : Continues rows.flatten row
    · have hle := length_expand_flatten_le rows
      have hlt := length_expand_of_continues hrow
      omega
    · have hrows : ¬ Seamless rows := fun hs => h (seamless_concat.mpr ⟨hs, hrow⟩)
      have hlt := ih hrows
      have hjoint := length_expand_append_le rows.flatten row
      omega

/-- **Rows are expanded one by one exactly if they are seamless.** -/
theorem expand_flatten_iff (rows : List (List Mark)) :
    (∀ vars, (Word.ofMarks rows.flatten).expand vars = expandApart vars rows)
      ↔ Seamless rows := by
  refine ⟨fun h => ?_, fun h => expand_flatten h⟩
  -- the environment without variables tells the two texts apart by their lengths
  by_contra hseam
  have hlt := length_expand_flatten_lt hseam
  rw [h .empty] at hlt
  exact Nat.lt_irrefl _ hlt

/-! ### The stretches of a word -/

/-- Segments that are legal by themselves are a word of their own. -/
theorem tokenize_segments {g : List Segment} (hne : g ≠ [])
    (hfit : LexemesFit (g.map .segment) []) :
    tokenize (g.flatMap Segment.spell) = .ok [[Word.ofMarks (g.flatMap Segment.marks)]] := by
  have hlexemes : lineLexemes [⟨[], [⟨g, []⟩]⟩] = g.map .segment := by
    simp [StageLayout.lexemes, WordLayout.lexemes]
  have hspell : (g.map Lexeme.segment).flatMap Lexeme.spell = g.flatMap Segment.spell :=
    List.flatMap_map _ _ g
  have hderives : Derives [⟨[], [⟨g, []⟩]⟩] (g.flatMap Segment.spell) := by
    refine ⟨⟨by simp, by simpa [Separated] using hne, ?_, ?_⟩, by simp⟩
    · rwa [hlexemes]
    · rw [hlexemes, hspell, List.append_nil]
  exact tokenize_of_derives hderives

/-- **A word is expanded stretch by stretch exactly if its stretches are seamless.**  However the
segments of a word of a line are cut into stretches, at its quotes or elsewhere, each stretch
spells a word of its own.  In every environment the word stands for what these words stand for,
one after the other, unless a stretch goes on with a reference that is open before it. -/
theorem expand_word_iff_seamless {line : Text} {t : List StageLayout} (ht : Derives t line)
    {i j : Nat} {s : StageLayout} (hs : t[i]? = some s) {w : WordLayout}
    (hw : s.words[j]? = some w) (stretches : List (List Segment))
    (hne : ∀ g ∈ stretches, g ≠ []) (hcut : stretches.flatten = w.segments) :
    ∃ (stages : List Stage) (stage : Stage) (word : Word) (own : List Word),
      tokenize line = .ok stages ∧ stages[i]? = some stage ∧ stage[j]? = some word ∧
      stretches.map (fun g => tokenize (g.flatMap Segment.spell)) = own.map (fun v => .ok [[v]]) ∧
      ((∀ vars, word.expand vars = own.flatMap (Word.expand vars)) ↔
        Seamless (stretches.map fun g => g.flatMap Segment.marks)) := by
  refine ⟨readLayout t, _, _, stretches.map fun g => Word.ofMarks (g.flatMap Segment.marks),
    tokenize_of_derives ht, by rw [readLayout, List.getElem?_map, hs]; rfl,
    by rw [List.getElem?_map, hw]; rfl, ?_, ?_⟩
  · rw [List.map_map]
    refine List.map_congr_left fun g hg => tokenize_segments (hne g hg) ?_
    refine ht.segments_fit (List.mem_of_getElem? hs) (List.mem_of_getElem? hw) ?_
    exact hcut ▸ List.infix_of_mem_flatten hg
  · rw [← expand_flatten_iff]
    have hmarks : w.marks = (stretches.map fun g => g.flatMap Segment.marks).flatten := by
      rw [WordLayout.marks, ← hcut, List.flatMap_def, List.map_flatten, List.flatten_flatten,
        List.map_map]
      rfl
    simp only [hmarks, expandApart, List.flatMap_map]

/-- A name in double quotes, then single quotes, then a name outside quotes. -/
theorem expand_word_iff_seamless_mixed :
    ∃ (stages : List Stage) (stage : Stage) (word : Word) (own : List Word),
      tokenize "a \"$x\"'y'$z" = .ok stages ∧ stages[0]? = some stage ∧ stage[1]? = some word ∧
      [tokenize "\"$x\"", tokenize "'y'", tokenize "$z"] = own.map (fun v => .ok [[v]]) ∧
      ((∀ vars, word.expand vars = own.flatMap (Word.expand vars)) ↔
        Seamless [[⟨'$', true, true⟩, ⟨'x', true, true⟩], [⟨'y', false, true⟩],
          [⟨'$', true, false⟩, ⟨'z', true, false⟩]]) :=
  expand_word_iff_seamless
    (t := [⟨[], [⟨[.plain 'a'], [' ']⟩, ⟨[.double [.char '$', .char 'x'], .single ['y'],
      .plain '$', .plain 'z'], []⟩]⟩])
    ⟨⟨by decide, by simp [Separated], by decide, by decide⟩, by decide⟩ rfl rfl
    [[.double [.char '$', .char 'x']], [.single ['y']], [.plain '$', .plain 'z']]
    (by decide) rfl

/-- Quotes that are closed and opened again, or that are empty, do not end a name. -/
theorem expand_name_across_quotes :
    (∃ word u v, tokenize "\"$x\"\"y\"" = .ok [[word]] ∧ tokenize "\"$x\"" = .ok [[u]] ∧
      tokenize "\"y\"" = .ok [[v]] ∧
      word.expand (.ofList [("x", "1")])
        ≠ u.expand (.ofList [("x", "1")]) ++ v.expand (.ofList [("x", "1")])) ∧
    ∃ word u e v, tokenize "$x\"\"y" = .ok [[word]] ∧ tokenize "$x" = .ok [[u]] ∧
      tokenize "\"\"" = .ok [[e]] ∧ tokenize "y" = .ok [[v]] ∧
      word.expand (.ofList [("x", "1")])
        ≠ u.expand (.ofList [("x", "1")]) ++ e.expand (.ofList [("x", "1")])
          ++ v.expand (.ofList [("x", "1")]) :=
  ⟨⟨⟨[⟨"$xy", true, true⟩]⟩, ⟨[⟨"$x", true, true⟩]⟩, ⟨[⟨"y", true, true⟩]⟩, by decide, by decide,
      by decide, by decide⟩,
    ⟨[⟨"$xy", true, false⟩]⟩, ⟨[⟨"$x", true, false⟩]⟩, ⟨[]⟩, ⟨[⟨"y", true, false⟩]⟩, by decide,
      by decide, by decide, by decide, by decide⟩

end CommandShell
