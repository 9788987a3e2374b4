import CommandShell.Proofs.Plans
import CommandShell.Proofs.Spellings
import CommandShell.Proofs.Tokenizing

/-!
# Assignments as they are spelled

Whether a stage is an assignment is decided on the parts of its first word, after the quotes have
been forgotten.  What the parts still tell is the mode of every character, so the decision can be
read off the spelling: the word begins with a name and `=`, all of it outside quotes and without
a backslash.  Two quotes with nothing between them leave no character behind, hence no trace in
the parts, and they may stand anywhere in front of the `=`.

The way from the parts to the spelling leads over the marked characters of the word.  The first
part of a word is its longest stretch of characters in one mode, so it begins with `NAME=` if and
only if the word does, in one mode; and the segments that give characters in that mode are the
plain characters.

## Main definitions

* `BeginsWith spelling t` — a spelling begins with given characters, outside quotes.
* `SpellsAssignment name spelling` — a spelling begins with `NAME=`.
* `StageLayout.Assigns` — the first word of a stage does.

## Main results

* `Word.assignment?_iff_marks` — an assignment in terms of marked characters.
* `marks_iff_beginsWith` — the characters outside quotes in terms of the spelling.
* `plan_follows_spelling` — **whether a stage is an assignment follows its spelling.**
-/

namespace CommandShell

/-! ### Spellings -/

/-- **A spelling begins with given characters**, all of them outside quotes and without a
backslash.  Empty quotes may stand before and between them. -/
inductive BeginsWith : Text → Text → Prop
  /-- Any spelling begins with nothing. -/
  | nil {spelling : Text} : BeginsWith spelling []
  /-- The next character. -/
  | char {c : Char} {spelling t : Text} : BeginsWith spelling t →
      BeginsWith (c :: spelling) (c :: t)
  /-- Single quotes with nothing between them. -/
  | single {spelling t : Text} : BeginsWith spelling t → BeginsWith ('\'' :: '\'' :: spelling) t
  /-- Double quotes with nothing between them. -/
  | double {spelling t : Text} : BeginsWith spelling t → BeginsWith ('"' :: '"' :: spelling) t

/-- A word is spelled as an assignment to a variable. -/
def SpellsAssignment (name spelling : Text) : Prop :=
  isIdentifier name = true ∧ BeginsWith spelling (name ++ ['='])

/-- A word as it stands in a line. -/
def WordLayout.spelling (w : WordLayout) : Text := w.segments.flatMap Segment.spell

/-- A stage is spelled as an assignment to a variable. -/
def StageLayout.Assigns (s : StageLayout) (name : Text) : Prop :=
  ∃ w ∈ s.words.head?, SpellsAssignment name w.spelling

/-- A character that stands for itself outside quotes. -/
def IsPlain (c : Char) : Prop := isBlank c = false ∧ c ∉ ['|', '\'', '"', '\\']

theorem toNat_of_isNameChar {c : Char} (h : isNameChar c = true) :
    0x30 ≤ c.toNat ∧ c.toNat ≤ 0x7A := by
  simp only [isNameChar, isNameStart, Char.le_def, UInt32.le_iff_toNat_le, Bool.or_eq_true,
    Bool.and_eq_true, decide_eq_true_eq, beq_iff_eq] at h
  rcases h with ((⟨hlow, hhigh⟩ | ⟨hlow, hhigh⟩) | rfl) | ⟨hlow, hhigh⟩
  · exact ⟨Nat.le_trans (by decide) hlow, Nat.le_trans hhigh (by decide)⟩
  · exact ⟨Nat.le_trans (by decide) hlow, Nat.le_trans hhigh (by decide)⟩
  · decide
  · exact ⟨Nat.le_trans (by decide) hlow, Nat.le_trans hhigh (by decide)⟩

theorem isPlain_of_isNameChar {c : Char} (h : isNameChar c = true) : IsPlain c := by
  have hrange := toNat_of_isNameChar h
  refine ⟨?_, fun hmem => ?_⟩
  · simp only [isBlank, Bool.or_eq_false_iff, Bool.and_eq_false_iff, beq_eq_false_iff_ne,
      decide_eq_false_iff_not]
    omega
  · simp only [List.mem_cons, List.not_mem_nil, or_false] at hmem
    rcases hmem with rfl | rfl | rfl | rfl
    all_goals exact absurd h (by decide)

theorem isNameChar_of_mem {name : Text} (h : isIdentifier name = true) :
    ∀ c ∈ name, isNameChar c = true := by
  cases name with
  | nil => exact fun c hc => absurd hc List.not_mem_nil
  | cons d name =>
    rw [isIdentifier, Bool.and_eq_true, List.all_eq_true] at h
    exact List.forall_mem_cons.mpr ⟨by rw [isNameChar, h.1, Bool.true_or], h.2⟩

theorem sign_notMem_of_isIdentifier {name : Text} (h : isIdentifier name = true) : '=' ∉ name :=
  fun hmem => absurd (isNameChar_of_mem h '=' hmem) (by decide)

/-- No character of `NAME=` is special. -/
theorem isPlain_of_mem_assignment {name : Text} (h : isIdentifier name = true) :
    ∀ c ∈ name ++ ['='], IsPlain c := by
  intro c hc
  rcases List.mem_append.mp hc with hname | hsign
  · exact isPlain_of_isNameChar (isNameChar_of_mem h c hname)
  · rw [List.mem_singleton.mp hsign]
    exact ⟨by decide, by decide⟩

/-! ### Segments that give plain characters -/

/-- A character outside quotes with its mode. -/
def plainMark (c : Char) : Mark := ⟨c, true, false⟩

/-- Only a plain character is marked as one, and only empty quotes leave no mark. -/
theorem Segment.marks_cases {x : Segment} {c : Char} {ms rest : List Mark}
    (h : x.marks ++ ms = plainMark c :: rest) :
    (x = .plain c ∧ ms = rest) ∨
      ((x = .single [] ∨ x = .double []) ∧ ms = plainMark c :: rest) := by
  cases x with
  | plain d =>
    obtain ⟨hd, rfl⟩ := List.cons.inj h
    obtain rfl : d = c := congrArg Mark.char hd
    exact .inl ⟨rfl, rfl⟩
  | escape d => exact absurd (congrArg Mark.expands (List.cons.inj h).1) Bool.false_ne_true
  | backslash => exact absurd (congrArg Mark.expands (List.cons.inj h).1) Bool.false_ne_true
  | single t =>
    cases t with
    | nil => exact .inr ⟨.inl rfl, h⟩
    | cons d t => exact absurd (congrArg Mark.expands (List.cons.inj h).1) Bool.false_ne_true
  | double items =>
    cases items with
    | nil => exact .inr ⟨.inr rfl, h⟩
    | cons i items =>
      have hquoted : i.mark.quoted = true := by cases i <;> rfl
      have hmark : i.mark.quoted = false := congrArg Mark.quoted (List.cons.inj h).1
      exact absurd (hquoted.symm.trans hmark) (by decide)

/-- Segments whose marks begin with plain characters are spelled that way. -/
theorem beginsWith_of_marks {segments : List Segment} : ∀ {t : Text} {rest : List Mark},
    segments.flatMap Segment.marks = t.map plainMark ++ rest →
      BeginsWith (segments.flatMap Segment.spell) t := by
  induction segments with
  | nil =>
    intro t rest h
    cases t with
    | nil => exact .nil
    | cons c t => exact absurd h (by simp)
  | cons x segments ih =>
    intro t rest h
    cases t with
    | nil => exact .nil
    | cons c t =>
      rw [List.flatMap_cons, List.map_cons, List.cons_append] at h
      rcases Segment.marks_cases h with ⟨rfl, hrest⟩ | ⟨rfl | rfl, hrest⟩
      · exact .char (ih hrest)
      · exact .single (ih hrest)
      · exact .double (ih hrest)

/-- A segment that begins a spelling is the first one. -/
theorem exists_cons_of_spell {segments : List Segment} (h : LexemesFit (segments.map .segment) [])
    {y : Segment} {rest : Text} (hy : y.Fits rest)
    (hspell : segments.flatMap Segment.spell = y.spell ++ rest) :
    ∃ others, segments = y :: others ∧ LexemesFit (others.map .segment) [] ∧
      others.flatMap Segment.spell = rest := by
  cases segments with
  | nil =>
    have hne := Lexeme.spell_ne_nil (.segment y)
    exact absurd (List.append_eq_nil_iff.mp hspell.symm).1 hne
  | cons x others =>
    obtain ⟨hx, hothers⟩ := h
    rw [List.append_nil, spell_segments] at hx
    obtain ⟨rfl, hrest⟩ := Segment.first_unique x y _ _ hx hy hspell
    exact ⟨others, rfl, hothers, hrest⟩

/-- Segments that are spelled with plain characters at the front are marked that way. -/
theorem marks_of_beginsWith {spelling t : Text} (h : BeginsWith spelling t)
    (hplain : ∀ c ∈ t, IsPlain c) : ∀ {segments : List Segment},
    LexemesFit (segments.map .segment) [] → segments.flatMap Segment.spell = spelling →
      ∃ rest, segments.flatMap Segment.marks = t.map plainMark ++ rest := by
  induction h with
  | nil => exact fun {segments} _ _ => ⟨segments.flatMap Segment.marks, rfl⟩
  | @char c spelling t _ ih =>
    intro segments hfit hspell
    rw [List.forall_mem_cons] at hplain
    obtain ⟨others, rfl, hothers, hrest⟩ :=
      exists_cons_of_spell hfit (y := .plain c) hplain.1 hspell
    obtain ⟨rest, hmarks⟩ := ih hplain.2 hothers hrest
    exact ⟨rest, by rw [List.flatMap_cons, hmarks]; rfl⟩
  | single _ ih =>
    intro segments hfit hspell
    obtain ⟨others, rfl, hothers, hrest⟩ :=
      exists_cons_of_spell hfit (y := .single []) List.not_mem_nil hspell
    obtain ⟨rest, hmarks⟩ := ih hplain hothers hrest
    exact ⟨rest, hmarks⟩
  | double _ ih =>
    intro segments hfit hspell
    obtain ⟨others, rfl, hothers, hrest⟩ :=
      exists_cons_of_spell hfit (y := .double []) trivial hspell
    obtain ⟨rest, hmarks⟩ := ih hplain hothers hrest
    exact ⟨rest, hmarks⟩

/-- **The marks of a word begin with plain characters exactly if its spelling does.** -/
theorem marks_iff_beginsWith {segments : List Segment}
    (hfit : LexemesFit (segments.map .segment) []) {t : Text} (hplain : ∀ c ∈ t, IsPlain c) :
    (∃ rest, segments.flatMap Segment.marks = t.map plainMark ++ rest) ↔
      BeginsWith (segments.flatMap Segment.spell) t :=
  ⟨fun ⟨_, h⟩ => beginsWith_of_marks h, fun h => marks_of_beginsWith h hplain hfit rfl⟩

/-! ### The first part of a word -/

namespace Word

/-- A push leaves what the first part begins with. -/
theorem exists_parts_pushMark (p : Part) (parts : List Part) (m : Mark) :
    ∃ t others, pushMark ⟨p :: parts⟩ m = ⟨p.extend t :: others⟩ := by
  have hnil : p.extend [] = p := by simp [Part.extend]
  rcases List.eq_nil_or_concat parts with rfl | ⟨front, q, rfl⟩
  · by_cases hmode : m.mode = p.mode
    · exact ⟨[m.char], [], @pushMark_concat_of_eq [] p m hmode⟩
    · refine ⟨[], [⟨[m.char], m.expands, m.quoted⟩], ?_⟩
      rw [hnil]
      exact @pushMark_concat_of_ne [] p m hmode
  · rw [List.concat_eq_append]
    by_cases hmode : m.mode = q.mode
    · refine ⟨[], front ++ [q.extend [m.char]], ?_⟩
      rw [hnil]
      exact @pushMark_concat_of_eq (p :: front) q m hmode
    · refine ⟨[], front ++ [q, ⟨[m.char], m.expands, m.quoted⟩], ?_⟩
      rw [hnil]
      exact @pushMark_concat_of_ne (p :: front) q m hmode

theorem exists_parts_pushMarks (ms : List Mark) : ∀ (p : Part) (parts : List Part),
    ∃ t others, pushMarks ⟨p :: parts⟩ ms = ⟨p.extend t :: others⟩ := by
  induction ms with
  | nil => exact fun p parts => ⟨[], parts, by simp [Part.extend]⟩
  | cons m ms ih =>
    intro p parts
    obtain ⟨t, others, hpush⟩ := exists_parts_pushMark p parts m
    obtain ⟨u, rest, hrest⟩ := ih (p.extend t) others
    refine ⟨t ++ u, rest, ?_⟩
    rw [pushMarks_cons, hpush, hrest, Part.extend, Part.extend, Part.extend, List.append_assoc]

/-- The first characters of a word begin its first part if they are in one mode. -/
theorem exists_parts_of_marks {w : Word} (h : w.Grouped) {t : Text} (ht : t ≠ [])
    {expands quoted : Bool} {rest : List Mark}
    (hmarks : w.marks = t.map (fun c => ⟨c, expands, quoted⟩) ++ rest) :
    ∃ more others, w.parts = ⟨t ++ more, expands, quoted⟩ :: others := by
  have hfirst : pushMarks empty (t.map fun c => ⟨c, expands, quoted⟩) = ⟨[⟨t, expands, quoted⟩]⟩ :=
    @pushMarks_marks [] ⟨t, expands, quoted⟩ ht (by simp)
  obtain ⟨more, others, hpush⟩ := exists_parts_pushMarks rest ⟨t, expands, quoted⟩ []
  refine ⟨more, others, ?_⟩
  rw [← ofMarks_marks h, hmarks, ofMarks, pushMarks_append, hfirst, hpush]
  rfl

/-- The first part of an assignment begins with `NAME=`. -/
theorem exists_parts_of_assignment? {w value : Word} {name : Text}
    (h : w.assignment? = some (name, value)) :
    isIdentifier name = true ∧ ∃ more expands others,
      w.parts = ⟨name ++ '=' :: more, expands, false⟩ :: others := by
  rw [assignment?] at h
  split at h
  · exact absurd h (by simp)
  · next first others hparts =>
    obtain ⟨text, expands, quoted⟩ := first
    cases quoted with
    | true => exact absurd h (by simp)
    | false =>
      cases hcut : cutAt '=' text with
      | none => simp [hcut] at h
      | some cut =>
        obtain ⟨front, back⟩ := cut
        by_cases hname : isIdentifier front = true
        · simp only [hcut, hname] at h
          obtain ⟨rfl, -⟩ := Prod.mk.inj (Option.some.inj h)
          obtain ⟨rfl, -⟩ := cutAt_eq_some_iff.mp hcut
          exact ⟨hname, back, expands, others, hparts⟩
        · simp [hcut, hname] at h

/-- **A word is an assignment exactly if its characters begin with `NAME=`**, in one mode, outside
quotes and not escaped. -/
theorem assignment?_iff_marks {w : Word} (h : w.Grouped) (name : Text) :
    (∃ value, w.assignment? = some (name, value)) ↔
      isIdentifier name = true ∧ ∃ expands rest,
        w.marks = (name ++ ['=']).map (fun c => ⟨c, expands, false⟩) ++ rest := by
  constructor
  · rintro ⟨value, hvalue⟩
    obtain ⟨hname, more, expands, others, hparts⟩ := exists_parts_of_assignment? hvalue
    refine ⟨hname, expands,
      more.map (fun c => ⟨c, expands, false⟩) ++ others.flatMap Part.marks, ?_⟩
    rw [marks, hparts]
    simp [Part.marks]
  · rintro ⟨hname, expands, rest, hmarks⟩
    obtain ⟨more, others, hparts⟩ := exists_parts_of_marks h (by simp) hmarks
    have hcut : cutAt '=' (name ++ ['='] ++ more) = some (name, more) :=
      cutAt_eq_some_iff.mpr ⟨by simp, sign_notMem_of_isIdentifier hname⟩
    rw [assignment?, hparts]
    simp only [hcut, hname]
    exact ⟨_, rfl⟩

end Word

/-! ### Words of a line -/

/-- A character outside quotes in which `$` would not be special is a kept backslash. -/
theorem Segment.eq_backslash_of_mem_marks {x : Segment} {c : Char}
    (hm : ⟨c, false, false⟩ ∈ x.marks) : c = '\\' := by
  cases x with
  | plain d => exact absurd (congrArg Mark.expands (List.mem_singleton.mp hm)) Bool.false_ne_true
  | escape d => exact absurd (congrArg Mark.quoted (List.mem_singleton.mp hm)) Bool.false_ne_true
  | backslash => exact congrArg Mark.char (List.mem_singleton.mp hm)
  | single t =>
    obtain ⟨d, -, hd⟩ := List.mem_map.mp hm
    exact absurd (congrArg Mark.quoted hd).symm Bool.false_ne_true
  | double items =>
    obtain ⟨i, -, hi⟩ := List.mem_map.mp hm
    have hquoted : i.mark.quoted = true := by cases i <;> rfl
    exact absurd ((congrArg Mark.quoted hi).symm.trans hquoted) Bool.false_ne_true

/-- **Whether a word of a line is an assignment follows its spelling.** -/
theorem assignment?_iff_spelling {w : WordLayout} (hfit : LexemesFit (w.segments.map .segment) [])
    (name : Text) :
    (∃ value, (Word.ofMarks w.marks).assignment? = some (name, value)) ↔
      SpellsAssignment name w.spelling := by
  rw [Word.assignment?_iff_marks (Word.grouped_ofMarks _), Word.marks_ofMarks, SpellsAssignment]
  refine and_congr_right fun hname => ?_
  rw [WordLayout.spelling, ← marks_iff_beginsWith hfit (isPlain_of_mem_assignment hname)]
  constructor
  · rintro ⟨expands, rest, hmarks⟩
    cases expands with
    | true => exact ⟨rest, hmarks⟩
    | false =>
      -- a word of kept backslashes has no name in front
      have hsign : ⟨'=', false, false⟩ ∈ w.marks := by rw [hmarks]; simp
      obtain ⟨x, -, hx⟩ := List.mem_flatMap.mp hsign
      exact absurd (Segment.eq_backslash_of_mem_marks hx) (by decide)
  · rintro ⟨rest, hmarks⟩
    exact ⟨true, rest, hmarks⟩

/-! ### Stages of a line -/

/-- **A stage is what its spelling says.** -/
structure FollowsSpelling (s : StageLayout) (stage : Stage) : Prop where
  /-- It is an assignment if its first word is spelled as one, and to that variable. -/
  assign : ∀ name, s.Assigns name ↔ ∃ values, plan stage = .assign name values ∧
    ∀ vars, (plan stage).fill vars = .plain assignmentName (name :: values.map (fillPieces vars))
  /-- Any other stage is a command, whose name is what the first word stands for. -/
  run : (∀ name, ¬ s.Assigns name) → ∃ head rest, stage = head :: rest ∧
    ∀ vars, (plan stage).fill vars
      = .ofWords (head.expand vars) (rest.map (Word.expand vars))

theorem exists_assign_iff (head : Word) (rest : Stage) (name : Text) :
    (∃ value, head.assignment? = some (name, value)) ↔
      ∃ values, plan (head :: rest) = .assign name values ∧
        ∀ vars, (plan (head :: rest)).fill vars
          = .plain assignmentName (name :: values.map (fillPieces vars)) := by
  cases h : head.assignment? with
  | none => simp [plan, h]
  | some assigned =>
    simp only [plan, h, Option.some.injEq, Prod.ext_iff, Plan.fill, exists_and_left,
      Plan.assign.injEq]
    constructor
    · rintro ⟨rfl, -⟩
      exact ⟨_, ⟨rfl, rfl⟩, fun _ => rfl⟩
    · rintro ⟨_, ⟨hname, -⟩, -⟩
      exact ⟨hname, _, rfl⟩

/-- **Whether a stage is an assignment follows its spelling.**  Every line that the grammar
derives is read, stage by stage.  A stage is an assignment to a variable exactly if its first
word, as it is spelled, begins with the name of the variable and `=`, outside quotes and without
a backslash; empty quotes in front of the `=` do not count.  Every other stage is a command whose
name is what its first word stands for. -/
theorem plan_follows_spelling {line : Text} {t : List StageLayout} (h : Derives t line) :
    ∃ stages, tokenize line = .ok stages ∧ List.Forall₂ FollowsSpelling t stages ∧
      ∀ vars, readLine line vars = .ok (stages.map fun stage => (plan stage).fill vars) := by
  have hread := tokenize_of_derives h
  refine ⟨readLayout t, hread, ?_, fun vars => by rw [readLine_eq, hread, Except.map]⟩
  rw [readLayout, List.forall₂_map_right_iff, List.forall₂_same]
  intro s hs
  obtain ⟨w, ws, hwords⟩ := List.exists_cons_of_ne_nil (h.words s hs)
  have hw : w ∈ s.words := hwords ▸ List.mem_cons_self
  have hfit := h.toSpells.segments_fit hs hw (List.infix_refl _)
  have hassign : ∀ name, (∃ value, (Word.ofMarks w.marks).assignment? = some (name, value)) ↔
      s.Assigns name := by
    intro name
    rw [assignment?_iff_spelling hfit, StageLayout.Assigns, hwords]
    simp
  rw [hwords, List.map_cons]
  refine ⟨fun name => (hassign name).symm.trans (exists_assign_iff _ _ name), fun hno => ?_⟩
  have hnone : (Word.ofMarks w.marks).assignment? = none := by
    cases hvalue : (Word.ofMarks w.marks).assignment? with
    | none => rfl
    | some assigned => exact absurd ((hassign assigned.1).mp ⟨assigned.2, hvalue⟩) (hno _)
  refine ⟨_, _, rfl, fun vars => ?_⟩
  rw [← readStage_eq, readStage_of_run _ vars hnone]

/-- Empty quotes in the name, and a name in quotes. -/
theorem plan_follows_spelling_quotes :
    ∃ stages, tokenize "''x\"\"=$y'z' b|\"x\"=1" = .ok stages ∧
      List.Forall₂ FollowsSpelling
        [⟨[], [⟨[.single [], .plain 'x', .double [], .plain '=', .plain '$', .plain 'y',
            .single ['z']], [' ']⟩, ⟨[.plain 'b'], []⟩]⟩,
          ⟨[], [⟨[.double [.char 'x'], .plain '=', .plain '1'], []⟩]⟩] stages ∧
      ∀ vars, readLine "''x\"\"=$y'z' b|\"x\"=1" vars
        = .ok (stages.map fun stage => (plan stage).fill vars) :=
  plan_follows_spelling ⟨⟨by decide, by simp [Separated], by decide, by decide⟩, by decide⟩

/-- A stage can be an assignment although its spelling does not begin with a name and `=`. -/
theorem assignment_behind_empty_quotes :
    ¬ ∀ (line : Text) (t : List StageLayout) (stages : List Stage), Derives t line →
      tokenize line = .ok stages → ∀ (i : Nat) (s : StageLayout) (stage : Stage),
      t[i]? = some s → stages[i]? = some stage → ∀ w ∈ s.words.head?, ∀ name,
      ((∃ values, plan stage = .assign name values) ↔
        isIdentifier name = true ∧ (name ++ ['=']) <+: w.spelling) := by
  intro h
  have hderives : Derives [⟨[], [⟨[.single [], .plain 'x', .plain '=', .plain '1'], []⟩]⟩]
      "''x=1" := ⟨⟨by decide, by simp [Separated], by decide, by decide⟩, by decide⟩
  have hiff := h _ _ [[⟨[⟨"x=1", true, false⟩]⟩]] hderives (by decide) 0 _ _ rfl rfl _ rfl ['x']
  have hassign : ∃ values, plan [⟨[⟨"x=1", true, false⟩]⟩] = .assign ['x'] values := ⟨_, rfl⟩
  exact absurd (hiff.mp hassign).2 (by decide)

end CommandShell
