import CommandShell.Builtin.Search
import CommandShell.Proofs.PatternMatches
import CommandShell.Proofs.WordCharacters

/-!
# Searching for whole words

`grep -w` looks for a text between word boundaries.  Here is what it finds, for every text that
it may be asked for and every line.

A boundary is a place where exactly one of the neighbours is a word character.  Next to a text
that begins and ends with word characters this is where no word character stands, so that the
text is found where it is a whole word.  Next to any other text it is the opposite: the text is
found where a word character does stand next to it, and at the ends of the line.

A pattern may also be too big, so that nothing is looked for.  As sizes are counted here, the size
of the pattern of a word depends on the number of bytes of the word only, and the greatest number
of bytes that fits is `wordLimit`.

## Main definitions

* `StandsAlone` — a text is a whole word of a line.
* `StandsBetweenEdges` — a text stands between boundaries or ends of a line.
* `wordLimit` — the greatest number of bytes of a word.

## Main results

* `matches_wordPattern`, `occursIn_wordPattern` — what the pattern of a word matches.
* `fits_wordPattern` — when it is not too big.
* `standsBetweenEdges_iff_standsAlone` — the texts for which both ways of standing agree.
* `wholeWord_search` — what `grep -w` looks for.
-/

namespace CommandShell

namespace Regex

open Unicode (CharSet)

/-! ### The pattern of a word -/

section Matches

variable {before m after t : Text}

theorem matches_row_cons (p : Pattern) (ps : List Pattern) :
    (Pattern.row (p :: ps)).Matches = p.Matches.followedBy (Pattern.row ps).Matches := by
  cases ps with
  | nil =>
    funext before m after
    simp [Pattern.row, Pattern.Matches, Occurrence.followedBy]
  | cons q ps => rfl

/-- A text as a pattern matches itself and nothing else. -/
theorem matches_text : (Pattern.text false t).Matches before m after ↔ m = t := by
  rw [Pattern.text]
  induction t generalizing before m with
  | nil => rfl
  | cons c t ih =>
    have hchar (u : Text) : (∃ d, u = [d] ∧ (CharSet.singleton c).has d = true) ↔ u = [c] := by
      simp [CharSet.has_singleton]
    rw [List.map_cons, matches_row_cons]
    simp only [Occurrence.followedBy, Pattern.char, Bool.false_and, Bool.false_eq_true, if_false,
      Pattern.Matches, hchar, ih]
    simp

end Matches

/-! ### The size of the pattern -/

theorem Tally.grow_eq (t : Tally) (states ways : Nat) :
    t.grow states ways = if stateSize * (t.states + states) + (t.ways + ways) ≤ limit
      then some ⟨t.states + states, t.ways + ways⟩ else none := rfl

theorem Tally.isSome_grow_iff (t : Tally) (states ways : Nat) :
    (t.grow states ways).isSome = true ↔
      stateSize * (t.states + states) + (t.ways + ways) ≤ limit := by
  rw [grow_eq, Option.isSome_ite]

/-- To grow twice is to grow by the sum: what is too big stays so. -/
theorem Tally.grow_grow (t : Tally) (states ways more others : Nat) :
    ((t.grow states ways).bind fun u => u.grow more others)
      = t.grow (states + more) (ways + others) := by
  rw [grow_eq, grow_eq]
  by_cases h : stateSize * (t.states + states) + (t.ways + ways) ≤ limit
  · rw [if_pos h, Option.bind_some, grow_eq]
    simp only [Nat.add_assoc]
  · have hmore :
        ¬ stateSize * (t.states + (states + more)) + (t.ways + (ways + others)) ≤ limit := by
      simp only [stateSize] at h ⊢
      omega
    rw [if_neg h, if_neg hmore, Option.bind_none]

/-- The form of a text is its bytes. -/
theorem form_text {t : Text} (h : t ≠ []) :
    (Pattern.text false t).form = .bytes ((Utf8.encode t).map UInt8.toNat) := by
  have hchar (c : Char) : (Pattern.char false c).form
      = .bytes ((Utf8.encodeChar c).map UInt8.toNat) := by
    simp [Pattern.char, Pattern.form, Form.ofSet, CharSet.single?, CharSet.singleton, bytesOf]
  obtain ⟨c, t, rfl⟩ := List.exists_cons_of_ne_nil h
  clear h
  rw [Pattern.text]
  induction t generalizing c with
  | nil => simp [Pattern.row, hchar]
  | cons d t ih =>
    have hrow := ih d
    rw [List.map_cons] at hrow
    rw [List.map_cons, List.map_cons, Pattern.row, Pattern.form, hrow, hchar]
    · simp [Form.seq, Form.items, Form.joined]
    · simp

/-- The form of what is asked for on either side of a word: one of two places. -/
def edgeForm : Form := .choice [.look, .look]

theorem form_wordPattern {t : Text} (h : t ≠ []) :
    (wordPattern false t).form
      = .concat [edgeForm, .bytes ((Utf8.encode t).map UInt8.toNat), edgeForm] := by
  rw [wordPattern, Pattern.form, Pattern.form, form_text h]
  rfl

theorem add_edgeForm (backwards : Bool) (t : Tally) : edgeForm.add backwards t = t.grow 4 8 := by
  have hwords : [Form.look, Form.look].filterMap Form.bytes? = [] := rfl
  simp [edgeForm, Form.add, hwords, Form.addArms, Tally.grow_grow, Tally.branchSize]

theorem add_wordForm (backwards : Bool) (values : List Nat) (t : Tally) :
    (Form.concat [edgeForm, .bytes values, edgeForm]).add backwards t
      = t.grow (8 + values.length) 16 := by
  cases backwards with
  | false =>
    have hsum : 4 + (values.length + 4) = 8 + values.length := by omega
    simp [Form.add, Form.addAll, add_edgeForm, Tally.grow_grow, hsum]
  | true =>
    have hsum : 4 + values.length + 4 = 8 + values.length := by omega
    simp [Form.add, Form.addLastFirst, add_edgeForm, Tally.grow_grow, hsum]

/-- No place is asked for within a text. -/
theorem isAnchored_text (t : Text) :
    (Pattern.text false t).isAnchored = false ∧ (Pattern.text false t).isAnchoredAtEnd = false := by
  rw [Pattern.text]
  induction t with
  | nil => exact ⟨rfl, rfl⟩
  | cons c t ih =>
    cases t with
    | nil => exact ⟨rfl, rfl⟩
    | cons d t =>
      rw [List.map_cons] at ih
      refine ⟨rfl, ?_⟩
      change (_ || _ && false) = false
      rw [Bool.and_false, Bool.or_false]
      exact ih.2

/-- The greatest number of bytes that a word may have. -/
def wordLimit : Nat := 327665

/-- The pattern of a word fits exactly if the word has at most so many bytes: the states around
it take a fixed size, and each byte takes one more state. -/
theorem fits_wordPattern {t : Text} (h : t ≠ []) :
    (wordPattern false t).fits = true ↔ (Utf8.encode t).length ≤ wordLimit := by
  obtain ⟨hstart, hend⟩ := isAnchored_text t
  have hanchored : (wordPattern false t).isAnchored = false := by
    simp [wordPattern, Pattern.isAnchored, hstart]
  have hanchoredAtEnd : (wordPattern false t).isAnchoredAtEnd = false := by
    simp [wordPattern, Pattern.isAnchoredAtEnd, hend]
  have hlead : Pattern.lead false = Tally.grow ⟨0, 0⟩ 3 16 := rfl
  have hlimit : Tally.limit = 10485760 := rfl
  simp only [Pattern.fits, hanchored, hanchoredAtEnd, hlead, form_wordPattern h, add_wordForm,
    Option.bind_eq_bind, Tally.grow_grow, List.length_map, Bool.and_eq_true,
    Tally.isSome_grow_iff, Tally.stateSize, hlimit, wordLimit]
  omega

/-! ### Where a word is found -/

/-- A text stands alone in a line: no word character stands right before or right after it. -/
def StandsAlone (word line : Text) : Prop :=
  ∃ before after, line = before ++ word ++ after ∧
    isWordAt false before.getLast? = false ∧ isWordAt false after.head? = false

/-- A text stands between edges of a line: on either side the line ends, or else exactly one of
the two characters that meet there is a word character. -/
def StandsBetweenEdges (word line : Text) : Prop :=
  ∃ before after, line = before ++ word ++ after ∧
    (before = [] ∨ isWordAt false before.getLast? ≠ isWordAt false word.head?) ∧
    (after = [] ∨ isWordAt false word.getLast? ≠ isWordAt false after.head?)

section WordPattern

variable {word line : Text}

/-- The pattern of a word matches the word where each side of it is an edge. -/
theorem matches_wordPattern (h : word ≠ []) {before m after : Text} :
    (wordPattern false word).Matches before m after ↔
      m = word ∧ (before = [] ∨ isWordAt false before.getLast? ≠ isWordAt false word.head?) ∧
        (after = [] ∨ isWordAt false word.getLast? ≠ isWordAt false after.head?) := by
  have hopen (front u back : Text) :
      (Pattern.alt (.look .textStart) (.look (.word .boundary false))).Matches front u back ↔
        u = [] ∧ (front = [] ∨ isWordAt false front.getLast? ≠ isWordAt false back.head?) := by
    simp [Pattern.Matches, Look.holds, WordEdge.holds, ← and_or_left]
  have hclose (front u back : Text) :
      (Pattern.alt (.look (.word .boundary false)) (.look .textEnd)).Matches front u back ↔
        u = [] ∧ (back = [] ∨ isWordAt false front.getLast? ≠ isWordAt false back.head?) := by
    simp [Pattern.Matches, Look.holds, WordEdge.holds, ← and_or_left, or_comm]
  have hhead : (word ++ after).head? = word.head? := List.head?_append_of_ne_nil _ h
  have hlast : (before ++ word).getLast? = word.getLast? := List.getLast?_append_of_ne_nil _ h
  rw [wordPattern, Pattern.Matches, Pattern.Matches]
  constructor
  · rintro ⟨u, _, rfl, hu, x, y, rfl, hx, hy⟩
    obtain ⟨rfl, hfront⟩ := (hopen _ _ _).mp hu
    obtain ⟨rfl, hback⟩ := (hclose _ _ _).mp hy
    obtain rfl : x = word := matches_text.mp hx
    simp only [List.append_nil, hhead, hlast] at hfront hback
    exact ⟨by simp, hfront, hback⟩
  · rintro ⟨rfl, hfront, hback⟩
    refine ⟨[], m, rfl, (hopen _ _ _).mpr ⟨rfl, hhead ▸ hfront⟩, m, [], by simp, ?_, ?_⟩
    · exact matches_text.mpr rfl
    · exact (hclose _ _ _).mpr ⟨rfl, by simpa only [List.append_nil, hlast] using hback⟩

theorem occursIn_wordPattern (h : word ≠ []) :
    (wordPattern false word).occursIn line = true ↔ StandsBetweenEdges word line := by
  simp only [Pattern.occursIn_iff, matches_wordPattern h, StandsBetweenEdges]
  constructor
  · rintro ⟨before, _, after, hcut, rfl, hedges⟩
    exact ⟨before, after, hcut, hedges⟩
  · rintro ⟨before, after, hcut, hedges⟩
    exact ⟨before, word, after, hcut, rfl, hedges⟩

theorem isWordAt_of_ascii {c : Char} (h : c.toNat < 0x80) :
    isWordAt false (some c) = CommandShell.isNameChar c := by
  rw [isWordAt, Option.any_some, if_neg Bool.false_ne_true, Unicode.has_wordChars_of_ascii h]

@[simp] theorem isWordAt_none (ascii : Bool) : isWordAt ascii none = false := by
  rw [isWordAt, Option.any_none]

/-- Between word characters an edge is where no word character comes next. -/
theorem standsBetweenEdges_iff_of_word (hfirst : isWordAt false word.head? = true)
    (hlast : isWordAt false word.getLast? = true) :
    StandsBetweenEdges word line ↔ StandsAlone word line := by
  have hbefore (before : Text) :
      (before = [] ∨ isWordAt false before.getLast? ≠ isWordAt false word.head?) ↔
        isWordAt false before.getLast? = false := by
    rw [hfirst, ne_eq, Bool.not_eq_true, or_iff_right_of_imp]
    rintro rfl
    exact isWordAt_none false
  have hafter (after : Text) :
      (after = [] ∨ isWordAt false word.getLast? ≠ isWordAt false after.head?) ↔
        isWordAt false after.head? = false := by
    rw [hlast, ne_comm, ne_eq, Bool.not_eq_true, or_iff_right_of_imp]
    rintro rfl
    exact isWordAt_none false
  simp only [StandsBetweenEdges, StandsAlone, hbefore, hafter]

theorem isWordAt_underscore : isWordAt false (some '_') = true := isWordAt_of_ascii (by decide)

/-- In front of a text that does not begin with a word character, an underscore makes an edge. -/
theorem isWordAt_head?_of_iff (h : word ≠ [])
    (hiff : StandsBetweenEdges word ('_' :: word) ↔ StandsAlone word ('_' :: word)) :
    isWordAt false word.head? = true := by
  by_contra hfirst
  have hedges : StandsBetweenEdges word ('_' :: word) :=
    ⟨['_'], [], by simp, .inr (by simp [isWordAt_underscore, hfirst]), .inl rfl⟩
  obtain ⟨before, after, hcut, hbefore, -⟩ := hiff.mp hedges
  cases before with
  | nil =>
    have hhead : word.head? = some '_' := by
      rw [← List.head?_append_of_ne_nil word h, ← List.nil_append word, ← hcut, List.head?_cons]
    exact hfirst (hhead ▸ isWordAt_underscore)
  | cons c before =>
    have hlength := congrArg List.length hcut
    obtain rfl : before = [] := List.eq_nil_of_length_eq_zero (by simp at hlength; omega)
    obtain rfl : '_' = c := (List.cons.inj hcut).1
    simp [isWordAt_underscore] at hbefore

/-- Behind a text that does not end in a word character, an underscore makes an edge. -/
theorem isWordAt_getLast?_of_iff (h : word ≠ [])
    (hiff : StandsBetweenEdges word (word ++ ['_']) ↔ StandsAlone word (word ++ ['_'])) :
    isWordAt false word.getLast? = true := by
  by_contra hlast
  have hedges : StandsBetweenEdges word (word ++ ['_']) :=
    ⟨[], ['_'], by simp, .inl rfl, .inr (by simp [isWordAt_underscore, hlast])⟩
  obtain ⟨before, after, hcut, -, hafter⟩ := hiff.mp hedges
  rcases List.eq_nil_or_concat' after with rfl | ⟨after, c, rfl⟩
  · have hend : word.getLast? = some '_' := by
      rw [← List.getLast?_append_of_ne_nil before h, ← List.append_nil (before ++ word), ← hcut,
        List.getLast?_concat]
    exact hlast (hend ▸ isWordAt_underscore)
  · have hlength := congrArg List.length hcut
    obtain rfl : after = [] := List.eq_nil_of_length_eq_zero (by simp at hlength; omega)
    obtain rfl : '_' = c := by
      have hend := congrArg List.getLast? hcut
      simpa using hend
    simp [isWordAt_underscore] at hafter

/-- Standing between edges is standing alone, on every line, for the texts that begin and end
with word characters; a text with a newline stands in no line at all. -/
theorem standsBetweenEdges_iff_standsAlone (h : word ≠ []) :
    (∀ line, '\n' ∉ line → (StandsBetweenEdges word line ↔ StandsAlone word line)) ↔
      '\n' ∈ word ∨ isWordAt false word.head? = true ∧ isWordAt false word.getLast? = true := by
  constructor
  · intro hiff
    by_cases hnewline : '\n' ∈ word
    · exact .inl hnewline
    · refine .inr ⟨isWordAt_head?_of_iff h (hiff _ ?_), isWordAt_getLast?_of_iff h (hiff _ ?_)⟩
      all_goals simp [hnewline]
  · rintro (hnewline | ⟨hfirst, hlast⟩) line hline
    · have hno (before after : Text) : line ≠ before ++ word ++ after := by
        rintro rfl
        exact hline (by simp [hnewline])
      constructor
      · exact fun ⟨before, after, hcut, _⟩ => absurd hcut (hno before after)
      · exact fun ⟨before, after, hcut, _⟩ => absurd hcut (hno before after)
    · exact standsBetweenEdges_iff_of_word hfirst hlast

end WordPattern

end Regex

/-! ### The search -/

open Regex

namespace SearchRequest

/-- The switches of a request are the options of the command. -/
theorem switches_of_ofCommand {c : Command} {r : SearchRequest} (h : ofCommand c = .ok r) :
    r.wholeWord = c.options.has ['w'] ∧ r.ignoreCase = c.options.has ['i'] := by
  rw [ofCommand] at h
  cases hcontext : contextOf c.options c.args with
  | error fault => simp [hcontext, bind, Except.bind] at h
  | ok found =>
    obtain ⟨context, args⟩ := found
    rw [hcontext] at h
    cases args with
    | nil => simp [bind, Except.bind] at h
    | cons pattern rest =>
      obtain rfl := Except.ok.inj h
      exact ⟨rfl, rfl⟩

/-- The pattern of a request for a word, unless it is too big. -/
theorem regex_of_wholeWord {r : SearchRequest} (hword : r.wholeWord = true)
    (hcase : r.ignoreCase = false) :
    r.regex = if (wordPattern false r.pattern).fits = true
      then .ok ⟨wordPattern false r.pattern, (wordPattern false r.pattern).program⟩
      else .error .tooBig := by
  rw [SearchRequest.regex, if_pos hword, hcase, wholeWords, ofPattern]

end SearchRequest

/-- **What `grep -w` looks for.**  A text whose pattern is too big is refused.  Any other is looked
for between edges: where it stands in the line and, on either side, the line ends or exactly one of
the two characters that meet is a word character.

That is how a whole word stands in a line, with no word character right before or after it, for
the texts that begin and end with word characters, and for these only.  A text that begins or
ends otherwise, such as `C++`, is overlooked where a blank follows it, and found where a letter
does. -/
theorem wholeWord_search {c : Command} {r : SearchRequest} (hr : SearchRequest.ofCommand c = .ok r)
    (hword : c.options.has ['w'] = true) (hcase : c.options.has ['i'] = false)
    (hpattern : r.pattern ≠ []) :
    ((wordPattern false r.pattern).fits = false → r.regex = .error .tooBig) ∧
    ((wordPattern false r.pattern).fits = true → ∃ regex, r.regex = .ok regex ∧
      (∀ line, regex.occursIn line = true ↔ StandsBetweenEdges r.pattern line) ∧
      ((∀ line, '\n' ∉ line → (regex.occursIn line = true ↔ StandsAlone r.pattern line)) ↔
        '\n' ∈ r.pattern ∨
          isWordAt false r.pattern.head? = true ∧ isWordAt false r.pattern.getLast? = true)) := by
  obtain ⟨hw, hi⟩ := SearchRequest.switches_of_ofCommand hr
  have hregex := SearchRequest.regex_of_wholeWord (hw.trans hword) (hi.trans hcase)
  constructor
  · intro hbig
    rw [hregex, if_neg (Bool.not_eq_true _ ▸ hbig)]
  · intro hfits
    rw [if_pos hfits] at hregex
    have hoccurs (line : Text) : (wordPattern false r.pattern).occursIn line = true ↔
        StandsBetweenEdges r.pattern line := occursIn_wordPattern hpattern
    refine ⟨_, hregex, hoccurs, ?_⟩
    simp only [Regex.occursIn, hoccurs]
    exact standsBetweenEdges_iff_standsAlone hpattern

/-- The command `grep -w` for a text. -/
def wordSearch (word : Text) : Command := ⟨"grep", [word], .ofFlags [['w']], ["-w", word]⟩

theorem ofCommand_wordSearch (word : Text) :
    SearchRequest.ofCommand (wordSearch word) = .ok ⟨word, none, 0, false, true, false⟩ := rfl

/-- A text whose first character does not come again stands at the start of a line only. -/
theorem eq_nil_of_not_mem {c : Char} {rest before more after : Text} (h : c ∉ rest)
    (hcut : c :: rest = before ++ c :: more ++ after) : before = [] := by
  cases before with
  | nil => rfl
  | cons d before => exact absurd ((List.cons.inj hcut).2 ▸ by simp) h

/-- The word `foo` is found where it stands alone, and not within a longer word. -/
theorem wholeWord_search_foo :
    ∃ r regex, SearchRequest.ofCommand (wordSearch "foo") = .ok r ∧ r.regex = .ok regex ∧
      regex.occursIn "a foo b" = true ∧ regex.occursIn "foobar" = false := by
  have hfits : (wordPattern false "foo").fits = true :=
    (fits_wordPattern (by decide)).mpr (by decide)
  obtain ⟨regex, hregex, -, hiff⟩ :=
    (wholeWord_search (ofCommand_wordSearch "foo") rfl rfl (by decide)).2 hfits
  have halone := hiff.mpr (.inr ⟨isWordAt_of_ascii (by decide), isWordAt_of_ascii (by decide)⟩)
  refine ⟨_, regex, rfl, hregex, ?_, ?_⟩
  · have hblank : isWordAt false (some ' ') = false := isWordAt_of_ascii (by decide)
    exact (halone _ (by decide)).mpr ⟨['a', ' '], [' ', 'b'], rfl, hblank, hblank⟩
  · rw [← Bool.not_eq_true, halone _ (by decide)]
    rintro ⟨before, after, hcut, -, hafter⟩
    change 'f' :: ['o', 'o', 'b', 'a', 'r'] = before ++ 'f' :: ['o', 'o'] ++ after at hcut
    obtain rfl := eq_nil_of_not_mem (by decide) hcut
    obtain rfl : ['b', 'a', 'r'] = after := by simpa using hcut
    have hletter : isWordAt false (some 'b') = true := isWordAt_of_ascii (by decide)
    exact absurd (hletter.symm.trans hafter) (by decide)

/-- A whole word can be overlooked: `C++` stands alone in `C++ x`, but there is no edge between
the sign and the blank. -/
theorem wholeWord_search_overlooks :
    ¬ ∀ (c : Command) (r : SearchRequest), SearchRequest.ofCommand c = .ok r →
      c.options.has ['w'] = true → c.options.has ['i'] = false → r.pattern ≠ [] →
      ∃ regex, r.regex = .ok regex ∧
        ∀ line, '\n' ∉ line → (regex.occursIn line = true ↔ StandsAlone r.pattern line) := by
  intro h
  obtain ⟨regex, hregex, hiff⟩ :=
    h (wordSearch "C++") _ (ofCommand_wordSearch "C++") rfl rfl (by decide)
  have hfits : (wordPattern false "C++").fits = true :=
    (fits_wordPattern (by decide)).mpr (by decide)
  rw [SearchRequest.regex_of_wholeWord rfl rfl, if_pos hfits] at hregex
  obtain rfl := Except.ok.inj hregex
  have hblank : isWordAt false (some ' ') = false := isWordAt_of_ascii (by decide)
  have hplus : isWordAt false (some '+') = false := isWordAt_of_ascii (by decide)
  have halone : StandsAlone "C++" "C++ x" := ⟨[], [' ', 'x'], rfl, isWordAt_none false, hblank⟩
  have hoccurs : (wordPattern false "C++").occursIn "C++ x" = true :=
    (hiff _ (by decide)).mpr halone
  obtain ⟨before, after, hcut, -, hafter⟩ := (occursIn_wordPattern (by decide)).mp hoccurs
  change 'C' :: ['+', '+', ' ', 'x'] = before ++ 'C' :: ['+', '+'] ++ after at hcut
  obtain rfl := eq_nil_of_not_mem (by decide) hcut
  obtain rfl : [' ', 'x'] = after := by simpa using hcut
  rcases hafter with hnil | hne
  · exact absurd hnil (by decide)
  · exact hne (hplus.trans hblank.symm)

end CommandShell
