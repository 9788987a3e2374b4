import CommandShell.Builtin.Standard
import CommandShell.Proofs.Divisions
import CommandShell.Proofs.LineResults
import CommandShell.Proofs.QuoteBoundaries
import CommandShell.Proofs.SpelledAssignments

/-!
# The value of an assignment

There are two ways from a text to a value.  As an argument the text is a word of its own, which is
expanded.  In an assignment it stands behind `NAME=`, with which its first characters make one part
if they are outside quotes, so that the name has to be cut off again before the rest is expanded.

Both ways give the same.  The characters of a word and their modes do not depend on what stands
before them, and of these the parts are made: cutting `NAME=` off a word leaves the parts that its
remaining characters make by themselves.  An expanded value is not read again, so the variable
gives it back as it is.

## Main definitions

* `SpelledAs v text` — a word of a line is spelled as a given text.
* `PassesAs vars text value` — an argument that is spelled as a text is passed on as a value.
* `Shell.setVariable` — a session with a value for a variable.
* `AssignsValue` — what it is to set a variable to the value of a text.

## Main results

* `Word.assignment?_ofMarks` — the value of an assignment has the parts of its own characters.
* `passesAs_of_tokenize` — an argument is the expansion of the word that it would be by itself.
* `assignsValue_of_tokenize` — **an assignment sets what an argument would be.**
-/

namespace CommandShell

/-! ### The parts of a value -/

namespace Word

/-- What is left of the first part of a grouped word is grouped with the other parts. -/
theorem Grouped.tail {first : Part} {others : List Part} (h : Grouped ⟨first :: others⟩)
    (rest : Text) :
    Grouped ⟨(if rest = [] then [] else [⟨rest, first.expands, first.quoted⟩]) ++ others⟩ := by
  obtain ⟨hne, hd⟩ := h
  rw [List.forall_mem_cons] at hne
  split
  · exact ⟨hne.2, hd.tail⟩
  · next hrest =>
    refine ⟨List.forall_mem_cons.mpr ⟨hrest, hne.2⟩, ?_⟩
    -- the part after it differs from it as it did from the whole
    rw [List.isChain_cons] at hd
    exact List.isChain_cons.mpr hd

/-- **The value of an assignment has the parts of its own characters**, whether its first
characters have made a part with `NAME=` or not. -/
theorem assignment?_ofMarks {name : Text} (hname : isIdentifier name = true) (ms : List Mark) :
    (ofMarks ((name ++ ['=']).map plainMark ++ ms)).assignment? = some (name, ofMarks ms) := by
  have hgrouped := grouped_ofMarks ((name ++ ['=']).map plainMark ++ ms)
  have hmarks := marks_ofMarks ((name ++ ['=']).map plainMark ++ ms)
  generalize ofMarks ((name ++ ['=']).map plainMark ++ ms) = w at hgrouped hmarks
  obtain ⟨more, others, hparts⟩ := exists_parts_of_marks hgrouped (by simp) hmarks
  obtain ⟨parts⟩ := w
  obtain rfl : parts = _ := hparts
  have hcut : cutAt '=' (name ++ ['='] ++ more) = some (name, more) :=
    cutAt_eq_some_iff.mpr ⟨by simp, sign_notMem_of_isIdentifier hname⟩
  have hpart : ∀ t : Text, Part.marks ⟨t, true, false⟩ = t.map plainMark := fun _ => rfl
  have hvalue : marks ⟨(if more = [] then [] else [⟨more, true, false⟩]) ++ others⟩ = ms := by
    rw [marks, List.flatMap_cons, hpart, List.map_append, List.append_assoc] at hmarks
    have hrest := List.append_cancel_left hmarks
    split
    · next hmore => rwa [hmore] at hrest
    · rwa [marks, List.singleton_append, List.flatMap_cons, hpart]
  simp only [assignment?, hcut, hname, if_true, Bool.false_eq_true, if_false]
  rw [← hvalue, ofMarks_marks (hgrouped.tail more)]

end Word

/-! ### Words of a line -/

/-- **A word of a line is spelled as a text**: by itself, up to blanks after it, the text is a line
of a single word with these segments. -/
def SpelledAs (v : WordLayout) (text : Text) : Prop :=
  ∃ gap, Derives [⟨[], [⟨v.segments, gap⟩]⟩] text

/-- **An argument that is spelled as a text is passed on as a value**: whatever the line, and
wherever a command of it has such an argument, the command is given the value in its place. -/
def PassesAs (vars : Variables) (text value : Text) : Prop :=
  ∀ (line : Text) (front back : List StageLayout) (s : StageLayout)
    (before after : List WordLayout) (v : WordLayout),
    Derives (front ++ s :: back) line → (∀ name, ¬ s.Assigns name) →
    s.words = before ++ v :: after → before ≠ [] → SpelledAs v text →
    ∃ (cs ds : List Command) (c : Command) (args rest : List Text),
      readLine line vars = .ok (cs ++ c :: ds) ∧ cs.length = front.length ∧
      c.argv = args ++ value :: rest ∧ args.length + 1 = before.length ∧
      rest.length = after.length

/-- A word that is spelled as a text is the word that the text would be by itself. -/
theorem SpelledAs.ofMarks_eq {v : WordLayout} {text : Text} {w : Word} (h : SpelledAs v text)
    (hw : tokenize text = .ok [[w]]) : Word.ofMarks v.marks = w := by
  obtain ⟨gap, hderives⟩ := h
  have hread := hw.symm.trans (tokenize_of_derives hderives)
  simpa [readLayout, WordLayout.marks] using hread.symm

/-- **An argument is the expansion of the word that it would be by itself.** -/
theorem passesAs_of_tokenize {text : Text} {w : Word} (hw : tokenize text = .ok [[w]])
    (vars : Variables) : PassesAs vars text (w.expand vars) := by
  intro line front back s before after v hline hrun hwords hbefore hv
  obtain ⟨head, others, rfl⟩ := List.exists_cons_of_ne_nil hbefore
  have hnone : (Word.ofMarks head.marks).assignment? = none := by
    rw [Option.eq_none_iff_forall_ne_some]
    rintro ⟨name, value⟩ hassign
    have hmem : head ∈ s.words := by simp [hwords]
    have hfit := hline.toSpells.segments_fit (by simp) hmem (List.infix_refl _)
    refine hrun name ⟨head, by simp [hwords], ?_⟩
    exact (assignment?_iff_spelling hfit name).mp ⟨value, hassign⟩
  refine ⟨(readLayout front).map (readStage vars), (readLayout back).map (readStage vars),
    .ofWords ((Word.ofMarks head.marks).expand vars) (((others ++ v :: after).map
      fun u => Word.ofMarks u.marks).map (Word.expand vars)),
    others.map fun u => (Word.ofMarks u.marks).expand vars,
    after.map fun u => (Word.ofMarks u.marks).expand vars, ?_, by simp [readLayout], ?_, by simp,
    by simp⟩
  · rw [readLine, tokenize_of_derives hline, Except.map, ← readStage_of_run _ vars hnone]
    simp [readLayout, hwords]
  · simp [Command.ofWords, hv.ofMarks_eq hw, Function.comp_def]

/-- A text that is a single word has a layout, without blanks before the word if it does not start
with one. -/
theorem exists_layout_of_tokenize {text : Text} {w : Word} (hw : tokenize text = .ok [[w]])
    (hstart : ∀ c ∈ text.head?, isBlank c = false) :
    ∃ v : WordLayout, Derives [⟨[], [v]⟩] text ∧ Word.ofMarks v.marks = w := by
  obtain ⟨t, hderives, ht⟩ := (exists_derives_of_tokenize hw).resolve_left (by simp)
  obtain ⟨⟨lead, words⟩, rfl, hs⟩ := List.map_eq_singleton_iff.mp ht.symm
  obtain ⟨v, hv, hmarks⟩ := List.map_eq_singleton_iff.mp hs
  obtain rfl : words = [v] := hv
  cases lead with
  | nil => exact ⟨v, hderives, hmarks⟩
  | cons c lead =>
    have hblank : isBlank c = true := hderives.fits.1
    have hline := hderives.line_eq
    simp only [lineLexemes_singleton, StageLayout.lexemes, List.map_cons, List.cons_append,
      List.flatMap_cons, Lexeme.spell] at hline
    exact absurd (hstart c (by rw [hline]; rfl)) (by simp [hblank])

/-- Plain characters may stand before a word, of which they become a part. -/
theorem derives_plain_append {v : WordLayout} {line : Text} (h : Derives [⟨[], [v]⟩] line)
    {t : Text} (ht : ∀ c ∈ t, IsPlain c) :
    Derives [⟨[], [⟨t.map .plain ++ v.segments, v.gap⟩]⟩] (t ++ line) := by
  have hsegments : v.segments ≠ [] := h.separated ⟨[], [v]⟩ List.mem_cons_self
  have hlexemes : lineLexemes [⟨[], [⟨t.map .plain ++ v.segments, v.gap⟩]⟩]
      = (t.map Segment.plain).map .segment ++ lineLexemes [⟨[], [v]⟩] := by
    simp [StageLayout.lexemes, WordLayout.lexemes]
  have hspell : ((t.map Segment.plain).map Lexeme.segment).flatMap Lexeme.spell = t := by
    rw [spell_segments, List.flatMap_map]
    exact List.flatMap_singleton' t
  refine ⟨⟨by simp, by simp [Separated, hsegments], ?_, ?_⟩, by simp⟩
  · rw [hlexemes, LexemesFit, rowFits_append]
    refine ⟨lexemesFit_segments (fun x hx rest => ?_) _, h.fits⟩
    obtain ⟨c, hc, rfl⟩ := List.mem_map.mp hx
    exact ht c hc
  · rw [hlexemes, List.flatMap_append, hspell, List.append_assoc, ← h.line_eq]

/-- **A text behind `NAME=` is the value of an assignment**, with the parts of the word that it is
by itself. -/
theorem exists_assignment_of_tokenize {name text : Text} (hname : isIdentifier name = true)
    (hstart : ∀ c ∈ text.head?, isBlank c = false) {w : Word} (hw : tokenize text = .ok [[w]]) :
    ∃ first, tokenize (name ++ '=' :: text) = .ok [[first]] ∧
      first.assignment? = some (name, w) := by
  obtain ⟨v, hderives, rfl⟩ := exists_layout_of_tokenize hw hstart
  have hread := tokenize_of_derives
    (derives_plain_append hderives (isPlain_of_mem_assignment hname))
  have hmarks : WordLayout.marks ⟨(name ++ ['=']).map .plain ++ v.segments, v.gap⟩
      = (name ++ ['=']).map plainMark ++ v.marks := by
    rw [WordLayout.marks, List.flatMap_append, List.flatMap_map]
    exact congrArg (· ++ v.marks) List.map_eq_flatMap.symm
  rw [List.append_assoc, List.singleton_append] at hread
  refine ⟨_, hread, ?_⟩
  simp only [hmarks]
  exact Word.assignment?_ofMarks hname v.marks

/-! ### References to a variable -/

section References

variable {name : Text} (hname : isIdentifier name = true)
include hname

/-- A `$` and a name, all in one mode, stand for the value of the variable. -/
theorem expand_ofMarks_reference (quoted : Bool) (vars : Variables) :
    (Word.ofMarks (('$' :: name).map fun c => ⟨c, true, quoted⟩)).expand vars
      = vars.value name := by
  have hword : Word.ofMarks (('$' :: name).map fun c => ⟨c, true, quoted⟩)
      = ⟨[⟨'$' :: name, true, quoted⟩]⟩ :=
    @Word.pushMarks_marks [] ⟨'$' :: name, true, quoted⟩ (List.cons_ne_nil _ _) (by simp)
  rw [hword, Word.expand_ofChars, expandChars_reference hname]

/-- An argument of segments that say `$NAME` is passed on as the value of the variable. -/
theorem passesAs_of_marks {segments : List Segment} (hfit : LexemesFit (segments.map .segment) [])
    {quoted : Bool}
    (hmarks : segments.flatMap Segment.marks = ('$' :: name).map fun c => ⟨c, true, quoted⟩)
    (vars : Variables) : PassesAs vars (segments.flatMap Segment.spell) (vars.value name) := by
  have hne : segments ≠ [] := by
    rintro rfl
    exact absurd hmarks (List.cons_ne_nil _ _).symm
  have hread := tokenize_segments hne hfit
  rw [hmarks] at hread
  rw [← expand_ofMarks_reference hname quoted vars]
  exact passesAs_of_tokenize hread vars

/-- **The value of a variable is passed on as it is**, with and without double quotes. -/
theorem passesAs_reference (vars : Variables) :
    ∀ text ∈ ['$' :: name, '"' :: '$' :: name ++ ['"']], PassesAs vars text (vars.value name) := by
  have hplain : ∀ c ∈ '$' :: name, IsPlain c :=
    List.forall_mem_cons.mpr ⟨⟨by decide, by decide⟩,
      fun c hc => isPlain_of_isNameChar (isNameChar_of_mem hname c hc)⟩
  simp only [List.forall_mem_cons, List.not_mem_nil, false_implies, implies_true, and_true]
  constructor
  · have hfit : LexemesFit ((('$' :: name).map Segment.plain).map .segment) [] := by
      refine lexemesFit_segments (fun x hx rest => ?_) []
      obtain ⟨c, hc, rfl⟩ := List.mem_map.mp hx
      exact hplain c hc
    have hmarks : (('$' :: name).map Segment.plain).flatMap Segment.marks
        = ('$' :: name).map fun c => ⟨c, true, false⟩ := by
      rw [List.flatMap_map]
      exact List.map_eq_flatMap.symm
    have hspell : (('$' :: name).map Segment.plain).flatMap Segment.spell = '$' :: name := by
      rw [List.flatMap_map]
      exact List.flatMap_singleton' _
    have hpass := passesAs_of_marks hname hfit hmarks vars
    rwa [hspell] at hpass
  · have hfit : LexemesFit ([Segment.double (('$' :: name).map .char)].map .segment) [] := by
      refine ⟨rowFits_of_forall (fun i hi rest => ?_) _, trivial⟩
      obtain ⟨c, hc, rfl⟩ := List.mem_map.mp hi
      have hspecial := (hplain c hc).2
      exact ⟨fun h => hspecial (by simp [h]), fun h => hspecial (by simp [h])⟩
    have hmarks : [Segment.double (('$' :: name).map .char)].flatMap Segment.marks
        = ('$' :: name).map fun c => ⟨c, true, true⟩ := by
      simp [Segment.marks, QuotedItem.mark]
    have hspell : [Segment.double (('$' :: name).map .char)].flatMap Segment.spell
        = '"' :: '$' :: name ++ ['"'] := by
      simp [Segment.spell, List.flatMap_map, QuotedItem.spell]
    have hpass := passesAs_of_marks hname hfit hmarks vars
    rwa [hspell] at hpass

end References

/-- A value with blanks and a dash in it, for commands of two stages. -/
example : (readLine "a $x b|c \"$x\"" (.ofList [("x", "-n  1")])).map (List.map Command.argv)
    = .ok [["-n  1", "b"], ["-n  1"]] := by decide

/-! ### Setting a variable -/

/-- A session with a value for a variable. -/
def Shell.setVariable (sh : Shell) (name value : Text) : Shell :=
  { sh with machine := { sh.machine with
    state := { sh.machine.state with vars := sh.vars.insert name value } } }

/-- A variable that is set has its value, also when the status of the line is recorded. -/
theorem Shell.value_setVariable {name : Text} (hname : isIdentifier name = true) (sh : Shell)
    (value : Text) (code : Int32) :
    ((sh.setVariable name value).recordStatus code).vars.value name = value := by
  have hne : name ≠ statusName := by
    rintro rfl
    exact absurd hname (by decide)
  have hget : ((sh.setVariable name value).recordStatus code).vars.get? name = some value :=
    (Dictionary.get?_insert_of_ne _ _ hne).trans (Dictionary.get?_insert_self _ _ _)
  rw [Variables.value, hget]
  rfl

/-- A line with a single assignment to a single value succeeds and sets the variable. -/
theorem Shell.runLine_of_assignment? {line name : Text} {first value : Word}
    (hline : tokenize line = .ok [[first]]) (hfirst : first.assignment? = some (name, value))
    (host : Host) (sh : Shell) (s : Streams) :
    sh.runLine Registry.standard host line s
      = (.ok (.completed 0), (sh.setVariable name (value.expand sh.vars)).recordStatus 0, s) := by
  have hread : readLine line sh.vars
      = .ok [.plain assignmentName [name, value.expand sh.vars]] := by
    rw [readLine, hline]
    rw [Except.map, List.map_singleton, readStage_of_assign [] sh.vars hfirst]
    rfl
  rw [Shell.runLine_of_ok hread (List.cons_ne_nil _ _)]
  rfl

section Main

variable (host : Host) (sh : Shell) (s : Streams) (name text : Text) (w : Word)

/-- **What it is to set a variable to the value of a text**, which is a single word. -/
structure AssignsValue : Prop where
  /-- The line `NAME=text` is split into the name and a value with the parts of the word. -/
  split : ∃ (first value : Word), tokenize (name ++ '=' :: text) = .ok [[first]] ∧
    first.assignment? = some (name, value) ∧ value.parts = w.parts
  /-- It succeeds and sets the variable to the expansion of the word, and that is all. -/
  run : sh.runLine Registry.standard host (name ++ '=' :: text) s
    = (.ok (.completed 0), (sh.setVariable name (w.expand sh.vars)).recordStatus 0, s)
  /-- This is what a command would be given for an argument that is spelled as the text. -/
  argument : PassesAs sh.vars text (w.expand sh.vars)
  /-- This is what a command is given for the variable afterwards, with and without double
  quotes. -/
  afterwards : ∀ spelling ∈ ['$' :: name, '"' :: '$' :: name ++ ['"']],
    PassesAs (sh.runLine Registry.standard host (name ++ '=' :: text) s).2.1.vars spelling
      (w.expand sh.vars)

end Main

/-- **An assignment sets what an argument would be.**  Let a text be a single word that no blank
stands before.  Behind `NAME=` it is read as a value with the same parts.  So the variable is set to
the expansion of the word in the environment before the assignment, in which it may itself be
mentioned, and a command that had the text for an argument would be given just that.  Afterwards
the variable, with or without double quotes, is passed on as this value and as one word. -/
theorem assignsValue_of_tokenize {name text : Text} {w : Word} (hname : isIdentifier name = true)
    (hstart : ∀ c ∈ text.head?, isBlank c = false) (hw : tokenize text = .ok [[w]]) (host : Host)
    (sh : Shell) (s : Streams) : AssignsValue host sh s name text w := by
  obtain ⟨first, hline, hfirst⟩ := exists_assignment_of_tokenize hname hstart hw
  have hrun := Shell.runLine_of_assignment? hline hfirst host sh s
  refine ⟨⟨first, w, hline, hfirst, rfl⟩, hrun, passesAs_of_tokenize hw sh.vars, ?_⟩
  have hpass := passesAs_reference hname
    ((sh.setVariable name (w.expand sh.vars)).recordStatus 0).vars
  rw [Shell.value_setVariable hname] at hpass
  rwa [hrun]

/-- A variable that is mentioned in its own value, with blanks in quotes and behind a backslash. -/
theorem assignsValue_of_tokenize_own :
    let host : Host := fun _ files => (.ran [] [] (.exited 0), files)
    let sh : Shell := .start ⟨.ofList [("x", "-n  1")], ⟨[], []⟩⟩ .empty
    let s : Streams := ⟨.ofBytes [], .fresh, .fresh, false, false⟩
    let w : Word := ⟨[⟨"$x=", true, false⟩, ⟨"$x ", true, true⟩, ⟨" $x", false, true⟩]⟩
    isIdentifier "x" = true ∧
      (∀ c ∈ ("$x=\"$x \"\\ '$x' " : Text).head?, isBlank c = false) ∧
      tokenize "$x=\"$x \"\\ '$x' " = .ok [[w]] ∧
      w.expand sh.vars = "-n  1=-n  1  $x".toList ∧
      AssignsValue host sh s "x" "$x=\"$x \"\\ '$x' " w := by
  intro host sh s w
  have hname : isIdentifier "x" = true := by decide
  have hstart : ∀ c ∈ ("$x=\"$x \"\\ '$x' " : Text).head?, isBlank c = false := by
    intro c hc
    obtain rfl : '$' = c := Option.some.inj hc
    decide
  have hw : tokenize "$x=\"$x \"\\ '$x' " = .ok [[w]] := by decide
  exact ⟨hname, hstart, hw, by decide, assignsValue_of_tokenize hname hstart hw host sh s⟩

end CommandShell
