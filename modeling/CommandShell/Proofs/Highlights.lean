import CommandShell.Proofs.ContextWindows
import CommandShell.Proofs.IllFormed
import CommandShell.Proofs.MatchSpans
import Mathlib.Data.List.TakeDrop

/-!
# Matches in colour

A line is coloured by a cursor that goes from match to match: what stands before a match is copied,
the match is put between two codes, and empty matches are passed over.  What comes of it can be
said place by place, and then there is no cursor: at each place of the line come the codes of the
matches that end there, the codes of the matches that begin there, and the character.

Here a place is a number of characters.  A search counts bytes, and the line is cut at places that
are so counted, which goes wrong if a place is beyond the line or inside of a character.  So the
cursor is also followed in the bytes of the line, with every cut checked.

## Main definitions

* `Ink`, `inked` — the characters of a coloured line and the codes between them.
* `stretch?`, `highlightBytes?` — a line is coloured in bytes, with every cut checked.
* `Colored` — what colour does to a line.

## Main results

* `highlightFrom_eq` — the cursor sets the codes where they belong.
* `highlightBytes?_encode` — it never cuts where it must not.
* `selectLines_colored` — **colour adds codes to the lines that are printed, and nothing else.**
-/

namespace CommandShell

/-! ### Codes between characters -/

/-- What a coloured line is made of. -/
inductive Ink where
  /-- A character of the line. -/
  | char (c : Char)
  /-- The code before a match. -/
  | start
  /-- The code after a match. -/
  | reset
  deriving DecidableEq, Repr

namespace Ink

/-- How it is written.  The codes are those of a terminal for the colour 9, a bright red, and for
its own colour. -/
def spell : Ink → Text
  | .char c => [c]
  | .start => ['\x1b', '[', '3', '8', ';', '5', ';', '9', 'm']
  | .reset => ['\x1b', '[', '3', '9', 'm']

/-- The character of the line, if it is one. -/
def char? : Ink → Option Char
  | .char c => some c
  | .start | .reset => none

@[simp] theorem flatMap_spell_map_char (t : Text) : (t.map char).flatMap spell = t := by
  induction t with
  | nil => rfl
  | cons c t ih => rw [List.map_cons, List.flatMap_cons, ih]; rfl

/-- A text in red stands between the two codes. -/
theorem red_eq (t : Text) : red t = start.spell ++ t ++ reset.spell := rfl

end Ink

/-- The codes at a place: one for each match that ends there, then one for each that begins there.
Empty matches have none. -/
def codesAt (spans : List (Nat × Nat)) (place : Nat) : List Ink :=
  .replicate (spans.countP fun s => s.1 < s.2 ∧ s.2 = place) .reset ++
    .replicate (spans.countP fun s => s.1 < s.2 ∧ s.1 = place) .start

/-- The rest of a line from a place on, with the codes at each place. -/
def inkedFrom (spans : List (Nat × Nat)) : Nat → Text → List Ink
  | place, [] => codesAt spans place
  | place, c :: rest => codesAt spans place ++ .char c :: inkedFrom spans (place + 1) rest

/-- **A line with the codes of its matches.** -/
def inked (spans : List (Nat × Nat)) (line : Text) : List Ink := inkedFrom spans 0 line

section Codes

variable {spans : List (Nat × Nat)} {first stop place : Nat}

theorem char?_of_mem_codesAt {x : Ink} (h : x ∈ codesAt spans place) : x.char? = none := by
  rw [codesAt, List.mem_append] at h
  rcases h with h | h
  · rw [List.eq_of_mem_replicate h, Ink.char?]
  · rw [List.eq_of_mem_replicate h, Ink.char?]

/-- Without the codes, the characters are left. -/
theorem filterMap_char?_inkedFrom (spans : List (Nat × Nat)) (place : Nat) (t : Text) :
    (inkedFrom spans place t).filterMap Ink.char? = t := by
  have hcodes (place : Nat) : (codesAt spans place).filterMap Ink.char? = [] :=
    List.filterMap_eq_nil_iff.mpr fun x hx => char?_of_mem_codesAt hx
  induction t generalizing place with
  | nil => exact hcodes place
  | cons c t ih =>
    rw [inkedFrom, List.filterMap_append, hcodes, List.nil_append]
    exact congrArg (List.cons c) (ih (place + 1))

/-- There are no codes before the first match. -/
theorem codesAt_of_lt (h : ∀ s ∈ spans, place < s.1) : codesAt spans place = [] := by
  have hends : spans.countP (fun s => s.1 < s.2 ∧ s.2 = place) = 0 := by
    refine List.countP_eq_zero.mpr fun s hs => ?_
    have := h s hs
    simp only [decide_eq_true_eq]
    omega
  have hbegins : spans.countP (fun s => s.1 < s.2 ∧ s.1 = place) = 0 := by
    refine List.countP_eq_zero.mpr fun s hs => ?_
    have := h s hs
    simp only [decide_eq_true_eq]
    omega
  rw [codesAt, hends, hbegins]
  rfl

/-- A match has codes at its two ends only, and none if it is empty. -/
theorem codesAt_cons_of_ne (h : first < stop → place ≠ first ∧ place ≠ stop) :
    codesAt ((first, stop) :: spans) place = codesAt spans place := by
  have hends : ¬ (first < stop ∧ stop = place) := by omega
  have hbegins : ¬ (first < stop ∧ first = place) := by omega
  simp only [codesAt, List.countP_cons, hends, hbegins, decide_false, Bool.false_eq_true, if_false,
    Nat.add_zero]

/-- Where a match begins. -/
theorem codesAt_first (hlt : first < stop) :
    codesAt ((first, stop) :: spans) first = codesAt spans first ++ [.start] := by
  have hne : stop ≠ first := Nat.ne_of_gt hlt
  simp [codesAt, hlt, hne, List.replicate_succ']

/-- Where a match ends. -/
theorem codesAt_stop (hlt : first < stop) :
    codesAt ((first, stop) :: spans) stop = .reset :: codesAt spans stop := by
  have hne : first ≠ stop := Nat.ne_of_lt hlt
  simp [codesAt, hlt, hne, List.replicate_succ]

/-- A stretch without codes is copied. -/
theorem inkedFrom_append {t : Text} (h : ∀ i < t.length, codesAt spans (place + i) = [])
    (rest : Text) : inkedFrom spans place (t ++ rest)
      = t.map Ink.char ++ inkedFrom spans (place + t.length) rest := by
  induction t generalizing place with
  | nil => rfl
  | cons c t ih =>
    have hlater : ∀ i < t.length, codesAt spans (place + 1 + i) = [] := by
      intro i hi
      rw [Nat.add_assoc, Nat.add_comm 1 i]
      exact h (i + 1) (Nat.succ_lt_succ hi)
    have hplace : place + 1 + t.length = place + (c :: t).length := by
      rw [List.length_cons]
      omega
    have hfirst : codesAt spans place = [] := h 0 (Nat.succ_pos _)
    rw [List.cons_append, inkedFrom, hfirst, ih hlater, hplace]
    rfl

/-- Matches with the same codes from a place on colour the rest in the same way. -/
theorem inkedFrom_congr {others : List (Nat × Nat)}
    (h : ∀ i, place ≤ i → codesAt spans i = codesAt others i) (t : Text) :
    inkedFrom spans place t = inkedFrom others place t := by
  induction t generalizing place with
  | nil => exact h place (Nat.le_refl place)
  | cons c t ih =>
    rw [inkedFrom, inkedFrom, h place (Nat.le_refl place),
      ih fun i hi => h i (Nat.le_of_succ_le hi)]

/-- Without matches there are no codes. -/
theorem inkedFrom_nil (place : Nat) (t : Text) : inkedFrom [] place t = t.map Ink.char := by
  have hnone : ∀ i < t.length, codesAt [] (place + i) = [] := fun _ _ => rfl
  have hinked := inkedFrom_append hnone []
  rwa [List.append_nil, inkedFrom, codesAt_of_lt (by simp), List.append_nil] at hinked

/-- An empty match has no codes. -/
theorem inkedFrom_cons_empty (t : Text) :
    inkedFrom ((first, first) :: spans) place t = inkedFrom spans place t :=
  inkedFrom_congr (fun _ _ => codesAt_cons_of_ne fun hlt => absurd hlt (Nat.lt_irrefl first)) t

/-- After a match only its code is left of it. -/
theorem inkedFrom_stop (hlt : first < stop) (t : Text) :
    inkedFrom ((first, stop) :: spans) stop t = .reset :: inkedFrom spans stop t := by
  have hlater : ∀ i, stop + 1 ≤ i → codesAt ((first, stop) :: spans) i = codesAt spans i :=
    fun i hi => codesAt_cons_of_ne fun _ => by omega
  cases t with
  | nil => exact codesAt_stop hlt
  | cons c t =>
    rw [inkedFrom, inkedFrom, codesAt_stop hlt, inkedFrom_congr hlater]
    rfl

/-- A match that stands before all others is put between its codes. -/
theorem inkedFrom_match (hlt : first < stop) (h : ∀ s ∈ spans, stop ≤ s.1) {found : Text}
    (hfound : first + found.length = stop) (rest : Text) :
    inkedFrom ((first, stop) :: spans) first (found ++ rest)
      = .start :: found.map Ink.char ++ .reset :: inkedFrom spans stop rest := by
  obtain ⟨c, more, rfl⟩ : ∃ c more, found = c :: more := by
    refine List.exists_cons_of_ne_nil ?_
    rintro rfl
    rw [List.length_nil] at hfound
    omega
  have hstop : first + 1 + more.length = stop := by
    rw [← hfound, List.length_cons]
    omega
  have hquiet : ∀ i < more.length, codesAt ((first, stop) :: spans) (first + 1 + i) = [] := by
    intro i hi
    rw [codesAt_cons_of_ne fun _ => by omega]
    refine codesAt_of_lt fun s hs => ?_
    have := h s hs
    omega
  have hnone : codesAt spans first = [] :=
    codesAt_of_lt fun s hs => Nat.lt_of_lt_of_le hlt (h s hs)
  rw [List.cons_append, inkedFrom, codesAt_first hlt, hnone, inkedFrom_append hquiet, hstop,
    inkedFrom_stop hlt]
  rfl

end Codes

/-! ### The cursor -/

/-- What follows a place is cut at a later one. -/
theorem drop_eq_append {α : Type} (xs : List α) {first stop : Nat} (h : first ≤ stop) :
    xs.drop first = (xs.take stop).drop first ++ xs.drop stop := by
  have hcut := List.drop_take_append_drop xs first (stop - first)
  rwa [Nat.add_sub_of_le h, ← List.drop_take, eq_comm] at hcut

theorem length_drop_take {α : Type} {xs : List α} {first stop : Nat} (h : stop ≤ xs.length) :
    ((xs.take stop).drop first).length = stop - first := by
  rw [List.length_drop, List.length_take_of_le h]

section Cursor

variable {line : Text} {spans : List (Nat × Nat)} {start : Nat}

/-- The rest of a line up to its first match, the match between its codes, and what follows it. -/
theorem inkedFrom_cons {first stop : Nat} (hlt : first < stop) (hstop : stop ≤ line.length)
    (hlater : ∀ s ∈ spans, stop ≤ s.1) (hstart : start ≤ first) :
    inkedFrom ((first, stop) :: spans) start (line.drop start)
      = ((line.take first).drop start).map Ink.char ++
        (.start :: ((line.take stop).drop first).map Ink.char ++
          .reset :: inkedFrom spans stop (line.drop stop)) := by
  have hbefore : ((line.take first).drop start).length = first - start :=
    length_drop_take (Nat.le_trans (Nat.le_of_lt hlt) hstop)
  have hfound : ((line.take stop).drop first).length = stop - first := length_drop_take hstop
  have hquiet : ∀ i < ((line.take first).drop start).length,
      codesAt ((first, stop) :: spans) (start + i) = [] := by
    intro i hi
    rw [codesAt_cons_of_ne fun _ => by omega]
    refine codesAt_of_lt fun s hs => ?_
    have := hlater s hs
    omega
  rw [drop_eq_append line hstart, drop_eq_append line (Nat.le_of_lt hlt), inkedFrom_append hquiet,
    hbefore, Nat.add_sub_of_le hstart, inkedFrom_match hlt hlater (by omega)]

/-- **The cursor sets the codes where they belong**: what it makes of the rest of a line are the
characters with the codes of the matches that are still to come. -/
theorem highlightFrom_eq (h : InOrder line spans) (hstart : ∀ s ∈ spans, start ≤ s.1) :
    highlightFrom line start spans
      = (inkedFrom spans start (line.drop start)).flatMap Ink.spell := by
  induction spans generalizing start with
  | nil => rw [inkedFrom_nil, Ink.flatMap_spell_map_char, highlightFrom]
  | cons s spans ih =>
    obtain ⟨first, stop⟩ := s
    obtain ⟨⟨hle, hstop⟩, hlater, hrest⟩ := inOrder_cons.mp h
    rw [List.forall_mem_cons] at hstart
    rcases Nat.eq_or_lt_of_le hle with rfl | hlt
    · rw [highlightFrom, if_pos rfl, ih hrest hstart.2, inkedFrom_cons_empty]
    · rw [highlightFrom, if_neg (Nat.ne_of_lt hlt), ih hrest hlater,
        inkedFrom_cons hlt hstop hlater hstart.1]
      simp only [List.flatMap_append, List.flatMap_cons, Ink.flatMap_spell_map_char, Ink.red_eq,
        List.append_assoc]

/-- **There are as many codes of each kind as matches that are not empty.** -/
theorem count_inkedFrom {x : Ink} (hx : x.char? = none) (h : InOrder line spans)
    (hstart : ∀ s ∈ spans, start ≤ s.1) :
    (inkedFrom spans start (line.drop start)).count x = spans.countP fun s => s.1 < s.2 := by
  have hchars (t : Text) : (t.map Ink.char).count x = 0 := by
    refine List.count_eq_zero.mpr fun hmem => ?_
    obtain ⟨c, -, rfl⟩ := List.mem_map.mp hmem
    exact absurd hx (by simp [Ink.char?])
  induction spans generalizing start with
  | nil => rw [inkedFrom_nil, hchars, List.countP_nil]
  | cons s spans ih =>
    obtain ⟨first, stop⟩ := s
    obtain ⟨⟨hle, hstop⟩, hlater, hrest⟩ := inOrder_cons.mp h
    rw [List.forall_mem_cons] at hstart
    rcases Nat.eq_or_lt_of_le hle with rfl | hlt
    · rw [inkedFrom_cons_empty, ih hrest hstart.2]
      simp
    · rw [inkedFrom_cons hlt hstop hlater hstart.1, List.countP_cons_of_pos (by simpa using hlt),
        ← ih hrest hlater]
      generalize (line.take first).drop start = before, (line.take stop).drop first = found
      -- of the two codes around the match, one is of this kind
      cases x with
      | char c => exact absurd hx (by simp [Ink.char?])
      | start => simp [List.count_append, hchars]
      | reset => simp [List.count_append, hchars]

end Cursor

/-- **A coloured line is the line with the codes of its matches.** -/
theorem highlight_eq {spans : Text → List (Nat × Nat)} {line : Text}
    (h : InOrder line (spans line)) :
    highlight spans line = (inked (spans line) line).flatMap Ink.spell :=
  highlightFrom_eq h fun s _ => Nat.zero_le s.1

/-! ### Cuts in bytes -/

namespace Utf8

/-- The bytes of a text may be cut at a place, since no character goes on there. -/
def IsBoundary (b : Bytes) (place : Nat) : Prop :=
  ∀ x ∈ b[place]?, x.toNat < 0x80 ∨ 0xC0 ≤ x.toNat

instance (b : Bytes) (place : Nat) : Decidable (IsBoundary b place) :=
  inferInstanceAs (Decidable (∀ x ∈ b[place]?, x.toNat < 0x80 ∨ 0xC0 ≤ x.toNat))

/-- How many bytes there are before a character of a text. -/
def offset (t : Text) (place : Nat) : Nat := (encode (t.take place)).length

/-- The first byte of a character tells that it is one. -/
theorem exists_encodeChar_eq_cons (c : Char) :
    ∃ x rest, encodeChar c = x :: rest ∧ (x.toNat < 0x80 ∨ 0xC0 ≤ x.toNat) := by
  have hvalid := toNat_cases c
  rw [encodeChar]
  generalize c.toNat = n at hvalid ⊢
  split
  · exact ⟨_, _, rfl, .inl (by rw [toNat_toUInt8 (by omega)]; assumption)⟩
  split
  · exact ⟨_, _, rfl, .inr (by rw [toNat_toUInt8 (by omega)]; omega)⟩
  split
  · exact ⟨_, _, rfl, .inr (by rw [toNat_toUInt8 (by omega)]; omega)⟩
  · exact ⟨_, _, rfl, .inr (by rw [toNat_toUInt8 (by omega)]; omega)⟩

theorem isBoundary_encode_append (t rest : Text) :
    IsBoundary (encode (t ++ rest)) (encode t).length := by
  intro x hx
  rw [encode_append, List.getElem?_append_right (Nat.le_refl _), Nat.sub_self] at hx
  cases rest with
  | nil => exact absurd hx (by simp)
  | cons c rest =>
    obtain ⟨y, more, hy, hfirst⟩ := exists_encodeChar_eq_cons c
    rw [encode_cons, hy, List.cons_append, List.getElem?_cons_zero, Option.mem_some_iff] at hx
    rwa [← hx]

end Utf8

/-- A stretch of the bytes of a text.  There is none if it would end before it begins, end beyond
the text, or begin or end inside of a character. -/
def stretch? (b : Bytes) (first stop : Nat) : Option Bytes :=
  if first ≤ stop ∧ stop ≤ b.length ∧ Utf8.IsBoundary b first ∧ Utf8.IsBoundary b stop then
    some ((b.take stop).drop first)
  else none

/-- The rest of a line from a place on, with matches in red, in bytes; nothing if one of the
stretches that are copied is none. -/
def highlightBytes? (line : Bytes) (start : Nat) : List (Nat × Nat) → Option Bytes
  | [] => stretch? line start line.length
  | (first, stop) :: rest => do
      let found ← stretch? line first stop
      if found = [] then highlightBytes? line start rest
      else
        let before ← stretch? line start first
        let after ← highlightBytes? line stop rest
        return before ++ Utf8.encode Ink.start.spell ++ found ++ Utf8.encode Ink.reset.spell
          ++ after

/-- Matches by the bytes before them. -/
def byteSpans (line : Text) (spans : List (Nat × Nat)) : List (Nat × Nat) :=
  spans.map fun s => (Utf8.offset line s.1, Utf8.offset line s.2)

theorem stretch?_encode_append (before found after : Text) :
    stretch? (Utf8.encode (before ++ found ++ after)) (Utf8.encode before).length
      (Utf8.encode (before ++ found)).length = some (Utf8.encode found) := by
  have hfirst := Utf8.isBoundary_encode_append before (found ++ after)
  have hstop := Utf8.isBoundary_encode_append (before ++ found) after
  rw [← List.append_assoc] at hfirst
  have hbounds : (Utf8.encode before).length ≤ (Utf8.encode (before ++ found)).length ∧
      (Utf8.encode (before ++ found)).length
        ≤ (Utf8.encode (before ++ found ++ after)).length := by
    simp only [Utf8.encode_append, List.length_append]
    omega
  rw [stretch?, if_pos ⟨hbounds.1, hbounds.2, hfirst, hstop⟩, Utf8.encode_append (before ++ found),
    List.take_left, Utf8.encode_append, List.drop_left]

/-- A stretch of characters is one of bytes. -/
theorem stretch?_encode (line : Text) {first stop : Nat} (h : first ≤ stop) :
    stretch? (Utf8.encode line) (Utf8.offset line first) (Utf8.offset line stop)
      = some (Utf8.encode ((line.take stop).drop first)) := by
  have hstop : line.take first ++ (line.take stop).drop first = line.take stop := by
    have hcut := List.take_append_drop first (line.take stop)
    rwa [List.take_take, Nat.min_eq_left h] at hcut
  have hstretch := stretch?_encode_append (line.take first) ((line.take stop).drop first)
    (line.drop stop)
  rwa [hstop, List.take_append_drop] at hstretch

theorem encode_eq_nil_iff {t : Text} : Utf8.encode t = [] ↔ t = [] := by
  cases t with
  | nil => simp
  | cons c t => simp [Utf8.encodeChar_ne_nil]

/-- **The cursor never cuts where it must not**: followed in the bytes of the line, it makes the
bytes of the coloured line. -/
theorem highlightBytes?_encode {line : Text} {spans : List (Nat × Nat)} (h : InOrder line spans)
    {start : Nat} (hlength : start ≤ line.length) (hstart : ∀ s ∈ spans, start ≤ s.1) :
    highlightBytes? (Utf8.encode line) (Utf8.offset line start) (byteSpans line spans)
      = some (Utf8.encode (highlightFrom line start spans)) := by
  induction spans generalizing start with
  | nil =>
    have hend : Utf8.offset line line.length = (Utf8.encode line).length := by
      rw [Utf8.offset, List.take_length]
    have hstretch := stretch?_encode line hlength
    rw [hend, List.take_length] at hstretch
    exact hstretch
  | cons s spans ih =>
    obtain ⟨first, stop⟩ := s
    obtain ⟨⟨hle, hstop⟩, hlater, hrest⟩ := inOrder_cons.mp h
    rw [List.forall_mem_cons] at hstart
    rw [byteSpans, List.map_cons, highlightBytes?, stretch?_encode line hle]
    have hfound : ((line.take stop).drop first).length = stop - first := length_drop_take hstop
    rcases Nat.eq_or_lt_of_le hle with rfl | hlt
    · have hnil : (line.take first).drop first = [] := List.length_eq_zero_iff.mp (by omega)
      have hempties := ih hrest hlength hstart.2
      rw [highlightFrom, if_pos rfl, ← hempties]
      simp [hnil, byteSpans]
    · have hne : (line.take stop).drop first ≠ [] := by
        rw [← List.length_pos_iff]
        omega
      have hafter := ih hrest hstop hlater
      rw [byteSpans] at hafter
      rw [highlightFrom, if_neg (Nat.ne_of_lt hlt), stretch?_encode line hstart.1, hafter]
      simp [encode_eq_nil_iff, hne, Ink.red_eq]

/-! ### Lines in colour -/

/-- **What colour does to a line.** -/
structure Colored (spans : Text → List (Nat × Nat)) (line : Text) : Prop where
  /-- Where a match that is not empty begins there is a code, and where it ends another. -/
  spelled : highlight spans line = (inked (spans line) line).flatMap Ink.spell
  /-- Each of these matches has one code of each kind. -/
  counted : ∀ x : Ink, x.char? = none →
    (inked (spans line) line).count x = (spans line).countP fun s => s.1 < s.2
  /-- Without the codes the line is left. -/
  chars : (inked (spans line) line).filterMap Ink.char? = line
  /-- The line is cut within its bytes and between characters only. -/
  cut : highlightBytes? (Utf8.encode line) 0 (byteSpans line (spans line))
    = some (Utf8.encode (highlight spans line))
  /-- Nothing is added if all matches are empty. -/
  plain : (∀ s ∈ spans line, s.1 = s.2) → highlight spans line = line

theorem colored {spans : Text → List (Nat × Nat)} {line : Text} (h : InOrder line (spans line)) :
    Colored spans line := by
  have hstart : ∀ s ∈ spans line, 0 ≤ s.1 := fun s _ => Nat.zero_le s.1
  refine ⟨highlight_eq h, fun x hx => ?_, filterMap_char?_inkedFrom _ 0 line, ?_, fun hempty => ?_⟩
  · exact count_inkedFrom hx h hstart
  · exact highlightBytes?_encode h (Nat.zero_le _) hstart
  · have hcodes : ∀ i, 0 ≤ i → codesAt (spans line) i = codesAt [] i := by
      intro i _
      generalize spans line = row at hempty
      induction row with
      | nil => rfl
      | cons s row ih =>
        rw [List.forall_mem_cons] at hempty
        rw [codesAt_cons_of_ne fun hlt => absurd hempty.1 (Nat.ne_of_lt hlt), ih hempty.2]
    rw [highlight_eq h, inked, inkedFrom_congr hcodes, inkedFrom_nil, Ink.flatMap_spell_map_char]

/-- **Colour adds codes to the lines that are printed, and nothing else.**  If the matches of a line
are in order, the same lines are printed in the same order with colour and without.  A matching line
has a code before each match that is not empty and one after it, and is the line without them; a
line whose matches are all empty stays as it is, and so does every line that does not match.  In the
bytes of the line no cut is out of range, and none is inside of a character. -/
theorem selectLines_colored {spans : Text → List (Nat × Nat)}
    (h : ∀ line, InOrder line (spans line)) (isMatch : Text → Bool) (n : Nat) (lines : List Text) :
    selectLines isMatch spans n false lines
      = (reachedLines isMatch n lines).flatMap (fun x => x.1 ++ ['\n']) ∧
    selectLines isMatch spans n true lines
      = (reachedLines isMatch n lines).flatMap
        (fun x => (if isMatch x.1 then highlight spans x.1 else x.1) ++ ['\n']) ∧
    ∀ line, Colored spans line := by
  refine ⟨?_, ?_, fun line => colored (h line)⟩
  · simpa [selectLines, reachedLines] using selectLinesFrom_eq id (Nat.zero_le n) lines
  · simpa [selectLines, reachedLines] using
      selectLinesFrom_eq (highlight spans) (Nat.zero_le n) lines

/-- Matches side by side, of a character that has two bytes, and a line of their context. -/
theorem selectLines_colored_accents :
    let r : Regex := ⟨.one (.singleton 'é'), (Regex.Pattern.one (.singleton 'é')).program⟩
    let lines : List Text := ["aéé".toList, "b".toList, "c".toList]
    (∀ line, InOrder line (r.spans line)) ∧
    selectLines r.occursIn r.spans 1 false lines = "aéé\nb\n".toList ∧
    selectLines r.occursIn r.spans 1 true lines
      = ['a'] ++ red ['é'] ++ red ['é'] ++ "\nb\n".toList ∧
    ∀ line, Colored r.spans line := by
  intro r lines
  obtain ⟨hplain, hcolored, hlines⟩ :=
    selectLines_colored (fun line => r.inOrder_spans line) r.occursIn 1 lines
  have hreached : reachedLines r.occursIn 1 lines = [("aéé".toList, 0), ("b".toList, 1)] := by
    decide +kernel
  -- the places that have been seen are hashed, and a hash is not computed by the kernel
  have hspans : r.spans "aéé".toList = [(1, 2), (2, 3)] := by
    have hprogram : r.program = ⟨#[.accept, .one (.singleton 'é') 0], 1⟩ := rfl
    have hother : (Unicode.CharSet.singleton 'é').has 'a' = false := by decide
    have hsame : (Unicode.CharSet.singleton 'é').has 'é' = true := by decide
    rw [Regex.spans, hprogram]
    simp [Regex.Program.spans, Regex.Program.spansFrom, Regex.Program.nextMatch,
      Regex.Program.matchFrom, Regex.Program.matchWithin, Regex.Program.search,
      Regex.Program.fuel, Regex.Program.targets, hother, hsame]
  refine ⟨fun line => r.inOrder_spans line, hplain.trans ?_, hcolored.trans ?_, hlines⟩
  · rw [hreached]
    decide
  · rw [hreached, List.flatMap_cons, List.flatMap_singleton, if_pos (by decide),
      if_neg (by decide), highlight, hspans]
    decide

end CommandShell
