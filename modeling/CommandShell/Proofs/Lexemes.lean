import CommandShell.Proofs.Marks
import CommandShell.Text.Blank

/-!
# The lexemes of a line

A line is a row of *lexemes*: blanks, pipe signs and segments of words.  A segment is a plain
character, an escape, a kept backslash, or a quoted string.  Whether a backslash escapes is
decided by the character after it, so a lexeme is legal only before certain texts, and that is
the one way in which what follows a lexeme matters.

A line that opens a quote and never closes it is a row of lexemes up to that quote.

## Main definitions

* `RowFits` — every item of a row fits what follows it.
* `QuotedItem`, `Segment`, `Lexeme` — the lexemes, with `spell`, `Fits` and `marks`.
* `OpenQuote` — a quote without a partner, and all that follows.

## Main results

* `exists_lexemes` — every text is a row of lexemes, up to a quote without a partner.
* `lexemes_unique` — it is so in one way only.
-/

namespace CommandShell

/-! ### Rows of items -/

section Rows

variable {α : Type} {spell : α → Text} {fits : α → Text → Prop}

/-- Every item of a row fits the text that follows it, which ends in `rest`. -/
def RowFits (spell : α → Text) (fits : α → Text → Prop) : List α → Text → Prop
  | [], _ => True
  | x :: xs, rest => fits x (xs.flatMap spell ++ rest) ∧ RowFits spell fits xs rest

instance [∀ x rest, Decidable (fits x rest)] : ∀ xs rest, Decidable (RowFits spell fits xs rest)
  | [], _ => inferInstanceAs (Decidable True)
  | x :: xs, rest =>
    have := instDecidableRowFits xs rest
    inferInstanceAs (Decidable (fits x (xs.flatMap spell ++ rest) ∧ RowFits spell fits xs rest))

@[simp] theorem rowFits_nil (rest : Text) : RowFits spell fits [] rest := trivial

@[simp] theorem rowFits_cons (x : α) (xs : List α) (rest : Text) :
    RowFits spell fits (x :: xs) rest
      ↔ fits x (xs.flatMap spell ++ rest) ∧ RowFits spell fits xs rest := Iff.rfl

theorem rowFits_append (xs ys : List α) (rest : Text) :
    RowFits spell fits (xs ++ ys) rest
      ↔ RowFits spell fits xs (ys.flatMap spell ++ rest) ∧ RowFits spell fits ys rest := by
  induction xs with
  | nil => simp
  | cons x xs ih => simp [ih, and_assoc]

/-- If an item can be cut off the front of every text but some, then every text is a row of
items up to one of those. -/
theorem exists_row {stop : Text → Prop}
    (hfirst : ∀ t, stop t ∨ ∃ x rest, t = spell x ++ rest ∧ spell x ≠ [] ∧ fits x rest)
    (t : Text) :
    ∃ xs tail, t = xs.flatMap spell ++ tail ∧ RowFits spell fits xs tail ∧ stop tail := by
  -- every item takes at least one character
  have key : ∀ n (t : Text), t.length = n →
      ∃ xs tail, t = xs.flatMap spell ++ tail ∧ RowFits spell fits xs tail ∧ stop tail := by
    intro n
    induction n using Nat.strongRecOn with
    | _ n ih =>
      intro t hn
      rcases hfirst t with hstop | ⟨x, rest, ht, hx, hfit⟩
      · exact ⟨[], t, rfl, trivial, hstop⟩
      · have hpos : 0 < (spell x).length := List.length_pos_iff.mpr hx
        have hlen : t.length = (spell x).length + rest.length := by rw [ht, List.length_append]
        obtain ⟨xs, tail, hrest, hrow, hstop⟩ := ih rest.length (by omega) rest rfl
        refine ⟨x :: xs, tail, ?_, ?_, hstop⟩
        · rw [ht, hrest, List.flatMap_cons, List.append_assoc]
        · exact ⟨hrest ▸ hfit, hrow⟩
  exact key t.length t rfl

/-- If the first item is decided by the text, then so are all items up to a stop. -/
theorem row_unique (stop : Text → Prop)
    (hfirst : ∀ x y r s, fits x r → fits y s → spell x ++ r = spell y ++ s → x = y ∧ r = s)
    (hstop : ∀ x r, fits x r → ¬ stop (spell x ++ r)) :
    ∀ {xs ys : List α} {t u : Text}, RowFits spell fits xs t → RowFits spell fits ys u →
      stop t → stop u → xs.flatMap spell ++ t = ys.flatMap spell ++ u → xs = ys ∧ t = u := by
  intro xs
  induction xs with
  | nil =>
    intro ys t u _ hys ht hu h
    cases ys with
    | nil => exact ⟨rfl, h⟩
    | cons y ys =>
      rw [List.flatMap_nil, List.nil_append, List.flatMap_cons, List.append_assoc] at h
      exact absurd (h ▸ ht) (hstop y _ hys.1)
  | cons x xs ih =>
    intro ys t u hxs hys ht hu h
    cases ys with
    | nil =>
      rw [List.flatMap_nil, List.nil_append, List.flatMap_cons, List.append_assoc] at h
      exact absurd (h ▸ hu) (hstop x _ hxs.1)
    | cons y ys =>
      rw [List.flatMap_cons, List.flatMap_cons, List.append_assoc, List.append_assoc] at h
      obtain ⟨rfl, hrest⟩ := hfirst x y _ _ hxs.1 hys.1 h
      obtain ⟨rfl, htail⟩ := ih hxs.2 hys.2 ht hu hrest
      exact ⟨rfl, htail⟩

/-- What fits before a text fits before every front of it, if items do. -/
theorem RowFits.front (hfront : ∀ x t u, fits x (t ++ u) → fits x t) {xs : List α} {t u : Text}
    (h : RowFits spell fits xs (t ++ u)) : RowFits spell fits xs t := by
  induction xs with
  | nil => trivial
  | cons x xs ih =>
    obtain ⟨hx, hxs⟩ := h
    rw [← List.append_assoc] at hx
    exact ⟨hfront x _ u hx, ih hxs⟩

/-- A stretch of a row fits what follows it in the row. -/
theorem RowFits.exists_of_infix {xs ys : List α} (hys : ys <:+: xs) {rest : Text}
    (h : RowFits spell fits xs rest) : ∃ t, RowFits spell fits ys t := by
  obtain ⟨before, after, rfl⟩ := hys
  rw [rowFits_append, rowFits_append] at h
  exact ⟨_, h.1.2⟩

end Rows

/-! ### Lexemes -/

/-- A backquote. -/
def backquote : Char := Char.ofNat 0x60

/-- Outside quotes, the characters that a backslash escapes. -/
def EscapedPlain (c : Char) : Prop := isBlank c = true ∨ c ∈ ['|', '$', '"', '\'', '\\']

/-- Between double quotes, the characters that a backslash escapes. -/
def EscapedDouble (c : Char) : Prop := c ∈ ['$', backquote, '"', '\\', '\n']

instance : DecidablePred EscapedPlain := fun _ => inferInstanceAs (Decidable (_ ∨ _))

instance : DecidablePred EscapedDouble := fun _ => inferInstanceAs (Decidable (_ ∈ _))

/-- What stands between double quotes. -/
inductive QuotedItem where
  /-- A backslash and the character that it escapes. -/
  | escape (c : Char)
  /-- A backslash that escapes nothing. -/
  | backslash
  /-- Any other character. -/
  | char (c : Char)
  deriving DecidableEq, Repr

namespace QuotedItem

/-- How an item is written. -/
def spell : QuotedItem → Text
  | .escape c => ['\\', c]
  | .backslash => ['\\']
  | .char c => [c]

/-- An item is legal before a text. -/
def Fits : QuotedItem → Text → Prop
  | .escape c, _ => EscapedDouble c
  | .backslash, rest => ∀ c ∈ rest.head?, ¬ EscapedDouble c
  | .char c, _ => c ≠ '"' ∧ c ≠ '\\'

/-- The character that an item stands for, with its mode. -/
def mark : QuotedItem → Mark
  | .escape c => ⟨c, false, true⟩
  | .backslash => ⟨'\\', false, true⟩
  | .char c => ⟨c, true, true⟩

instance : ∀ i rest, Decidable (Fits i rest)
  | .escape c, _ => inferInstanceAs (Decidable (EscapedDouble c))
  | .backslash, rest => inferInstanceAs (Decidable (∀ c ∈ rest.head?, ¬ EscapedDouble c))
  | .char c, _ => inferInstanceAs (Decidable (c ≠ '"' ∧ c ≠ '\\'))

end QuotedItem

/-- A row of items is legal before a text. -/
abbrev QuotedFits : List QuotedItem → Text → Prop := RowFits QuotedItem.spell QuotedItem.Fits

/-- A piece of a word. -/
inductive Segment where
  /-- A character outside quotes that stands for itself. -/
  | plain (c : Char)
  /-- A backslash outside quotes and the character that it escapes. -/
  | escape (c : Char)
  /-- A backslash outside quotes that escapes nothing. -/
  | backslash
  /-- A text between single quotes. -/
  | single (t : Text)
  /-- Items between double quotes. -/
  | double (items : List QuotedItem)
  deriving DecidableEq, Repr

namespace Segment

/-- How a segment is written. -/
def spell : Segment → Text
  | .plain c => [c]
  | .escape c => ['\\', c]
  | .backslash => ['\\']
  | .single t => '\'' :: (t ++ ['\''])
  | .double items => '"' :: (items.flatMap QuotedItem.spell ++ ['"'])

/-- A segment is legal before a text. -/
def Fits : Segment → Text → Prop
  | .plain c, _ => isBlank c = false ∧ c ∉ ['|', '\'', '"', '\\']
  | .escape c, _ => EscapedPlain c
  | .backslash, rest => ∀ c ∈ rest.head?, ¬ EscapedPlain c
  | .single t, _ => '\'' ∉ t
  | .double items, rest => QuotedFits items ('"' :: rest)

/-- The characters that a segment stands for, with their modes. -/
def marks : Segment → List Mark
  | .plain c => [⟨c, true, false⟩]
  | .escape c => [⟨c, false, true⟩]
  | .backslash => [⟨'\\', false, false⟩]
  | .single t => t.map fun c => ⟨c, false, true⟩
  | .double items => items.map QuotedItem.mark

instance : ∀ s rest, Decidable (Fits s rest)
  | .plain c, _ => inferInstanceAs (Decidable (isBlank c = false ∧ c ∉ ['|', '\'', '"', '\\']))
  | .escape c, _ => inferInstanceAs (Decidable (EscapedPlain c))
  | .backslash, rest => inferInstanceAs (Decidable (∀ c ∈ rest.head?, ¬ EscapedPlain c))
  | .single t, _ => inferInstanceAs (Decidable ('\'' ∉ t))
  | .double items, rest => inferInstanceAs (Decidable (QuotedFits items ('"' :: rest)))

end Segment

/-- A blank, a pipe sign, or a segment. -/
inductive Lexeme where
  /-- A blank outside quotes. -/
  | blank (c : Char)
  /-- A pipe sign outside quotes. -/
  | pipe
  /-- A segment of a word. -/
  | segment (s : Segment)
  deriving DecidableEq, Repr

namespace Lexeme

/-- How a lexeme is written. -/
def spell : Lexeme → Text
  | .blank c => [c]
  | .pipe => ['|']
  | .segment s => s.spell

/-- A lexeme is legal before a text. -/
def Fits : Lexeme → Text → Prop
  | .blank c, _ => isBlank c = true
  | .pipe, _ => True
  | .segment s, rest => s.Fits rest

instance : ∀ l rest, Decidable (Fits l rest)
  | .blank c, _ => inferInstanceAs (Decidable (isBlank c = true))
  | .pipe, _ => inferInstanceAs (Decidable True)
  | .segment s, rest => inferInstanceAs (Decidable (s.Fits rest))

end Lexeme

/-- A row of lexemes is legal before a text. -/
abbrev LexemesFit : List Lexeme → Text → Prop := RowFits Lexeme.spell Lexeme.Fits

theorem head?_append_of_mem {t : Text} {c : Char} (h : c ∈ t.head?) (u : Text) :
    c ∈ (t ++ u).head? := by
  obtain ⟨rest, rfl⟩ := List.head?_eq_some_iff.mp h
  rfl

theorem QuotedItem.Fits.front : ∀ (i : QuotedItem) (t u : Text), i.Fits (t ++ u) → i.Fits t
  | .escape _, _, _, h => h
  | .backslash, _, u, h => fun c hc => h c (head?_append_of_mem hc u)
  | .char _, _, _, h => h

theorem Segment.Fits.front : ∀ (s : Segment) (t u : Text), s.Fits (t ++ u) → s.Fits t
  | .plain _, _, _, h => h
  | .escape _, _, _, h => h
  | .backslash, _, u, h => fun c hc => h c (head?_append_of_mem hc u)
  | .single _, _, _, h => h
  | .double _, t, u, h => RowFits.front (t := '"' :: t) (u := u) QuotedItem.Fits.front h

theorem Lexeme.Fits.front : ∀ (l : Lexeme) (t u : Text), l.Fits (t ++ u) → l.Fits t
  | .blank _, _, _, h => h
  | .pipe, _, _, _ => trivial
  | .segment s, t, u, h => Segment.Fits.front s t u h

/-- A quote that is opened and never closed, with all that follows it. -/
def OpenQuote (t : Text) : Prop :=
  (∃ u, t = '\'' :: u ∧ '\'' ∉ u) ∨
    ∃ items, t = '"' :: items.flatMap QuotedItem.spell ∧ QuotedFits items []

/-! ### Cutting a text into lexemes -/

namespace QuotedItem

/-- The item at the front of a text is decided by the text. -/
theorem first_unique (i j : QuotedItem) (r s : Text) (hi : i.Fits r) (hj : j.Fits s)
    (h : i.spell ++ r = j.spell ++ s) : i = j ∧ r = s := by
  cases i <;> cases j <;> grind [spell, Fits]

/-- No item starts with the quote that ends the string. -/
theorem not_quote (i : QuotedItem) (r : Text) (hi : i.Fits r) :
    ¬ ∃ u, i.spell ++ r = '"' :: u := by
  cases i <;> simp_all [spell, Fits]

end QuotedItem

/-- Every text is a row of items up to a double quote or to its end. -/
theorem exists_items (t : Text) :
    ∃ items tail, t = items.flatMap QuotedItem.spell ++ tail ∧ QuotedFits items tail ∧
      (tail = [] ∨ ∃ u, tail = '"' :: u) := by
  refine exists_row (fun t => ?_) t
  cases t with
  | nil => exact .inl (.inl rfl)
  | cons c rest =>
    by_cases hq : c = '"'
    · exact .inl (.inr ⟨rest, by rw [hq]⟩)
    · right
      by_cases hb : c = '\\'
      · subst hb
        by_cases he : ∃ e ∈ rest.head?, EscapedDouble e
        · obtain ⟨e, hmem, he⟩ := he
          obtain ⟨u, rfl⟩ := List.head?_eq_some_iff.mp hmem
          exact ⟨.escape e, u, rfl, by simp [QuotedItem.spell], he⟩
        · exact ⟨.backslash, rest, rfl, by simp [QuotedItem.spell],
            fun e hmem hesc => he ⟨e, hmem, hesc⟩⟩
      · exact ⟨.char c, rest, rfl, by simp [QuotedItem.spell], hq, hb⟩

/-- The items up to a double quote are decided by the text. -/
theorem items_unique {is js : List QuotedItem} {r s : Text} (hi : QuotedFits is ('"' :: r))
    (hj : QuotedFits js ('"' :: s))
    (h : is.flatMap QuotedItem.spell ++ '"' :: r = js.flatMap QuotedItem.spell ++ '"' :: s) :
    is = js ∧ r = s := by
  have hrow := row_unique (fun t => ∃ u, t = '"' :: u) QuotedItem.first_unique
    QuotedItem.not_quote hi hj ⟨r, rfl⟩ ⟨s, rfl⟩ h
  exact ⟨hrow.1, (List.cons.inj hrow.2).2⟩

namespace Segment

/-- A segment starts with a character that is neither blank nor a pipe sign. -/
theorem spell_head (s : Segment) (r : Text) (hs : s.Fits r) :
    ∃ c t, s.spell = c :: t ∧ isBlank c = false ∧ c ≠ '|' := by
  cases s with
  | plain c =>
    obtain ⟨hb, hc⟩ := hs
    exact ⟨c, [], rfl, hb, fun h => hc (by simp [h])⟩
  | escape c => exact ⟨'\\', [c], rfl, rfl, by decide⟩
  | backslash => exact ⟨'\\', [], rfl, rfl, by decide⟩
  | single t => exact ⟨'\'', _, rfl, rfl, by decide⟩
  | double items => exact ⟨'"', _, rfl, rfl, by decide⟩

/-- The segment at the front of a text is decided by the text. -/
theorem first_unique (x y : Segment) (r s : Text) (hx : x.Fits r) (hy : y.Fits s)
    (h : x.spell ++ r = y.spell ++ s) : x = y ∧ r = s := by
  cases x <;> cases y <;>
    simp only [spell, Fits, List.cons_append, List.append_assoc, List.nil_append] at hx hy h
  case single.single t u =>
    -- both are what stands before the first single quote
    have ht : cutAt '\'' (t ++ '\'' :: r) = some (t, r) := cutAt_eq_some_iff.mpr ⟨rfl, hx⟩
    have hu : cutAt '\'' (t ++ '\'' :: r) = some (u, s) :=
      cutAt_eq_some_iff.mpr ⟨(List.cons.inj h).2, hy⟩
    have heq := Option.some.inj (ht.symm.trans hu)
    exact ⟨congrArg Segment.single (congrArg Prod.fst heq), congrArg Prod.snd heq⟩
  case double.double is js =>
    obtain ⟨rfl, rfl⟩ := items_unique hx hy (List.cons.inj h).2
    exact ⟨rfl, rfl⟩
  -- any other pair differs in the first character, or after a backslash in the second
  all_goals grind

end Segment

namespace Lexeme

theorem spell_ne_nil (l : Lexeme) : l.spell ≠ [] := by
  cases l with
  | blank c => exact List.cons_ne_nil _ _
  | pipe => exact List.cons_ne_nil _ _
  | segment s => cases s <;> exact List.cons_ne_nil _ _

/-- The lexeme at the front of a text is decided by the text. -/
theorem first_unique (x y : Lexeme) (r s : Text) (hx : x.Fits r) (hy : y.Fits s)
    (h : x.spell ++ r = y.spell ++ s) : x = y ∧ r = s := by
  cases x with
  | blank c =>
    have hc : isBlank c = true := hx
    cases y with
    | blank d =>
      obtain ⟨rfl, rfl⟩ := List.cons.inj h
      exact ⟨rfl, rfl⟩
    | pipe =>
      obtain ⟨rfl, -⟩ := List.cons.inj h
      exact absurd hc (by decide)
    | segment v =>
      -- no segment starts with a blank
      obtain ⟨d, t, hd, hblank, -⟩ := v.spell_head s hy
      rw [spell, spell, hd] at h
      rw [(List.cons.inj h).1, hblank] at hc
      exact absurd hc (by decide)
  | pipe =>
    cases y with
    | blank d =>
      have hd : isBlank d = true := hy
      obtain ⟨rfl, -⟩ := List.cons.inj h
      exact absurd hd (by decide)
    | pipe => exact ⟨rfl, (List.cons.inj h).2⟩
    | segment v =>
      obtain ⟨d, t, hd, -, hpipe⟩ := v.spell_head s hy
      rw [spell, spell, hd] at h
      exact absurd (List.cons.inj h).1.symm hpipe
  | segment u =>
    cases y with
    | blank d =>
      have hblank : isBlank d = true := hy
      obtain ⟨c, t, hc, hnot, -⟩ := u.spell_head r hx
      rw [spell, spell, hc] at h
      rw [← (List.cons.inj h).1, hnot] at hblank
      exact absurd hblank (by decide)
    | pipe =>
      obtain ⟨c, t, hc, -, hpipe⟩ := u.spell_head r hx
      rw [spell, spell, hc] at h
      exact absurd (List.cons.inj h).1 hpipe
    | segment v =>
      obtain ⟨rfl, hrest⟩ := u.first_unique v r s hx hy h
      exact ⟨rfl, hrest⟩

end Lexeme

/-- **A text is a row of lexemes** up to a quote without a partner, if it has one. -/
theorem exists_lexemes (t : Text) :
    ∃ ls tail, t = ls.flatMap Lexeme.spell ++ tail ∧ LexemesFit ls tail ∧
      (tail = [] ∨ OpenQuote tail) := by
  -- the first character decides the kind of lexeme, for a backslash also the second
  refine exists_row (fun t => ?_) t
  cases t with
  | nil => exact .inl (.inl rfl)
  | cons c rest =>
    by_cases hsingle : c = '\''
    · subst hsingle
      by_cases hmem : '\'' ∈ rest
      · obtain ⟨t, u, rfl, ht⟩ := List.eq_append_cons_of_mem hmem
        exact .inr ⟨.segment (.single t), u, by simp [Lexeme.spell, Segment.spell],
          Lexeme.spell_ne_nil _, ht⟩
      · exact .inl (.inr (.inl ⟨rest, rfl, hmem⟩))
    by_cases hdouble : c = '"'
    · subst hdouble
      obtain ⟨items, tail, rfl, hfit, rfl | ⟨u, rfl⟩⟩ := exists_items rest
      · exact .inl (.inr (.inr ⟨items, by rw [List.append_nil], hfit⟩))
      · exact .inr ⟨.segment (.double items), u, by simp [Lexeme.spell, Segment.spell],
          Lexeme.spell_ne_nil _, hfit⟩
    right
    by_cases hbackslash : c = '\\'
    · subst hbackslash
      by_cases he : ∃ e ∈ rest.head?, EscapedPlain e
      · obtain ⟨e, hmem, he⟩ := he
        obtain ⟨u, rfl⟩ := List.head?_eq_some_iff.mp hmem
        exact ⟨.segment (.escape e), u, rfl, Lexeme.spell_ne_nil _, he⟩
      · exact ⟨.segment .backslash, rest, rfl, Lexeme.spell_ne_nil _,
          fun e hmem hesc => he ⟨e, hmem, hesc⟩⟩
    by_cases hpipe : c = '|'
    · exact ⟨.pipe, rest, by rw [hpipe]; rfl, Lexeme.spell_ne_nil _, trivial⟩
    by_cases hblank : isBlank c = true
    · exact ⟨.blank c, rest, rfl, Lexeme.spell_ne_nil _, hblank⟩
    · refine ⟨.segment (.plain c), rest, rfl, Lexeme.spell_ne_nil _, ?_, ?_⟩
      · exact Bool.not_eq_true _ ▸ hblank
      · simp [hsingle, hdouble, hbackslash, hpipe]

/-- A text is a row of lexemes in at most one way. -/
theorem lexemes_unique {ls ms : List Lexeme} (hl : LexemesFit ls []) (hm : LexemesFit ms [])
    (h : ls.flatMap Lexeme.spell = ms.flatMap Lexeme.spell) : ls = ms := by
  refine (row_unique (fun t => t = []) Lexeme.first_unique ?_ hl hm rfl rfl (by rw [h])).1
  -- both rows end where the text does, since no lexeme is empty
  intro l r _ hnil
  exact l.spell_ne_nil (List.append_eq_nil_iff.mp hnil).1

end CommandShell
