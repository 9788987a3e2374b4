import CommandShell.Proofs.Decoding
import Mathlib.Logic.Basic

/-!
# Bytes that may be no text

Any byte string begins with the bytes of a character, or with an ill-formed piece, of which decoding
makes a single replacement character.  In both cases it goes on with the rest as if nothing had been
before.  What is to be shown of decoding is shown by induction on these pieces.

All bytes of an ill-formed piece are above 127, and so are those that a character under construction
may go on with.  So a byte below 128 stands for the character of its number, whatever is around it,
and to cut at such a byte before decoding is to cut at its character after it.

## Main results

* `Utf8.pieces_induction` — induction on the pieces of a byte string.
* `Utf8.decode?_eq_some_iff` — **well-formed byte strings are those of texts.**
* `Utf8.mem_decodeLossy_iff` — where characters below 128 are, in any byte string.
* `Utf8.decodeLossy_append_cons` — **decoding commutes with cutting at a byte below 128.**
-/

namespace CommandShell.Utf8

/-! ### The bytes of a character -/

theorem toNat_ofNat_of_valid {n : Nat} (h : n < 0xD800 ∨ 0xDFFF < n ∧ n < 0x110000) :
    (Char.ofNat n).toNat = n := by
  rw [Char.ofNat, dif_pos h]
  rfl

section Encoded

variable {k m n o p : Nat}

theorem encodeChar_one (h : k < 0x80) : encodeChar (Char.ofNat k) = [k.toUInt8] := by
  rw [encodeChar, toNat_ofNat_of_valid (by omega)]
  simp only [if_pos h]

theorem encodeChar_two (hm : m < 0x20) (hm' : 2 ≤ m) (hn : n < 0x40) :
    encodeChar (Char.ofNat (m * 0x40 + n))
      = [(0xC0 + m).toUInt8, (0x80 + n).toUInt8] := by
  have hfirst : (m * 0x40 + n) / 0x40 = m := by omega
  have hsecond : (m * 0x40 + n) % 0x40 = n := by omega
  rw [encodeChar, toNat_ofNat_of_valid (by omega)]
  simp only [if_neg (show ¬ m * 0x40 + n < 0x80 by omega),
    if_pos (show m * 0x40 + n < 0x800 by omega), hfirst, hsecond]

theorem encodeChar_three (hm : m < 0x10) (hn : n < 0x40) (ho : o < 0x40)
    (hlow : (if m = 0 then 0xA0 else 0x80) ≤ 0x80 + n)
    (hhigh : 0x80 + n ≤ if m = 0xD then 0x9F else 0xBF) :
    encodeChar (Char.ofNat ((m * 0x40 + n) * 0x40 + o))
      = [(0xE0 + m).toUInt8, (0x80 + n).toUInt8, (0x80 + o).toUInt8] := by
  have hrange : 0x800 ≤ (m * 0x40 + n) * 0x40 + o ∧ (m * 0x40 + n) * 0x40 + o < 0x10000 ∧
      ((m * 0x40 + n) * 0x40 + o < 0xD800 ∨ 0xDFFF < (m * 0x40 + n) * 0x40 + o) := by
    split at hlow <;> split at hhigh <;> omega
  rw [encodeChar, toNat_ofNat_of_valid (by omega)]
  generalize hk : (m * 0x40 + n) * 0x40 + o = k at hrange ⊢
  have hfirst : k / 0x1000 = m := by omega
  have hsecond : k / 0x40 % 0x40 = n := by omega
  have hthird : k % 0x40 = o := by omega
  simp only [if_neg (show ¬ k < 0x80 by omega), if_neg (show ¬ k < 0x800 by omega),
    if_pos hrange.2.1, hfirst, hsecond, hthird]

theorem encodeChar_four (hm : m < 5) (hn : n < 0x40) (ho : o < 0x40) (hp : p < 0x40)
    (hlow : (if m = 0 then 0x90 else 0x80) ≤ 0x80 + n)
    (hhigh : 0x80 + n ≤ if m = 4 then 0x8F else 0xBF) :
    encodeChar (Char.ofNat (((m * 0x40 + n) * 0x40 + o) * 0x40 + p))
      = [(0xF0 + m).toUInt8, (0x80 + n).toUInt8, (0x80 + o).toUInt8, (0x80 + p).toUInt8] := by
  have hrange : 0x10000 ≤ ((m * 0x40 + n) * 0x40 + o) * 0x40 + p ∧
      ((m * 0x40 + n) * 0x40 + o) * 0x40 + p < 0x110000 := by
    split at hlow <;> split at hhigh <;> omega
  rw [encodeChar, toNat_ofNat_of_valid (by omega)]
  generalize hk : ((m * 0x40 + n) * 0x40 + o) * 0x40 + p = k at hrange ⊢
  have hfirst : k / 0x40000 = m := by omega
  have hsecond : k / 0x1000 % 0x40 = n := by omega
  have hthird : k / 0x40 % 0x40 = o := by omega
  have hfourth : k % 0x40 = p := by omega
  simp only [if_neg (show ¬ k < 0x80 by omega), if_neg (show ¬ k < 0x800 by omega),
    if_neg (show ¬ k < 0x10000 by omega), hfirst, hsecond, hthird, hfourth]

end Encoded

/-! ### Pieces -/

/-- How a byte string begins. -/
inductive FirstPiece (b : Bytes) : Prop
  /-- With the bytes of a character. -/
  | char (c : Char) (rest : Bytes) (hb : b = encodeChar c ++ rest)
  /-- With bytes above 127 that make up one ill-formed piece. -/
  | illFormed (front rest : Bytes) (hne : front ≠ []) (hhigh : ∀ x ∈ front, 0x80 ≤ x.toNat)
      (hb : b = front ++ rest) (hpieces : pieces b = none :: pieces rest)

/-- A byte that cannot continue the character under construction is read afresh. -/
theorem piecesFrom_of_not_continues {low high : Nat} {x : UInt8}
    (h : ¬ (low ≤ x.toNat ∧ x.toNat ≤ high)) (owed bits : Nat) (rest : Bytes) :
    piecesFrom (.inside owed low high bits) (x :: rest) = none :: pieces (x :: rest) := by
  rw [piecesFrom_cons, step.eq_def]
  simp only [if_neg h]
  rfl

/-- A character under construction is continued by the next byte, or ends as an ill-formed piece
before it. -/
theorem piecesFrom_inside {low high : Nat} (hlow : 0x80 ≤ low) (hhigh : high ≤ 0xBF)
    (owed bits : Nat) (b : Bytes) :
    (∃ n rest, n < 0x40 ∧ low ≤ 0x80 + n ∧ 0x80 + n ≤ high ∧ b = (0x80 + n).toUInt8 :: rest) ∨
      piecesFrom (.inside owed low high bits) b = none :: pieces b := by
  cases b with
  | nil => exact .inr rfl
  | cons x rest =>
    by_cases hx : low ≤ x.toNat ∧ x.toNat ≤ high
    · refine .inl ⟨x.toNat - 0x80, rest, by omega, by omega, by omega, ?_⟩
      rw [Nat.add_sub_of_le (by omega), Nat.toUInt8_eq, UInt8.ofNat_toNat]
    · exact .inr (piecesFrom_of_not_continues hx owed bits rest)

/-- The bytes `front` of a character and those that are owed after them spell a character, whatever
these are.  The next of them is between `low` and `high`, and `bits` are what is known so far. -/
def Spells (front : Bytes) : (owed low high bits : Nat) → Prop
  | 0, low, high, bits => ∀ n < 0x40, low ≤ 0x80 + n → 0x80 + n ≤ high →
      encodeChar (Char.ofNat (bits * 0x40 + n)) = front ++ [(0x80 + n).toUInt8]
  | owed + 1, low, high, bits => ∀ n < 0x40, low ≤ 0x80 + n → 0x80 + n ≤ high →
      Spells (front ++ [(0x80 + n).toUInt8]) owed 0x80 0xBF (bits * 0x40 + n)

/-- A byte string that begins with a character under construction. -/
theorem firstPiece_of_inside {front b : Bytes} {owed low high bits : Nat} (hlow : 0x80 ≤ low)
    (hhigh : high ≤ 0xBF) (hne : front ≠ []) (habove : ∀ x ∈ front, 0x80 ≤ x.toNat)
    (hspells : Spells front owed low high bits)
    (hread : pieces (front ++ b) = piecesFrom (.inside owed low high bits) b) :
    FirstPiece (front ++ b) := by
  -- the character is completed byte by byte, unless a byte is missing
  induction owed generalizing front b low high bits with
  | zero =>
    rcases piecesFrom_inside hlow hhigh 0 bits b with ⟨n, rest, hn, hl, hh, rfl⟩ | hnone
    · refine .char _ rest (?_ : _ = encodeChar (Char.ofNat (bits * 0x40 + n)) ++ rest)
      rw [hspells n hn hl hh, List.append_assoc, List.singleton_append]
    · exact .illFormed front b hne habove rfl (hread.trans hnone)
  | succ owed ih =>
    rcases piecesFrom_inside hlow hhigh (owed + 1) bits b with ⟨n, rest, hn, hl, hh, rfl⟩ | hnone
    · have hsplit : front ++ (0x80 + n).toUInt8 :: rest
          = front ++ [(0x80 + n).toUInt8] ++ rest := by
        rw [List.append_assoc, List.singleton_append]
      have hlonger : ∀ x ∈ front ++ [(0x80 + n).toUInt8], 0x80 ≤ x.toNat := by
        intro x hx
        rcases List.mem_append.mp hx with hx | hx
        · exact habove x hx
        · rw [List.mem_singleton.mp hx, toNat_toUInt8 (by omega)]
          omega
      have hnext : pieces (front ++ [(0x80 + n).toUInt8] ++ rest)
          = piecesFrom (.inside owed 0x80 0xBF (bits * 0x40 + n)) rest := by
        rw [← hsplit, hread, piecesFrom_more rest hn hl hh]
      rw [hsplit]
      exact ih (Nat.le_refl 0x80) (Nat.le_refl 0xBF) (by simp) hlonger (hspells n hn hl hh) hnext
    · exact .illFormed front b hne habove rfl (hread.trans hnone)

/-- **Any byte string begins with a character or with an ill-formed piece.** -/
theorem firstPiece {b : Bytes} (h : b ≠ []) : FirstPiece b := by
  obtain ⟨x, b, rfl⟩ := List.exists_cons_of_ne_nil h
  obtain ⟨k, hk, rfl⟩ : ∃ k < 0x100, x = k.toUInt8 :=
    ⟨x.toNat, x.toNat_lt, by rw [Nat.toUInt8_eq, UInt8.ofNat_toNat]⟩
  have hpieces := pieces_first b hk
  by_cases hone : k < 0x80
  · exact .char (Char.ofNat k) b (by rw [encodeChar_one hone, List.singleton_append])
  have habove : ∀ y ∈ [k.toUInt8], 0x80 ≤ y.toNat := by
    intro y hy
    rw [List.mem_singleton.mp hy, toNat_toUInt8 hk]
    omega
  have hlead {owed low high bits : Nat} (hfirst : first k = (.inside owed low high bits, []))
      (hlow : 0x80 ≤ low) (hhigh : high ≤ 0xBF) (hspells : Spells [k.toUInt8] owed low high bits) :
      FirstPiece (k.toUInt8 :: b) := by
    rw [hfirst] at hpieces
    exact firstPiece_of_inside hlow hhigh (List.cons_ne_nil _ _) habove hspells hpieces
  by_cases hstray : k < 0xC2 ∨ 0xF5 ≤ k
  · have hfirst : first k = (.start, [none]) := by
      rw [first, if_neg hone]
      rcases hstray with hk | hk
      · rw [if_pos hk]
      · rw [if_neg (by omega), if_neg (by omega), if_neg (by omega), if_neg (by omega)]
    rw [hfirst] at hpieces
    exact .illFormed [k.toUInt8] b (List.cons_ne_nil _ _) habove rfl hpieces
  by_cases htwo : k < 0xE0
  · obtain ⟨m, rfl⟩ := Nat.exists_eq_add_of_le (show 0xC0 ≤ k by omega)
    refine hlead (first_two m (by omega) (by omega)) (Nat.le_refl _) (Nat.le_refl _) ?_
    intro n hn _ _
    exact encodeChar_two (by omega) (by omega) hn
  by_cases hthree : k < 0xF0
  · obtain ⟨m, rfl⟩ := Nat.exists_eq_add_of_le (show 0xE0 ≤ k by omega)
    refine hlead (first_three m (by omega)) (by split <;> omega) (by split <;> omega) ?_
    intro n hn hlow hhigh o ho _ _
    exact encodeChar_three (by omega) hn ho hlow hhigh
  · obtain ⟨m, rfl⟩ := Nat.exists_eq_add_of_le (show 0xF0 ≤ k by omega)
    refine hlead (first_four m (by omega)) (by split <;> omega) (by split <;> omega) ?_
    intro n hn hlow hhigh o ho _ _ p hp _ _
    exact encodeChar_four (by omega) hn ho hp hlow hhigh

theorem encodeChar_ne_nil (c : Char) : encodeChar c ≠ [] := by
  rw [encodeChar]
  repeat' split
  all_goals exact List.cons_ne_nil _ _

/-- **Induction on the pieces of a byte string.** -/
@[elab_as_elim]
theorem pieces_induction {motive : Bytes → Prop} (b : Bytes) (nil : motive [])
    (char : ∀ c rest, motive rest → motive (encodeChar c ++ rest))
    (illFormed : ∀ front rest, front ≠ [] → (∀ x ∈ front, 0x80 ≤ x.toNat) →
      pieces (front ++ rest) = none :: pieces rest → motive rest → motive (front ++ rest)) :
    motive b := by
  have hshorter {front rest : Bytes} (hfront : front ≠ []) :
      rest.length < (front ++ rest).length := by
    have := List.length_pos_iff.mpr hfront
    rw [List.length_append]
    omega
  induction hlength : b.length using Nat.strongRecOn generalizing b with
  | ind n ih =>
    subst hlength
    rcases eq_or_ne b [] with rfl | hne
    · exact nil
    · cases firstPiece hne with
      | char c rest hb =>
        subst hb
        exact char c rest (ih rest.length (hshorter (encodeChar_ne_nil c)) rest rfl)
      | illFormed front rest hfront hhigh hb hpieces =>
        subst hb
        exact illFormed front rest hfront hhigh hpieces
          (ih rest.length (hshorter hfront) rest rfl)

/-! ### Well-formed byte strings -/

section Decoding

variable {b rest : Bytes}

theorem decodeLossy_of_char {c : Char} (h : pieces b = some c :: pieces rest) :
    decodeLossy b = c :: decodeLossy rest := by
  rw [decodeLossy, h]
  rfl

theorem decodeLossy_of_illFormed (h : pieces b = none :: pieces rest) :
    decodeLossy b = replacement :: decodeLossy rest := by
  rw [decodeLossy, h]
  rfl

theorem decode?_of_char {c : Char} (h : pieces b = some c :: pieces rest) :
    decode? b = (decode? rest).map (c :: ·) := by
  rw [decode?, h, List.mapM_cons, decode?]
  cases (pieces rest).mapM id <;> rfl

theorem decode?_of_illFormed (h : pieces b = none :: pieces rest) : decode? b = none := by
  rw [decode?, h, List.mapM_cons]
  rfl

/-- **Well-formed byte strings are those of texts.** -/
theorem decode?_eq_some_iff {t : Text} : decode? b = some t ↔ b = encode t := by
  constructor
  · intro h
    induction b using pieces_induction generalizing t with
    | nil =>
      obtain rfl : [] = t := Option.some.inj h
      rfl
    | char c rest ih =>
      rw [decode?_of_char (pieces_encodeChar_append c rest)] at h
      obtain ⟨t, hrest, rfl⟩ := Option.map_eq_some_iff.mp h
      rw [encode_cons, ← ih hrest]
    | illFormed front rest _ _ hpieces _ =>
      rw [decode?_of_illFormed hpieces] at h
      cases h
  · rintro rfl
    induction t with
    | nil => rfl
    | cons c t ih =>
      rw [encode_cons, decode?_of_char (pieces_encodeChar_append c (encode t)), ih]
      rfl

end Decoding

/-! ### Bytes below 128 -/

/-- **A character below 128 is found where its byte is**, in any byte string. -/
theorem mem_decodeLossy_iff {c : Char} (hc : c.toNat < 0x80) (b : Bytes) :
    c ∈ decodeLossy b ↔ c.toNat.toUInt8 ∈ b := by
  have hbyte := toNat_toUInt8 (show c.toNat < 0x100 by omega)
  induction b using pieces_induction with
  | nil => simp
  | char d rest ih =>
    have hmem := mem_encodeChar_iff (b := c.toNat.toUInt8) (by omega) d
    rw [hbyte, Char.toNat_inj, eq_comm] at hmem
    rw [decodeLossy_of_char (pieces_encodeChar_append d rest), List.mem_cons, List.mem_append, hmem]
    exact or_congr_right ih
  | illFormed front rest _ hhigh hpieces ih =>
    have hfront : c.toNat.toUInt8 ∉ front := by
      intro hmem
      have := hhigh _ hmem
      omega
    have hne : c ≠ replacement := by
      rintro rfl
      exact absurd hc (by decide)
    rw [decodeLossy_of_illFormed hpieces, List.mem_cons, List.mem_append, or_iff_right hne,
      or_iff_right hfront]
    exact ih

/-- A byte below 128 does not continue a character. -/
def State.EndsBelow : State → Prop
  | .start => True
  | .inside _ low _ _ => 0x80 ≤ low

theorem State.endsBelow_start : State.start.EndsBelow := trivial

theorem endsBelow_first (n : Nat) : (first n).1.EndsBelow := by
  simp only [first]
  repeat' split
  all_goals first | exact trivial | (simp only [State.EndsBelow]; omega)

/-- No state of the machine has a byte below 128 continue a character. -/
theorem endsBelow_step {st : State} (h : st.EndsBelow) (x : UInt8) : (step st x).1.EndsBelow := by
  cases st with
  | start => exact endsBelow_first x.toNat
  | inside owed low high bits =>
    simp only [step]
    split
    · cases owed with
      | zero => exact trivial
      | succ owed => exact Nat.le_refl 0x80
    · exact endsBelow_first x.toNat

theorem piecesFrom_append_cons {c : Char} (hc : c.toNat < 0x80) {st : State} (h : st.EndsBelow)
    (xs ys : Bytes) :
    piecesFrom st (xs ++ c.toNat.toUInt8 :: ys) = piecesFrom st xs ++ some c :: pieces ys := by
  induction xs generalizing st with
  | nil =>
    have hbyte := toNat_toUInt8 (show c.toNat < 0x100 by omega)
    have hstart : pieces (c.toNat.toUInt8 :: ys) = some c :: pieces ys := by
      rw [pieces_first ys (by omega), first, if_pos hc, Char.ofNat_toNat]
      rfl
    cases st with
    | start => exact hstart
    | inside owed low high bits =>
      have hout : ¬ (low ≤ c.toNat.toUInt8.toNat ∧ c.toNat.toUInt8.toNat ≤ high) := by
        rintro ⟨hlow, -⟩
        have hlegal : 0x80 ≤ low := h
        omega
      rw [List.nil_append, piecesFrom_of_not_continues hout, hstart]
      rfl
  | cons x xs ih =>
    rw [List.cons_append, piecesFrom_cons, piecesFrom_cons, ih (endsBelow_step h x),
      List.append_assoc]

/-- **Decoding commutes with cutting at a byte below 128.** -/
theorem decodeLossy_append_cons {c : Char} (hc : c.toNat < 0x80) (xs ys : Bytes) :
    decodeLossy (xs ++ c.toNat.toUInt8 :: ys) = decodeLossy xs ++ c :: decodeLossy ys := by
  rw [decodeLossy, pieces, piecesFrom_append_cons hc State.endsBelow_start, List.map_append,
    List.map_cons]
  rfl

theorem decodeLossy_eq_nil_iff {b : Bytes} : decodeLossy b = [] ↔ b = [] := by
  induction b using pieces_induction with
  | nil => simp
  | char c rest _ =>
    rw [decodeLossy_of_char (pieces_encodeChar_append c rest)]
    simp [encodeChar_ne_nil]
  | illFormed front rest hfront _ hpieces _ =>
    rw [decodeLossy_of_illFormed hpieces]
    simp [hfront]

/-- **A character below 128 is the last where its byte is the last.** -/
theorem getLast?_decodeLossy_eq_iff {c : Char} (hc : c.toNat < 0x80) (b : Bytes) :
    (decodeLossy b).getLast? = some c ↔ b.getLast? = some c.toNat.toUInt8 := by
  constructor
  · intro h
    induction b using pieces_induction with
    | nil => cases h
    | char d rest ih =>
      rw [decodeLossy_of_char (pieces_encodeChar_append d rest)] at h
      rcases eq_or_ne rest [] with rfl | hne
      · obtain rfl : d = c := Option.some.inj h
        simp only [encodeChar, if_pos hc]
        rfl
      · rw [List.getLast?_cons_of_ne_nil (mt decodeLossy_eq_nil_iff.mp hne)] at h
        rw [List.getLast?_append, ih h, Option.some_or]
    | illFormed front rest _ _ hpieces ih =>
      rw [decodeLossy_of_illFormed hpieces] at h
      rcases eq_or_ne rest [] with rfl | hne
      · obtain rfl : replacement = c := Option.some.inj h
        exact absurd hc (by decide)
      · rw [List.getLast?_cons_of_ne_nil (mt decodeLossy_eq_nil_iff.mp hne)] at h
        rw [List.getLast?_append, ih h, Option.some_or]
  · intro h
    obtain ⟨front, rfl⟩ := List.getLast?_eq_some_iff.mp h
    rw [decodeLossy_append_cons hc, decodeLossy_nil, List.getLast?_concat]

end CommandShell.Utf8
