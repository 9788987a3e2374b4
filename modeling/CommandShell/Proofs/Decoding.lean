import CommandShell.Text.Utf8

/-!
# What is encoded is decoded

The bytes of a character take the decoding machine from its start to its start, and the character is
what it completes on the way.  So a text is decoded from its bytes, whatever follows them.

The bytes of a character are all below 128 or all above, so that a newline is found in the bytes of
a text just where it is found in the text.

## Main results

* `Utf8.pieces_encodeChar_append` — the machine reads a character.
* `Utf8.decodeLossy_encode` — **a text is decoded from its bytes.**
* `Utf8.mem_encode_iff` — where bytes below 128 are.
-/

namespace CommandShell.Utf8

/-! ### Bytes -/

theorem toNat_toUInt8 {n : Nat} (h : n < 0x100) : n.toUInt8.toNat = n := by
  simpa using Nat.mod_eq_of_lt h

/-- The code point of a character is none of a surrogate. -/
theorem toNat_cases (c : Char) : c.toNat < 0xD800 ∨ 0xDFFF < c.toNat ∧ c.toNat < 0x110000 := c.valid

/-! ### The machine -/

theorem piecesFrom_cons (st : State) (b : UInt8) (rest : Bytes) :
    piecesFrom st (b :: rest) = (step st b).2 ++ piecesFrom (step st b).1 rest := by
  cases st <;> rfl

section Steps

variable {owed low high bits n : Nat} (rest : Bytes)

/-- A byte that begins a character. -/
theorem pieces_first (hn : n < 0x100) :
    pieces (n.toUInt8 :: rest) = (first n).2 ++ piecesFrom (first n).1 rest := by
  rw [pieces, piecesFrom_cons, step, toNat_toUInt8 hn]

/-- A byte that continues a character, and is followed by others. -/
theorem piecesFrom_more (hn : n < 0x40) (hlow : low ≤ 0x80 + n) (hhigh : 0x80 + n ≤ high) :
    piecesFrom (.inside (owed + 1) low high bits) ((0x80 + n).toUInt8 :: rest)
      = piecesFrom (.inside owed 0x80 0xBF (bits * 0x40 + n)) rest := by
  rw [piecesFrom_cons, step, toNat_toUInt8 (by omega), if_pos ⟨hlow, hhigh⟩,
    Nat.add_sub_cancel_left]
  rfl

/-- A byte that completes a character. -/
theorem piecesFrom_last (hn : n < 0x40) (hlow : low ≤ 0x80 + n) (hhigh : 0x80 + n ≤ high) :
    piecesFrom (.inside 0 low high bits) ((0x80 + n).toUInt8 :: rest)
      = some (Char.ofNat (bits * 0x40 + n)) :: pieces rest := by
  rw [piecesFrom_cons, step, toNat_toUInt8 (by omega), if_pos ⟨hlow, hhigh⟩,
    Nat.add_sub_cancel_left]
  rfl

end Steps

theorem first_two : ∀ n < 0x20, 2 ≤ n → first (0xC0 + n) = (.inside 0 0x80 0xBF n, []) := by
  decide

/-- The second of three bytes keeps out what is spelled with two, and surrogates. -/
theorem first_three : ∀ n < 0x10, first (0xE0 + n)
    = (.inside 1 (if n = 0 then 0xA0 else 0x80) (if n = 0xD then 0x9F else 0xBF) n, []) := by
  decide

/-- The second of four bytes keeps out what is spelled with three, and what is no code point. -/
theorem first_four : ∀ n < 5, first (0xF0 + n)
    = (.inside 2 (if n = 0 then 0x90 else 0x80) (if n = 4 then 0x8F else 0xBF) n, []) := by
  decide

/-! ### Characters -/

/-- **The machine reads a character** from its bytes, and then what follows them. -/
theorem pieces_encodeChar_append (c : Char) (rest : Bytes) :
    pieces (encodeChar c ++ rest) = some c :: pieces rest := by
  have hvalid := toNat_cases c
  have hchar := Char.ofNat_toNat c
  rw [encodeChar]
  generalize c.toNat = n at hvalid hchar ⊢
  -- one to four bytes; what they spell is put together by `hbits`
  split
  · next hone =>
    rw [List.singleton_append, pieces_first rest (by omega), first, if_pos hone, hchar]
    rfl
  split
  · have hbits : n / 0x40 * 0x40 + n % 0x40 = n := by omega
    simp only [List.cons_append, List.nil_append]
    rw [pieces_first _ (by omega), first_two _ (by omega) (by omega), List.nil_append,
      piecesFrom_last _ (by omega) (by omega) (by omega), hbits, hchar]
  split
  · have hbits : (n / 0x1000 * 0x40 + n / 0x40 % 0x40) * 0x40 + n % 0x40 = n := by omega
    simp only [List.cons_append, List.nil_append]
    rw [pieces_first _ (by omega), first_three _ (by omega), List.nil_append,
      piecesFrom_more _ (by omega) (by split <;> omega) (by split <;> omega),
      piecesFrom_last _ (by omega) (by omega) (by omega), hbits, hchar]
  · have hbits : ((n / 0x40000 * 0x40 + n / 0x1000 % 0x40) * 0x40 + n / 0x40 % 0x40) * 0x40
        + n % 0x40 = n := by omega
    simp only [List.cons_append, List.nil_append]
    rw [pieces_first _ (by omega), first_four _ (by omega), List.nil_append,
      piecesFrom_more _ (by omega) (by split <;> omega) (by split <;> omega),
      piecesFrom_more _ (by omega) (by omega) (by omega),
      piecesFrom_last _ (by omega) (by omega) (by omega), hbits, hchar]

/-- A character below 128 has its code point for a byte, and others have no byte below 128. -/
theorem mem_encodeChar_iff {b : UInt8} (hb : b.toNat < 0x80) (c : Char) :
    b ∈ encodeChar c ↔ c.toNat = b.toNat := by
  have hvalid := toNat_cases c
  have hmem {n : Nat} (hn : n < 0x100) : b = n.toUInt8 ↔ n = b.toNat := by
    rw [← UInt8.toNat_inj, toNat_toUInt8 hn, eq_comm]
  rw [encodeChar]
  generalize c.toNat = n at hvalid ⊢
  split
  · rw [List.mem_singleton, hmem (by omega)]
  split
  · simp only [List.mem_cons, List.not_mem_nil, or_false]
    rw [hmem (by omega), hmem (by omega)]
    omega
  split
  · simp only [List.mem_cons, List.not_mem_nil, or_false]
    rw [hmem (by omega), hmem (by omega), hmem (by omega)]
    omega
  · simp only [List.mem_cons, List.not_mem_nil, or_false]
    rw [hmem (by omega), hmem (by omega), hmem (by omega), hmem (by omega)]
    omega

/-! ### Texts -/

theorem pieces_encode_append (t : Text) (rest : Bytes) :
    pieces (encode t ++ rest) = t.map some ++ pieces rest := by
  induction t with
  | nil => rfl
  | cons c t ih =>
    rw [encode_cons, List.append_assoc, pieces_encodeChar_append, ih, List.map_cons,
      List.cons_append]

/-- **A text is decoded from its bytes.** -/
@[simp] theorem decodeLossy_encode (t : Text) : decodeLossy (encode t) = t := by
  have hpieces := pieces_encode_append t []
  rw [List.append_nil, pieces_nil, List.append_nil] at hpieces
  rw [decodeLossy, hpieces, List.map_map]
  exact List.map_id t

/-- **A byte below 128 stands for the character of its number**, wherever it is in the bytes of a
text. -/
theorem mem_encode_iff {c : Char} (hc : c.toNat < 0x80) (t : Text) :
    c.toNat.toUInt8 ∈ encode t ↔ c ∈ t := by
  have hbyte := toNat_toUInt8 (show c.toNat < 0x100 by omega)
  have hmem (d : Char) : c.toNat.toUInt8 ∈ encodeChar d ↔ d = c := by
    rw [mem_encodeChar_iff (by omega), hbyte, Char.toNat_inj]
  simp only [encode, List.mem_flatMap, hmem, exists_eq_right]

end CommandShell.Utf8
