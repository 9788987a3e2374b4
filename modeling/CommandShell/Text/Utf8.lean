import CommandShell.Text.Basic

/-!
# UTF-8

Streams and files hold bytes, the shell thinks in characters.  Decoding is a machine that
takes one byte at a time and remembers only the character under construction, so decoding
commutes with cutting a byte string wherever no character is under construction; a newline
always ends in such a place.

Ill-formed input is cut into *maximal subparts*: the longest front of a well-formed sequence,
or a single byte that starts none.  Each of them is one piece, which lossy decoding replaces
by U+FFFD and strict decoding refuses.

## Main definitions

* `Utf8.encode` — the bytes of a text.
* `Utf8.State`, `Utf8.step` — the decoding machine.
* `Utf8.pieces` — the characters of a byte string, `none` for an ill-formed piece.
* `Utf8.decodeLossy`, `Utf8.decode?` — the two ways to read a byte string as text.
-/

namespace CommandShell.Utf8

/-! ### Encoding -/

/-- The one to four bytes of a character. -/
def encodeChar (c : Char) : Bytes :=
  let n := c.toNat
  if n < 0x80 then [n.toUInt8]
  else if n < 0x800 then [(0xC0 + n / 0x40).toUInt8, (0x80 + n % 0x40).toUInt8]
  else if n < 0x10000 then
    [(0xE0 + n / 0x1000).toUInt8, (0x80 + n / 0x40 % 0x40).toUInt8, (0x80 + n % 0x40).toUInt8]
  else
    [(0xF0 + n / 0x40000).toUInt8, (0x80 + n / 0x1000 % 0x40).toUInt8,
      (0x80 + n / 0x40 % 0x40).toUInt8, (0x80 + n % 0x40).toUInt8]

/-- The bytes of a text. -/
def encode (t : Text) : Bytes := t.flatMap encodeChar

@[simp] theorem encode_nil : encode [] = [] := rfl

@[simp] theorem encode_cons (c : Char) (t : Text) : encode (c :: t) = encodeChar c ++ encode t :=
  rfl

@[simp] theorem encode_append (s t : Text) : encode (s ++ t) = encode s ++ encode t := by
  simp [encode]

/-! ### Decoding -/

/-- Where the machine stands between two bytes. -/
inductive State where
  /-- No character is under construction. -/
  | start
  /-- `owed + 1` more bytes are owed, the next of them between `low` and `high`; the bytes so
  far spell `bits`. -/
  | inside (owed low high bits : Nat)
  deriving DecidableEq, Repr

/-- The first byte of a character: what the machine remembers, and the pieces it completes. -/
def first (b : Nat) : State × List (Option Char) :=
  if b < 0x80 then (.start, [some (Char.ofNat b)])
  else if b < 0xC2 then (.start, [none])
  else if b < 0xE0 then (.inside 0 0x80 0xBF (b - 0xC0), [])
  else if b < 0xF0 then
    (.inside 1 (if b = 0xE0 then 0xA0 else 0x80) (if b = 0xED then 0x9F else 0xBF) (b - 0xE0), [])
  else if b < 0xF5 then
    (.inside 2 (if b = 0xF0 then 0x90 else 0x80) (if b = 0xF4 then 0x8F else 0xBF) (b - 0xF0), [])
  else (.start, [none])

/-- One byte: the next state and the pieces that it completes.  A byte that cannot continue
the character under construction ends an ill-formed piece and starts afresh. -/
def step (st : State) (byte : UInt8) : State × List (Option Char) :=
  let b := byte.toNat
  match st with
  | .start => first b
  | .inside owed low high bits =>
      if low ≤ b ∧ b ≤ high then
        match owed with
        | 0 => (.start, [some (Char.ofNat (bits * 0x40 + (b - 0x80)))])
        | owed + 1 => (.inside owed 0x80 0xBF (bits * 0x40 + (b - 0x80)), [])
      else
        let (next, done) := first b
        (next, none :: done)

/-- The pieces of a byte string read from a state.  A character still under construction at
the end is an ill-formed piece. -/
def piecesFrom : State → Bytes → List (Option Char)
  | .start, [] => []
  | .inside .., [] => [none]
  | st, b :: rest =>
      match step st b with
      | (next, done) => done ++ piecesFrom next rest

/-- The characters of a byte string in order, with `none` for each ill-formed piece. -/
def pieces (b : Bytes) : List (Option Char) := piecesFrom .start b

/-- The replacement character, U+FFFD. -/
def replacement : Char := Char.ofNat 0xFFFD

/-- The text of a byte string, with U+FFFD in place of each ill-formed piece. -/
def decodeLossy (b : Bytes) : Text := (pieces b).map fun piece => piece.getD replacement

/-- The text of a byte string, or `none` if it is ill-formed anywhere. -/
def decode? (b : Bytes) : Option Text := (pieces b).mapM id

@[simp] theorem pieces_nil : pieces [] = [] := rfl

@[simp] theorem decodeLossy_nil : decodeLossy [] = [] := rfl

end CommandShell.Utf8
