import CommandShell.Text.Utf8
import CommandShell.Unicode.CharSet

/-!
# Sets of characters, byte by byte

A set of characters is read one byte at a time.  Its characters fall into rows of byte ranges:
a row stands for all characters whose first byte lies in its first range, whose second byte
lies in its second, and so on.

## Main definitions

* `cutRange` — a range of characters cut so that each part is a row.
* `byteRows` — the rows of a set, in increasing order.
* `grouped` — rows under their first ranges.
-/

namespace CommandShell.Regex

open Unicode (CharSet)

/-- A row of byte ranges. -/
abbrev ByteRow := List (Nat × Nat)

/-- Where a range of characters has to be cut, so that its characters have equally many bytes
and all bytes after the first byte that varies take all values: the last character before the
cut. -/
def cut? (low high : Nat) : Option Nat :=
  match [0x7F, 0x7FF, 0xFFFF].find? fun last => low ≤ last && last < high with
  | some last => some last
  | none =>
      if high < 0x80 then none
      else [0x40, 0x1000, 0x40000].findSome? fun block =>
        if low / block = high / block then none
        else if low % block ≠ 0 then some (low - low % block + block - 1)
        else if high % block ≠ block - 1 then some (high - high % block - 1)
        else none

/-- A range of characters cut wherever it has to be; the depth of cutting is bounded. -/
def cutRange : Nat → Nat → Nat → List (Nat × Nat)
  | 0, low, high => [(low, high)]
  | depth + 1, low, high =>
      match cut? low high with
      | none => [(low, high)]
      | some last => cutRange depth low last ++ cutRange depth (last + 1) high

/-- The bytes of a character by its number. -/
def bytesOf (n : Nat) : List Nat := (Utf8.encodeChar (Char.ofNat n)).map UInt8.toNat

/-- The rows of a set of characters, in increasing order. -/
def byteRows (s : CharSet) : List ByteRow :=
  s.ranges.flatMap fun (low, high) =>
    (cutRange 32 low high).map fun (low, high) => (bytesOf low).zip (bytesOf high)

/-- Rows that begin with the same range, next to each other, under that range, which is taken
off them. -/
def grouped : List ByteRow → List ((Nat × Nat) × List ByteRow)
  | [] => []
  | [] :: rows => grouped rows
  | (range :: row) :: rows =>
      match grouped rows with
      | (other, group) :: groups =>
          if other = range then (range, row :: group) :: groups
          else (range, [row]) :: (other, group) :: groups
      | [] => [(range, [row])]

end CommandShell.Regex
