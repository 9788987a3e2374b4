import CommandShell.Text.Basic

/-!
# Decimal numbers

Statuses and counts are written in decimal and read back with bounds.

## Main definitions

* `decimal`, `decimalInt` — the digits of a number, with a minus sign if it is negative.
* `digitsValue?` — the value of one or more ASCII digits.
* `readNatBelow?` — an optional plus sign and digits, with a bound on the value.
* `readInt32?` — an optional sign and digits, within 32 bits.
-/

namespace CommandShell

/-- The decimal digits of a number, without leading zeros. -/
def decimal (n : Nat) : Text := Nat.toDigits 10 n

/-- The decimal digits of an integer, after a minus sign if it is negative. -/
def decimalInt (n : Int) : Text :=
  if n < 0 then '-' :: decimal n.natAbs else decimal n.natAbs

/-- An ASCII decimal digit. -/
def isDigit (c : Char) : Bool := '0' ≤ c && c ≤ '9'

/-- The value of a digit, which the caller has tested. -/
def digitValue (c : Char) : Nat := c.toNat - '0'.toNat

/-- The value of one or more ASCII digits, leading zeros allowed. -/
def digitsValue? (t : Text) : Option Nat :=
  if t ≠ [] ∧ t.all isDigit then some (t.foldl (fun n c => n * 10 + digitValue c) 0) else none

/-- An optional plus sign followed by digits whose value is below `bound`. -/
def readNatBelow? (bound : Nat) (t : Text) : Option Nat :=
  let digits := match t with
    | '+' :: rest => rest
    | _ => t
  (digitsValue? digits).filter (· < bound)

/-- An optional sign followed by digits, as an integer. -/
def readInt? (t : Text) : Option Int :=
  match t with
  | '-' :: rest => (digitsValue? rest).map fun n => -(n : Int)
  | '+' :: rest => (digitsValue? rest).map Int.ofNat
  | _ => (digitsValue? t).map Int.ofNat

/-- An integer in decimal that fits in 32 bits with sign. -/
def readInt32? (t : Text) : Option Int32 :=
  ((readInt? t).filter fun n => Int32.minValue.toInt ≤ n && n ≤ Int32.maxValue.toInt).map
    Int32.ofInt

/-- A status as it is written into variables and messages. -/
def decimalInt32 (n : Int32) : Text := decimalInt n.toInt

end CommandShell
