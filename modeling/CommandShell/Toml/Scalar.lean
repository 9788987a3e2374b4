import CommandShell.Text.Decimal
import CommandShell.Toml.Table

/-!
# Numbers and dates in settings files

A value that is no text and no container is a word without blanks, or a date and a time with
one blank between them.

## Main definitions

* `isInteger`, `isFloat` — the numbers.
* `isDate`, `isTime`, `isMoment` — dates and times.
* `scalar?` — the value that a word is.
-/

namespace CommandShell.Toml

/-! ### Numbers -/

/-- Digits that pass a test, with single underscores between some of them. -/
def digitRow (p : Char → Bool) : Text → Bool
  | [] => false
  | [c] => p c
  | c :: '_' :: rest => p c && digitRow p rest
  | c :: d :: rest => p c && digitRow p (d :: rest)

/-- Decimal digits in a row that has no leading zero unless it is a single zero. -/
def plainDigits (t : Text) : Bool :=
  digitRow isDigit t && (t.length == 1 || t.head? != some '0')

/-- The value of a row of digits to a base; underscores count for nothing. -/
def rowValue (base : Nat) (t : Text) : Nat :=
  (t.filter (· ≠ '_')).foldl (fun n c =>
    n * base + (if isDigit c then digitValue c else (c.toLower.toNat - 'a'.toNat) + 10)) 0

/-- A word without its sign, and whether the sign is a minus. -/
def unsigned (t : Text) : Bool × Text :=
  match t with
  | '+' :: rest => (false, rest)
  | '-' :: rest => (true, rest)
  | _ => (false, t)

/-- A hexadecimal digit. -/
def isHex (c : Char) : Bool :=
  isDigit c || ('a' ≤ c && c ≤ 'f') || ('A' ≤ c && c ≤ 'F')

/-- An integer of 64 bits. -/
def isInteger (t : Text) : Bool :=
  match t with
  | '0' :: 'x' :: rest => digitRow isHex rest && rowValue 16 rest < Nat.pow 2 63
  | '0' :: 'o' :: rest =>
      digitRow (fun c => '0' ≤ c && c ≤ '7') rest && rowValue 8 rest < Nat.pow 2 63
  | '0' :: 'b' :: rest =>
      digitRow (fun c => c == '0' || c == '1') rest && rowValue 2 rest < Nat.pow 2 63
  | _ =>
      match unsigned t with
      | (negative, digits) =>
          plainDigits digits &&
            rowValue 10 digits < (if negative then Nat.pow 2 63 + 1 else Nat.pow 2 63)

/-- The value of an exponent, which may have a sign and leading zeros. -/
def exponent? (t : Text) : Option Int :=
  match unsigned t with
  | (negative, digits) =>
      if digitRow isDigit digits then
        some (if negative then -(rowValue 10 digits : Int) else rowValue 10 digits)
      else none

/-- A decimal number `digits * 10 ^ scale` rounds to a finite number of 64 bits. -/
def isFinite (digits : Nat) (scale : Int) : Bool :=
  let bound := Nat.pow 2 1024 - Nat.pow 2 970
  if digits = 0 ∨ scale < -100000 then true
  else if 400 < scale then false
  else if 0 ≤ scale then digits * Nat.pow 10 scale.toNat < bound
  else digits < bound * Nat.pow 10 scale.natAbs

/-- A number with a fraction, an exponent or both, or a special one; it is not too great. -/
def isFloat (t : Text) : Bool :=
  match unsigned t with
  | (negative, body) =>
      if body = "inf".toList ∨ body = "nan".toList then true
      else
        let (mantissa, power) := match body.findIdx? fun c => c == 'e' || c == 'E' with
          | some i => (body.take i, some (body.drop (i + 1)))
          | none => (body, none)
        let (whole, fraction) := match cutAt '.' mantissa with
          | some (whole, fraction) => (whole, some fraction)
          | none => (mantissa, none)
        let scale := match power with
          | none => some 0
          | some power => exponent? power
        match scale with
        | none => false
        | some scale =>
            plainDigits whole && fraction.all (digitRow isDigit) &&
              (fraction.isSome || power.isSome) &&
              (negative || isFinite (rowValue 10 (whole ++ fraction.getD []))
                (scale - ((fraction.getD []).filter isDigit).length))

/-! ### Dates and times -/

/-- The value of so many digits, and what follows them. -/
def fixedDigits (n : Nat) (t : Text) : Option (Nat × Text) :=
  if (t.take n).length = n ∧ (t.take n).all isDigit then some (rowValue 10 (t.take n), t.drop n)
  else none

/-- A given character, and what follows it. -/
def mark (c : Char) : Text → Option Text
  | d :: rest => if c = d then some rest else none
  | [] => none

/-- The number of days in a month. -/
def monthDays (year month : Nat) : Nat :=
  if month = 2 then
    if year % 4 = 0 ∧ (year % 100 ≠ 0 ∨ year % 400 = 0) then 29 else 28
  else if month = 4 ∨ month = 6 ∨ month = 9 ∨ month = 11 then 30
  else 31

/-- What follows a date. -/
def afterDate (t : Text) : Option Text := do
  let (year, t) ← fixedDigits 4 t
  let (month, t) ← fixedDigits 2 (← mark '-' t)
  let (day, t) ← fixedDigits 2 (← mark '-' t)
  if 1 ≤ month ∧ month ≤ 12 ∧ 1 ≤ day ∧ day ≤ monthDays year month then some t else none

/-- What follows hours and minutes. -/
def afterMinutes (t : Text) : Option Text := do
  let (hour, t) ← fixedDigits 2 t
  let (minute, t) ← fixedDigits 2 (← mark ':' t)
  if hour ≤ 23 ∧ minute ≤ 59 then some t else none

/-- What follows a time of the day, which may have a fraction of a second. -/
def afterTime (t : Text) : Option Text := do
  let (second, t) ← fixedDigits 2 (← mark ':' (← afterMinutes t))
  if 60 < second then none
  else match t with
    | '.' :: c :: rest => if isDigit c then some (rest.dropWhile isDigit) else none
    | _ => some t

/-- The distance from universal time. -/
def isOffset (t : Text) : Bool :=
  match t with
  | [] | ['Z'] | ['z'] => true
  | '+' :: rest | '-' :: rest => afterMinutes rest = some []
  | _ => false

/-- A date, a time or both, which may tell their distance from universal time. -/
def isMoment (t : Text) : Bool :=
  match afterDate t with
  | some [] => true
  | some (c :: rest) => (c == 'T' || c == 't' || c == ' ') && (afterTime rest).any isOffset
  | none => afterTime t = some []

/-! ### Words -/

/-- The value that a word is. -/
def scalar? (t : Text) : Option Value :=
  if t = "true".toList then some (.boolean true)
  else if t = "false".toList then some (.boolean false)
  else if isInteger t || isFloat t then some .number
  else if isMoment t then some .moment
  else none

end CommandShell.Toml
