import CommandShell.Regex.Cursor

/-!
# Escapes

What a backslash starts: a character that would otherwise be special, a character by its
number, a class, or a condition on the place.

## Main definitions

* `Reader.hexadecimal` — a character by its number.
* `Reader.property` — a class of characters with a property.
* `Reader.boundary` — a word boundary with a name in braces.
* `Reader.escape` — any escape.
-/

namespace CommandShell.Regex

/-- A hexadecimal digit. -/
def isHexDigit (c : Char) : Bool := (Unicode.CharSet.hexValue? c).isSome

/-- The character with a number, unless it has none. -/
def charOf? (n : Nat) : Option Char := if n.isValidChar then some (Char.ofNat n) else none

/-- Characters with a meaning of their own somewhere in patterns. -/
def metaChars : Text := "\\.+*?()|[]\x7b\x7d^$#&-~"

/-- Characters that a backslash makes stand for themselves without need. -/
def isEscapable (c : Char) : Bool :=
  let n := c.toNat
  n < 0x80 && !isDigit c && !('a' ≤ c && c ≤ 'z') && !('A' ≤ c && c ≤ 'Z') &&
    c != '<' && c != '>'

/-- The control characters with a letter. -/
def controlChar? (c : Char) : Option Char :=
  match c with
  | 'a' => some (Char.ofNat 0x07)
  | 'f' => some (Char.ofNat 0x0C)
  | 't' => some '\t'
  | 'n' => some '\n'
  | 'r' => some '\r'
  | 'v' => some (Char.ofNat 0x0B)
  | _ => none

/-- The conditions on a place with a letter. -/
def assertion? (c : Char) : Option Assertion :=
  match c with
  | 'A' => some .textStart
  | 'z' => some .textEnd
  | 'B' => some .notWordBoundary
  | '<' => some .wordStart
  | '>' => some .wordEnd
  | _ => none

/-- The classes with a letter; a capital stands for the other characters. -/
def shorthand? (c : Char) : Option (Shorthand × Bool) :=
  match c with
  | 'd' => some (.digit, false)
  | 'D' => some (.digit, true)
  | 's' => some (.space, false)
  | 'S' => some (.space, true)
  | 'w' => some (.word, false)
  | 'W' => some (.word, true)
  | _ => none

namespace Reader

/-- A row of hexadecimal digits of fixed length, the cursor standing before the first. -/
def hexDigits : Nat → Reader Text
  | 0 => return []
  | more + 1 => do
      match ← peek with
      | none => fail .escapeEnd (← hereSpan)
      | some c =>
          if !isHexDigit c then fail .hexDigitInvalid (← charSpan)
          next
          return c :: (← hexDigits more)

/-- A character by its number, after the letter that announces it: as many digits as the
letter asks for, or any number of them in braces. -/
def hexadecimal (start : Place) (letter : Char) : Reader Tree := do
  next
  match ← peek with
  | none => fail .escapeEnd (← hereSpan)
  | some '\x7b' =>
      let brace ← here
      let first := (← charSpan).last
      next
      let digits ← takeWhile isHexDigit
      match ← peek with
      | none => fail .escapeEnd (← spanFrom brace)
      | some '\x7d' =>
          let last ← here
          next
          if digits.isEmpty then fail .hexEmpty (← spanFrom brace)
          match charOf? (Unicode.CharSet.hexValue digits) with
          | none => fail .hexInvalid ⟨first, last⟩
          | some c => return .literal ⟨← spanFrom start, c, false⟩
      | some _ => fail .hexDigitInvalid (← charSpan)
  | some _ =>
      let first ← here
      let digits ← hexDigits (if letter = 'x' then 2 else if letter = 'u' then 4 else 8)
      match charOf? (Unicode.CharSet.hexValue digits) with
      | none => fail .hexInvalid (← spanFrom first)
      | some c => return .literal ⟨← spanFrom start, c, letter == 'x'⟩

/-- What a name in braces asks for, and whether for the other characters: a property alone,
or one with a value after a colon or an equals sign, or after `!=` for all other values. -/
def query (name : Text) : Unicode.PropertyQuery × Bool :=
  match cutPair name with
  | some (front, back) => (.valued front back, true)
  | none =>
      match cutAt ':' name with
      | some (front, back) => (.valued front back, false)
      | none =>
          match cutAt '=' name with
          | some (front, back) => (.valued front back, false)
          | none => (.named name, false)
where
  /-- The name cut at its first `!=`. -/
  cutPair : Text → Option (Text × Text)
    | [] => none
    | '!' :: '=' :: rest => some ([], rest)
    | c :: rest => (cutPair rest).map fun (front, back) => (c :: front, back)

/-- A class of characters with a property, after the letter that announces it. -/
def property (start : Place) (negated : Bool) : Reader Tree := do
  next
  match ← peek with
  | none => fail .escapeEnd (← hereSpan)
  | some '\x7b' =>
      next
      let name ← takeWhile (· != '\x7d')
      match ← peek with
      | none => fail .escapeEnd (← hereSpan)
      | some _ =>
          bump
          let (asked, others) := query name
          return .leaf (.property (← spanFrom start) asked (negated != others))
  | some '\\' => fail .propertyLetterInvalid (← charSpan)
  | some c =>
      next
      return .leaf (.property (← spanFrom start) (.named [c]) negated)

/-- A word boundary whose kind may stand in braces after it; other braces are left for the
repetition that they spell. -/
def boundary (start : Place) : Reader Tree := do
  let plain := Tree.assertion (← spanFrom start) .wordBoundary
  let before ← get
  match before.rest with
  | '\x7b' :: _ =>
      let isNamePart (c : Char) : Bool :=
        ('a' ≤ c && c ≤ 'z') || ('A' ≤ c && c ≤ 'Z') || c == '-'
      next
      match ← peek with
      | none => fail .boundaryEnd (← spanFrom start)
      | some c =>
          if !isNamePart c then
            set before
            return plain
          let first ← here
          let name ← takeWhile isNamePart
          if (← peek) != some '\x7d' then fail .boundaryUnclosed (← spanFrom before.place)
          let last ← here
          bump
          let span ← spanFrom start
          if name = "start".toList then return .assertion span .wordStart
          if name = "end".toList then return .assertion span .wordEnd
          if name = "start-half".toList then return .assertion span .wordStartHalf
          if name = "end-half".toList then return .assertion span .wordEndHalf
          fail .boundaryUnrecognized ⟨first, last⟩
  | _ => return plain

/-- What a backslash starts. -/
def escape : Reader Tree := do
  let start ← here
  bump
  match ← peek with
  | none => fail .escapeEnd (← spanFrom start)
  | some c =>
      if isDigit c then fail .backreference ⟨start, (← charSpan).last⟩
      if c == 'x' || c == 'u' || c == 'U' then return ← hexadecimal start c
      if c == 'p' || c == 'P' then return ← property start (c == 'P')
      bump
      let span ← spanFrom start
      if let some (kind, negated) := shorthand? c then
        return .leaf (.shorthand span kind negated)
      if metaChars.contains c || isEscapable c then return .literal ⟨span, c, false⟩
      if let some control := controlChar? c then return .literal ⟨span, control, false⟩
      if let some kind := assertion? c then return .assertion span kind
      if c == 'b' then return ← boundary start
      fail .escapeUnrecognized span

end Reader

end CommandShell.Regex
