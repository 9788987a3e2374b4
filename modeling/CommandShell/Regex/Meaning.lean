import CommandShell.Regex.Reading
import CommandShell.Regex.Pattern

/-!
# From the written form to the meaning

The flags decide what the written form means.  A flag holds to the end of the group in which
it is set, alternatives that follow included.  Without the flag `unicode` classes speak of
bytes; a class that contains bytes outside ASCII could match the inside of a character and is
refused.

## Main definitions

* `Modes` — the flags in force.
* `ClassTree.chars` — the characters of a class.
* `Tree.meaning` — the meaning of a pattern.
-/

namespace CommandShell.Regex

open Unicode (CharSet)

/-- The flags in force. -/
structure Modes where
  /-- Letters match without regard to case. -/
  ignoreCase : Bool
  /-- `^` and `$` match at the ends of lines. -/
  multiLine : Bool
  /-- A dot matches a newline too. -/
  dotNewline : Bool
  /-- Repetitions prefer few rounds. -/
  swapGreed : Bool
  /-- Classes speak of all characters. -/
  unicode : Bool
  /-- A carriage return ends a line too. -/
  crlf : Bool
  deriving DecidableEq, Repr

namespace Modes

/-- The flags in force at the start of a pattern. -/
def initial (ignoreCase : Bool) : Modes := ⟨ignoreCase, false, false, false, true, false⟩

/-- The flags in force once some of them are set or cleared. -/
def apply (m : Modes) (flags : Flags) : Modes where
  ignoreCase := (flags.lookup .ignoreCase).getD m.ignoreCase
  multiLine := (flags.lookup .multiLine).getD m.multiLine
  dotNewline := (flags.lookup .dotNewline).getD m.dotNewline
  swapGreed := (flags.lookup .swapGreed).getD m.swapGreed
  unicode := (flags.lookup .unicode).getD m.unicode
  crlf := (flags.lookup .crlf).getD m.crlf

/-- A set with the characters that differ in case only, if case does not matter. -/
def fold (m : Modes) (s : CharSet) : CharSet :=
  if m.ignoreCase then (if m.unicode then s.closeUnderCase else s.closeUnderAsciiCase) else s

/-- A set or the other characters; without `unicode` it must lie within ASCII. -/
def negate (m : Modes) (span : Stretch) (negated : Bool) (s : CharSet) : Except Fault CharSet :=
  let t := if negated then s.compl else s
  if m.unicode || t.isAscii then .ok t else .error (.at .invalidUtf8 span)

/-- A character that stands for itself, unless it is a byte outside ASCII. -/
def scalar (m : Modes) (l : Literal) : Except Fault Char :=
  if !m.unicode && l.isByte && 0x80 ≤ l.char.toNat then .error (.at .invalidUtf8 l.span)
  else .ok l.char

/-- A character of a class, which without `unicode` must be one of ASCII. -/
def member (m : Modes) (l : Literal) : Except Fault Char := do
  let c ← m.scalar l
  if !m.unicode && 0x80 ≤ c.toNat then throw (.at .unicodeNotAllowed l.span)
  return c

end Modes

/-! ### Classes -/

/-- The characters of a named class. -/
def AsciiClass.chars : AsciiClass → CharSet
  | .alnum => .ofRanges [(0x30, 0x39), (0x41, 0x5A), (0x61, 0x7A)]
  | .alpha => .ofRanges [(0x41, 0x5A), (0x61, 0x7A)]
  | .ascii => .ofRanges [(0x00, 0x7F)]
  | .blank => .ofRanges [(0x09, 0x09), (0x20, 0x20)]
  | .cntrl => .ofRanges [(0x00, 0x1F), (0x7F, 0x7F)]
  | .digit => .ofRanges [(0x30, 0x39)]
  | .graph => .ofRanges [(0x21, 0x7E)]
  | .lower => .ofRanges [(0x61, 0x7A)]
  | .print => .ofRanges [(0x20, 0x7E)]
  | .punct => .ofRanges [(0x21, 0x2F), (0x3A, 0x40), (0x5B, 0x60), (0x7B, 0x7E)]
  | .space => .ofRanges [(0x09, 0x0D), (0x20, 0x20)]
  | .upper => .ofRanges [(0x41, 0x5A)]
  | .word => asciiWordChars
  | .xdigit => .ofRanges [(0x30, 0x39), (0x41, 0x46), (0x61, 0x66)]

/-- The characters of a one-letter escape. -/
def Shorthand.chars (unicode : Bool) : Shorthand → CharSet
  | .digit => if unicode then Unicode.digitChars else AsciiClass.digit.chars
  | .space => if unicode then Unicode.spaceChars else AsciiClass.space.chars
  | .word => if unicode then Unicode.wordChars else asciiWordChars

/-- The characters of an escape that stands for several. -/
def Leaf.chars (m : Modes) : Leaf → Except Fault CharSet
  | .shorthand span kind negated => m.negate span negated (kind.chars m.unicode)
  | .property span query negated =>
      if !m.unicode then .error (.at .unicodeNotAllowed span)
      else match query.find with
        | .ok s => m.negate span negated (m.fold s)
        | .error .noProperty => .error (.at .propertyNotFound span)
        | .error .noValue => .error (.at .propertyValueNotFound span)

/-- An operation on two sets. -/
def ClassOp.apply : ClassOp → CharSet → CharSet → CharSet
  | .inter => CharSet.inter
  | .diff => CharSet.diff
  | .symmDiff => CharSet.symmDiff

mutual

/-- The characters of a class. -/
def ClassTree.chars (m : Modes) : ClassTree → Except Fault CharSet
  | .empty _ => .ok .empty
  | .literal l => return .singleton (← m.member l)
  | .range first last => return .range (← m.member first) (← m.member last)
  | .ascii span kind negated => m.negate span negated (m.fold kind.chars)
  | .leaf l => l.chars m
  | .bracketed span negated inner => do m.negate span negated (m.fold (← inner.chars m))
  | .union _ items => return .unionAll (← ClassTree.charsAll m items)
  | .op _ kind left right => do
      let s ← left.chars m
      let t ← right.chars m
      return kind.apply (m.fold s) (m.fold t)

/-- The characters of each of several classes. -/
def ClassTree.charsAll (m : Modes) : List ClassTree → Except Fault (List CharSet)
  | [] => .ok []
  | t :: rest => do
      let s ← t.chars m
      return s :: (← ClassTree.charsAll m rest)

end

/-! ### Patterns -/

/-- The condition that an assertion states. -/
def Assertion.look (m : Modes) : Assertion → Look
  | .lineStart =>
      if m.multiLine then (if m.crlf then .lineStartCrlf else .lineStart) else .textStart
  | .lineEnd =>
      if m.multiLine then (if m.crlf then .lineEndCrlf else .lineEnd) else .textEnd
  | .textStart => .textStart
  | .textEnd => .textEnd
  | .wordBoundary => .word .boundary (!m.unicode)
  | .notWordBoundary => .word .inside (!m.unicode)
  | .wordStart => .word .start (!m.unicode)
  | .wordEnd => .word .stop (!m.unicode)
  | .wordStartHalf => .word .startHalf (!m.unicode)
  | .wordEndHalf => .word .stopHalf (!m.unicode)

/-- The characters that a dot matches. -/
def Modes.dotChars (m : Modes) : CharSet :=
  if m.dotNewline then .all
  else if m.crlf then (CharSet.ofRanges [(0x0A, 0x0A), (0x0D, 0x0D)]).compl
  else (CharSet.singleton '\n').compl

/-- What a character that stands for itself matches. -/
def Modes.literal (m : Modes) (l : Literal) : Except Fault Pattern := do
  let c ← m.scalar l
  if m.unicode then return .char m.ignoreCase c
  return .one (m.fold (.singleton c))

mutual

/-- The meaning of a pattern under the flags in force, and the flags in force after it. -/
def Tree.meaning (m : Modes) : Tree → Except Fault (Pattern × Modes)
  | .empty _ => .ok (.empty, m)
  | .flags _ changes => .ok (.empty, m.apply changes)
  | .literal l => return (← m.literal l, m)
  | .dot span => if m.unicode then .ok (.one m.dotChars, m) else .error (.at .invalidUtf8 span)
  | .assertion _ kind => .ok (.look (kind.look m), m)
  | .leaf l => return (.one (← l.chars m), m)
  | .bracketed span negated inner => do
      return (.one (← m.negate span negated (m.fold (← inner.chars m))), m)
  | .repeated _ times inner => do
      let (p, after) ← inner.meaning m
      return (.repeating { times with greedy := times.greedy != m.swapGreed } p, after)
  | .group _ .capture inner => do
      let (p, _) ← inner.meaning m
      return (.capture p, m)
  | .group _ (.flagged changes) inner => do
      let (p, _) ← inner.meaning (m.apply changes)
      return (p, m)
  | .alternation _ items => do
      let (ps, after) ← Tree.meaningAll m items
      return (.choice ps, after)
  | .concat _ items => do
      let (ps, after) ← Tree.meaningAll m items
      return (.concat ps, after)

/-- The meanings of several patterns, the flags of each in force for the next. -/
def Tree.meaningAll (m : Modes) : List Tree → Except Fault (List Pattern × Modes)
  | [] => .ok ([], m)
  | t :: rest => do
      let (p, after) ← t.meaning m
      let (ps, last) ← Tree.meaningAll after rest
      return (p :: ps, last)

end

end CommandShell.Regex
