import CommandShell.Unicode.Property

/-!
# The written form of patterns

A pattern as it is written: every node carries the stretch of the pattern that it was read
from, so that a complaint about it can point there.

## Main definitions

* `Place`, `Stretch` — a place in a pattern, and what lies between two of them.
* `Flag`, `Flags` — the modifiers of a group.
* `Assertion`, `Shorthand`, `AsciiClass` — the vocabulary without arguments.
* `ClassTree` — what stands between square brackets.
* `Tree` — a pattern.
-/

namespace CommandShell.Regex

/-- A place in a pattern.  Lines and columns are counted from one. -/
structure Place where
  /-- The number of characters before it. -/
  offset : Nat
  /-- The line it is in. -/
  line : Nat
  /-- The column in that line. -/
  column : Nat
  deriving DecidableEq, Repr

/-- The place before the first character. -/
def Place.start : Place := ⟨0, 1, 1⟩

/-- The place after one more character. -/
def Place.after (p : Place) (c : Char) : Place :=
  if c = '\n' then ⟨p.offset + 1, p.line + 1, 1⟩ else ⟨p.offset + 1, p.line, p.column + 1⟩

/-- What lies between two places. -/
structure Stretch where
  /-- The place before it. -/
  first : Place
  /-- The place after it. -/
  last : Place
  deriving DecidableEq, Repr

/-- A modifier of the patterns in a group. -/
inductive Flag where
  /-- Letters match without regard to case. -/
  | ignoreCase
  /-- `^` and `$` match at the ends of lines. -/
  | multiLine
  /-- A dot matches a newline too. -/
  | dotNewline
  /-- Repetitions prefer few rounds, and many with a question mark. -/
  | swapGreed
  /-- Classes speak of all characters, not of ASCII only. -/
  | unicode
  /-- A carriage return ends a line too. -/
  | crlf
  /-- Blanks and comments in the pattern are skipped. -/
  | verbose
  deriving DecidableEq, Repr

/-- The flags that are set or cleared, each at most once. -/
abbrev Flags := List (Flag × Bool)

/-- What the flags say about one of them. -/
def Flags.lookup (flags : Flags) (flag : Flag) : Option Bool :=
  (flags.find? fun item => item.1 = flag).map Prod.snd

/-- A condition on a place in the text. -/
inductive Assertion where
  /-- The text or, with `multiLine`, a line starts here. -/
  | lineStart
  /-- The text or, with `multiLine`, a line ends here. -/
  | lineEnd
  /-- The text starts here. -/
  | textStart
  /-- The text ends here. -/
  | textEnd
  /-- Exactly one of the two neighbours is a word character. -/
  | wordBoundary
  /-- Both or none of the two neighbours are word characters. -/
  | notWordBoundary
  /-- A word starts here. -/
  | wordStart
  /-- A word ends here. -/
  | wordEnd
  /-- No word character stands before. -/
  | wordStartHalf
  /-- No word character stands after. -/
  | wordEndHalf
  deriving DecidableEq, Repr

/-- The classes with a one-letter escape. -/
inductive Shorthand where
  /-- Decimal digits. -/
  | digit
  /-- White space. -/
  | space
  /-- Word characters. -/
  | word
  deriving DecidableEq, Repr

/-- The named classes within ASCII. -/
inductive AsciiClass where
  | alnum | alpha | ascii | blank | cntrl | digit | graph | lower | print | punct | space
  | upper | word | xdigit
  deriving DecidableEq, Repr

/-- The named classes by their names. -/
def AsciiClass.names : List (String × AsciiClass) := [
  ("alnum", .alnum), ("alpha", .alpha), ("ascii", .ascii), ("blank", .blank),
  ("cntrl", .cntrl), ("digit", .digit), ("graph", .graph), ("lower", .lower),
  ("print", .print), ("punct", .punct), ("space", .space), ("upper", .upper),
  ("word", .word), ("xdigit", .xdigit)]

/-- The class with a name. -/
def AsciiClass.ofName? (name : Text) : Option AsciiClass :=
  (names.find? fun entry => entry.1.toList = name).map Prod.snd

/-- A character that stands for itself. -/
structure Literal where
  /-- Where it is written. -/
  span : Stretch
  /-- The character. -/
  char : Char
  /-- It is written as `\x` and two digits, which name a byte where classes are not about
  all characters. -/
  isByte : Bool
  deriving DecidableEq, Repr

/-- The operations on two classes. -/
inductive ClassOp where
  /-- `&&`: what is in both. -/
  | inter
  /-- `--`: what is in the first only. -/
  | diff
  /-- `~~`: what is in exactly one. -/
  | symmDiff
  deriving DecidableEq, Repr

/-- A leaf of a class or of a pattern that stands for a set of characters. -/
inductive Leaf where
  /-- An escape such as `\d`. -/
  | shorthand (span : Stretch) (kind : Shorthand) (negated : Bool)
  /-- A property of characters, such as `\pL`. -/
  | property (span : Stretch) (query : Unicode.PropertyQuery) (negated : Bool)
  deriving DecidableEq, Repr

/-- Where a leaf is written. -/
def Leaf.span : Leaf → Stretch
  | .shorthand span .. | .property span .. => span

/-- What stands between square brackets. -/
inductive ClassTree where
  /-- Nothing, on one side of an operation. -/
  | empty (span : Stretch)
  /-- A character. -/
  | literal (l : Literal)
  /-- The characters between two, both included. -/
  | range (first last : Literal)
  /-- A named class such as `[:alpha:]`. -/
  | ascii (span : Stretch) (kind : AsciiClass) (negated : Bool)
  /-- An escape that stands for several characters. -/
  | leaf (l : Leaf)
  /-- A class in brackets of its own. -/
  | bracketed (span : Stretch) (negated : Bool) (inner : ClassTree)
  /-- Several items in a row. -/
  | union (span : Stretch) (items : List ClassTree)
  /-- An operation on two classes. -/
  | op (span : Stretch) (kind : ClassOp) (left right : ClassTree)

/-- Where a class is written. -/
def ClassTree.span : ClassTree → Stretch
  | .empty span | .ascii span .. | .bracketed span .. | .union span .. | .op span .. => span
  | .literal l => l.span
  | .range first last => ⟨first.span.first, last.span.last⟩
  | .leaf l => l.span

/-- How often something is repeated. -/
structure Repeats where
  /-- The least number of rounds. -/
  least : Nat
  /-- The greatest number of rounds, if there is one. -/
  most : Option Nat
  /-- Many rounds are preferred to few. -/
  greedy : Bool
  deriving DecidableEq, Repr

/-- A group captures what it matches, or has flags. -/
inductive GroupKind where
  /-- It captures what it matches. -/
  | capture
  /-- It has flags, perhaps none. -/
  | flagged (flags : Flags)
  deriving DecidableEq, Repr

/-- A pattern as it is written. -/
inductive Tree where
  /-- Nothing. -/
  | empty (span : Stretch)
  /-- Flags for the rest of the group. -/
  | flags (span : Stretch) (flags : Flags)
  /-- A character. -/
  | literal (l : Literal)
  /-- A dot. -/
  | dot (span : Stretch)
  /-- A condition on the place. -/
  | assertion (span : Stretch) (kind : Assertion)
  /-- An escape that stands for several characters. -/
  | leaf (l : Leaf)
  /-- A class in square brackets. -/
  | bracketed (span : Stretch) (negated : Bool) (inner : ClassTree)
  /-- A repetition. -/
  | repeated (span : Stretch) (times : Repeats) (inner : Tree)
  /-- A group in parentheses. -/
  | group (span : Stretch) (kind : GroupKind) (inner : Tree)
  /-- Alternatives. -/
  | alternation (span : Stretch) (items : List Tree)
  /-- Several patterns in a row. -/
  | concat (span : Stretch) (items : List Tree)

/-- Where a pattern is written. -/
def Tree.span : Tree → Stretch
  | .empty span | .flags span .. | .dot span | .assertion span .. | .bracketed span ..
  | .repeated span .. | .group span .. | .alternation span .. | .concat span .. => span
  | .literal l => l.span
  | .leaf l => l.span

end CommandShell.Regex
