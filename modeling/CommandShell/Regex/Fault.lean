import CommandShell.Regex.Tree
import CommandShell.Text.Decimal
import CommandShell.Text.Lines

/-!
# What can be wrong with a pattern

A fault names the stretch of the pattern that is to blame, or two of them.  The report shows
the pattern with marks below those stretches, one mark at least for each.

## Main definitions

* `FaultKind`, `FaultKind.text` — the faults and their wordings.
* `Fault` — a fault and its place.
* `Fault.report` — the pattern with marks, and the wording.
-/

namespace CommandShell.Regex

/-- The faults of a pattern. -/
inductive FaultKind where
  | groupUnclosed | groupUnopened | groupNameUnclosed | groupNameInvalid | groupNameEmpty
  | groupNameDuplicate | lookAround
  | flagUnrecognized | flagDuplicate | flagNegationRepeated | flagNegationDangling | flagEnd
  | repetitionMissing | countUnclosed | countEmpty | countInvalid | decimalInvalid
  | escapeEnd | escapeUnrecognized | backreference
  | hexEmpty | hexInvalid | hexDigitInvalid
  | boundaryEnd | boundaryUnclosed | boundaryUnrecognized
  | propertyLetterInvalid | propertyNotFound | propertyValueNotFound
  | classUnclosed | classEscapeInvalid | classRangeInvalid | classRangeBound
  | unicodeNotAllowed | invalidUtf8
  | tooDeep (limit : Nat)
  deriving DecidableEq, Repr

/-- The wording of a fault. -/
def FaultKind.text : FaultKind → Text
  | .groupUnclosed => "unclosed group"
  | .groupUnopened => "unopened group"
  | .groupNameUnclosed => "unclosed capture group name"
  | .groupNameInvalid => "invalid capture group character"
  | .groupNameEmpty => "empty capture group name"
  | .groupNameDuplicate => "duplicate capture group name"
  | .lookAround => "look-around, including look-ahead and look-behind, is not supported"
  | .flagUnrecognized => "unrecognized flag"
  | .flagDuplicate => "duplicate flag"
  | .flagNegationRepeated => "flag negation operator repeated"
  | .flagNegationDangling => "dangling flag negation operator"
  | .flagEnd => "expected flag but got end of regex"
  | .repetitionMissing => "repetition operator missing expression"
  | .countUnclosed => "unclosed counted repetition"
  | .countEmpty => "repetition quantifier expects a valid decimal"
  | .countInvalid =>
      "invalid repetition count range, the start must be <= the end"
  | .decimalInvalid => "decimal literal invalid"
  | .escapeEnd => "incomplete escape sequence, reached end of pattern prematurely"
  | .escapeUnrecognized => "unrecognized escape sequence"
  | .backreference => "backreferences are not supported"
  | .hexEmpty => "hexadecimal literal empty"
  | .hexInvalid => "hexadecimal literal is not a Unicode scalar value"
  | .hexDigitInvalid => "invalid hexadecimal digit"
  | .boundaryEnd =>
      "found either the beginning of a special word boundary or a bounded repetition ".toList ++
        "on a \\b with an opening brace, but no closing brace".toList
  | .boundaryUnclosed =>
      "special word boundary assertion is either unclosed or contains an invalid character"
  | .boundaryUnrecognized =>
      "unrecognized special word boundary assertion, valid choices are: start, end, ".toList
        ++ "start-half or end-half".toList
  | .propertyLetterInvalid => "invalid Unicode character class"
  | .propertyNotFound => "Unicode property not found"
  | .propertyValueNotFound => "Unicode property value not found"
  | .classUnclosed => "unclosed character class"
  | .classEscapeInvalid => "invalid escape sequence found in character class"
  | .classRangeInvalid => "invalid character class range, the start must be <= the end"
  | .classRangeBound => "invalid range boundary, must be a literal"
  | .unicodeNotAllowed => "Unicode not allowed here"
  | .invalidUtf8 => "pattern can match invalid UTF-8"
  | .tooDeep limit =>
      "exceed the maximum number of nested parentheses/brackets (".toList ++ decimal limit ++ [')']

/-- A fault at a stretch of a pattern, and perhaps another stretch that has to do with it. -/
structure Fault where
  /-- What is wrong. -/
  kind : FaultKind
  /-- Where. -/
  span : Stretch
  /-- What it collides with. -/
  other : Option Stretch
  deriving DecidableEq, Repr

/-- A fault at one stretch. -/
def Fault.at (kind : FaultKind) (span : Stretch) : Fault := ⟨kind, span, none⟩

namespace Stretch

/-- It begins and ends in one line. -/
def inOneLine (s : Stretch) : Bool := s.first.line == s.last.line

/-- The first stretch stands before the second, or is the shorter one at the same place. -/
def before (s t : Stretch) : Bool :=
  s.first.offset < t.first.offset ||
    (s.first.offset == t.first.offset && s.last.offset ≤ t.last.offset)

end Stretch

namespace Fault

/-- The stretches to be shown, in order. -/
def stretches (f : Fault) : List Stretch :=
  match f.other with
  | none => [f.span]
  | some other => if f.span.before other then [f.span, other] else [other, f.span]

/-- Marks below stretches of one line, from a column on. -/
def marks : Nat → List Stretch → Text
  | _, [] => []
  | column, s :: rest =>
      let gap := (s.first.column - 1) - column
      let width := max 1 (s.last.column - s.first.column)
      List.replicate gap ' ' ++ List.replicate width '^' ++ marks (column + gap + width) rest

/-- A line of the pattern and, if a stretch lies in it, the line of marks below it. -/
def shownLine (margin : Text) (spans : List Stretch) (line : Text) : Text :=
  margin ++ line ++ ['\n'] ++
    (if spans.isEmpty then []
      else List.replicate margin.length ' ' ++ marks 0 spans ++ ['\n'])

/-- A number in a column of a given width. -/
def padded (width n : Nat) : Text :=
  List.replicate (width - (decimal n).length) ' ' ++ decimal n

/-- The lines of a pattern, numbered from a line on, with their marks. -/
def shownLines (width : Nat) (spans : List Stretch) : Nat → List Text → Text
  | _, [] => []
  | n, line :: rest =>
      shownLine (padded width n ++ [':', ' '])
          (spans.filter fun s => s.inOneLine && s.first.line == n) line ++
        shownLines width spans (n + 1) rest

/-- Where a stretch of several lines lies. -/
def extent (s : Stretch) : Text :=
  "on line ".toList ++ decimal s.first.line ++ " (column ".toList ++ decimal s.first.column ++
    ") through line ".toList ++ decimal s.last.line ++ " (column ".toList ++
    decimal (s.last.column - 1) ++ [')']

/-- The pattern with marks, as a block of lines. -/
def shownPattern (f : Fault) (pattern : Text) : Text :=
  if pattern.contains '\n' then
    let rule := List.replicate 79 '~' ++ ['\n']
    let count := (lines pattern).length + (if pattern.getLast? = some '\n' then 1 else 0)
    let wide := f.stretches.filter fun s => !s.inOneLine
    rule ++ shownLines (decimal count).length f.stretches 1 (lines pattern) ++ rule ++
      (if wide.isEmpty then [] else joinWith ['\n'] (wide.map extent) ++ ['\n'])
  else
    match pattern with
    | [] => []
    | _ => shownLine [' ', ' ', ' ', ' '] f.stretches pattern

/-- The report of a fault. -/
def report (f : Fault) (pattern : Text) : Text :=
  "regex parse error:\n".toList ++ f.shownPattern pattern ++ "error: ".toList ++ f.kind.text

end Fault

end CommandShell.Regex
