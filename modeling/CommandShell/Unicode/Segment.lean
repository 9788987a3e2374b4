import CommandShell.Unicode.Binary
import CommandShell.Unicode.ScriptTable
import CommandShell.Unicode.SegmentTable

/-!
# Classes of boundaries

To find the ends of clusters, words and sentences, the standard sorts the characters into
classes, in three ways.  Each class follows from binary properties, categories and scripts, and
a short list of further characters; the classes of one way are apart from each other.

## Main definitions

* `graphemeClass` — the classes that tell what stays together as one written sign.
* `wordClass` — the classes that tell where words end.
* `sentenceClass` — the classes that tell where sentences end.
* `graphemeClass?`, `wordClass?`, `sentenceClass?` — a class by any of its names.
-/

namespace CommandShell.Unicode

/-! ### Shared sets -/

/-- A list that belongs to the classes of boundaries. -/
def segmentList (name : String) : CharSet := rowOf segmentTable name

/-- The set of one code point, as every way of sorting has some. -/
def justCode (n : Nat) : CharSet := .ofRanges [(n, n)]

/-- The zero width joiner, a class of its own among clusters and words. -/
def joiner : CharSet := justCode 0x200D

/-- The characters that a mark in front of a number belongs to, and the digits: what numbers
are written with. -/
def numberParts : CharSet :=
  .unionAll [category "Nd", .ofRanges [(0x66B, 0x66C)],
    (rowOf propertyTable "Prepended_Concatenation_Mark").diff (justCode 0x70F)]

/-- Characters that belong to the one before them, spacing or not. -/
def continuing : CharSet := graphemeExtend.union (category "Mc")

/-! ### Clusters -/

/-- The composed syllables without a trailing consonant: every twenty-eighth, from the
first. -/
def openSyllables : CharSet :=
  .ofRanges ((List.range 399).map fun i => (0xAC00 + 28 * i, 0xAC00 + 28 * i))

/-- Characters that extend a cluster. -/
def clusterExtend : CharSet := graphemeExtend.union (rowOf propertyTable "Emoji_Modifier")

/-- Marks and letters that form a cluster with what follows. -/
def clusterPrepend : CharSet :=
  (rowOf propertyTable "Prepended_Concatenation_Mark").union (segmentList "Prefixed_Letter")

/-- Controls, and characters without a category of their own that are shown as nothing. -/
def clusterControl : CharSet :=
  let hidden := unassigned.inter (rowOf propertyTable "Default_Ignorable_Code_Point")
  ((categories ["Zl", "Zp", "Cc", "Cf"]).union hidden).diff
    (.unionAll [justCode 0x0D, justCode 0x0A, joiner, clusterExtend,
      rowOf propertyTable "Prepended_Concatenation_Mark"])

/-- Full name and further names of the classes for clusters. -/
def graphemeClassNames : List (String × List String) := [
  ("CR", []), ("Control", ["CN"]), ("Extend", ["EX"]), ("L", []), ("LF", []), ("LV", []),
  ("LVT", []), ("Prepend", ["PP"]), ("Regional_Indicator", ["RI"]), ("SpacingMark", ["SM"]),
  ("T", []), ("V", []), ("ZWJ", [])]

/-- The characters of a class for clusters, by its full name. -/
def graphemeClass (name : String) : CharSet :=
  match name with
  | "CR" => justCode 0x0D
  | "LF" => justCode 0x0A
  | "Control" => clusterControl
  | "Extend" => clusterExtend
  | "Prepend" => clusterPrepend
  | "SpacingMark" =>
      ((category "Mc").union (.ofRanges [(0xE33, 0xE33), (0xEB3, 0xEB3)])).diff
        (clusterExtend.union (segmentList "Not_Spacing"))
  | "L" => segmentList "Hangul_Leading"
  | "V" => segmentList "Hangul_Vowel"
  | "T" => segmentList "Hangul_Trailing"
  | "LV" => openSyllables
  | "LVT" => (CharSet.ofRanges [(0xAC00, 0xD7A3)]).diff openSyllables
  | "Regional_Indicator" => rowOf propertyTable "Regional_Indicator"
  | "ZWJ" => joiner
  | _ => .empty

/-- The characters of a class for clusters, given its loose name. -/
def graphemeClass? (loose : Text) : Option CharSet :=
  (fullName? graphemeClassNames loose).map graphemeClass

/-! ### Words -/

/-- Characters that extend a word. -/
def wordExtend : CharSet := (continuing.union (rowOf propertyTable "Emoji_Modifier")).diff joiner

/-- The syllables and signs that are joined like Katakana. -/
def wordKatakana : CharSet := (rowOf scriptTable "Katakana").union (segmentList "Katakana_Like")

/-- The letters of Hebrew, next to which quotation marks can belong to a word. -/
def wordHebrew : CharSet := (rowOf scriptTable "Hebrew").inter (category "Lo")

/-- The letters that are joined to words by rule: those of scripts that need a dictionary, of
ideographs and of the syllabaries are left out. -/
def wordLetter : CharSet :=
  (alphabetic.union (segmentList "Letter_Like_Symbol")).diff
    (.unionAll [rowOf propertyTable "Ideographic", wordKatakana, segmentList "Complex_Context",
      rowOf scriptTable "Hiragana", wordExtend, wordHebrew])

/-- The characters of numbers inside words. -/
def wordNumber : CharSet := numberParts.diff (justCode 0x66C)

/-- Full name and further names of the classes for words. -/
def wordClassNames : List (String × List String) := [
  ("ALetter", ["LE"]), ("CR", []), ("Double_Quote", ["DQ"]), ("Extend", []),
  ("ExtendNumLet", ["EX"]), ("Format", ["FO"]), ("Hebrew_Letter", ["HL"]), ("Katakana", ["KA"]),
  ("LF", []), ("MidLetter", ["ML"]), ("MidNum", ["MN"]), ("MidNumLet", ["MB"]),
  ("Newline", ["NL"]), ("Numeric", ["NU"]), ("Regional_Indicator", ["RI"]),
  ("Single_Quote", ["SQ"]), ("WSegSpace", []), ("ZWJ", [])]

/-- The characters of a class for words, by its full name. -/
def wordClass (name : String) : CharSet :=
  match name with
  | "ALetter" => wordLetter
  | "CR" => justCode 0x0D
  | "Double_Quote" => justCode 0x22
  | "Extend" => wordExtend
  | "ExtendNumLet" => (category "Pc").union (justCode 0x202F)
  | "Format" =>
      (category "Cf").diff
        (.unionAll [.ofRanges [(0x200B, 0x200D)], wordNumber, wordLetter, wordExtend])
  | "Hebrew_Letter" => wordHebrew
  | "Katakana" => wordKatakana
  | "LF" => justCode 0x0A
  | "MidLetter" => segmentList "Mid_Letter"
  | "MidNum" => segmentList "Mid_Number"
  | "MidNumLet" => segmentList "Mid_Number_Letter"
  | "Newline" => .ofRanges [(0x0B, 0x0C), (0x85, 0x85), (0x2028, 0x2029)]
  | "Numeric" => wordNumber
  | "Regional_Indicator" => rowOf propertyTable "Regional_Indicator"
  | "Single_Quote" => justCode 0x27
  | "WSegSpace" => segmentList "Word_Space"
  | "ZWJ" => joiner
  | _ => .empty

/-- The characters of a class for words, given its loose name. -/
def wordClass? (loose : Text) : Option CharSet := (fullName? wordClassNames loose).map wordClass

/-! ### Sentences -/

/-- Characters that extend what stands before them in a sentence. -/
def sentenceExtend : CharSet := continuing.union joiner

/-- Full stops, which may end a sentence or not. -/
def sentenceStop : CharSet :=
  .ofRanges [(0x2E, 0x2E), (0x2024, 0x2024), (0xFE52, 0xFE52), (0xFF0E, 0xFF0E)]

/-- Marks that end a sentence wherever they stand. -/
def sentenceEnd : CharSet := (rowOf propertyTable "Sentence_Terminal").diff sentenceStop

/-- Lower case, without the letters of a script that has no case in running text. -/
def sentenceLower : CharSet :=
  lowercase.diff (graphemeExtend.union (segmentList "Georgian_Unicase"))

/-- Upper case and title case, without the capitals of that script. -/
def sentenceUpper : CharSet :=
  ((category "Lt").union uppercase).diff (segmentList "Georgian_Capital")

/-- The letters without a case in a sentence. -/
def sentenceLetter : CharSet :=
  (alphabetic.union (justCode 0x5F3)).diff
    (.unionAll [sentenceLower, sentenceUpper, sentenceExtend])

/-- Full name and further names of the classes for sentences. -/
def sentenceClassNames : List (String × List String) := [
  ("ATerm", ["AT"]), ("CR", []), ("Close", ["CL"]), ("Extend", ["EX"]), ("Format", ["FO"]),
  ("LF", []), ("Lower", ["LO"]), ("Numeric", ["NU"]), ("OLetter", ["LE"]), ("SContinue", ["SC"]),
  ("STerm", ["ST"]), ("Sep", ["SE"]), ("Sp", []), ("Upper", ["UP"])]

/-- The characters of a class for sentences, by its full name. -/
def sentenceClass (name : String) : CharSet :=
  match name with
  | "ATerm" => sentenceStop
  | "CR" => justCode 0x0D
  | "Close" =>
      ((categories ["Ps", "Pe", "Pi", "Pf"]).union (segmentList "Quotation")).diff
        (.unionAll [justCode 0x5F3, sentenceStop, sentenceEnd])
  | "Extend" => sentenceExtend
  | "Format" =>
      (category "Cf").diff
        (.unionAll [.ofRanges [(0x200C, 0x200D)], numberParts, sentenceLetter, sentenceExtend])
  | "LF" => justCode 0x0A
  | "Lower" => sentenceLower
  | "Numeric" => numberParts
  | "OLetter" => sentenceLetter
  | "SContinue" => segmentList "Sentence_Continue"
  | "STerm" => sentenceEnd
  | "Sep" => .ofRanges [(0x85, 0x85), (0x2028, 0x2029)]
  | "Sp" =>
      (rowOf propertyTable "White_Space").diff
        (.ofRanges [(0x0A, 0x0A), (0x0D, 0x0D), (0x85, 0x85), (0x2028, 0x2029)])
  | "Upper" => sentenceUpper
  | _ => .empty

/-- The characters of a class for sentences, given its loose name. -/
def sentenceClass? (loose : Text) : Option CharSet :=
  (fullName? sentenceClassNames loose).map sentenceClass

end CommandShell.Unicode
