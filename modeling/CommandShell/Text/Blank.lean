import CommandShell.Text.Basic

/-!
# White space

The shell separates words by the characters with the Unicode property `White_Space`, trims
configuration values of them, and counts words between them.

## Main definitions

* `isBlank` — the property `White_Space`, all 25 characters of it.
* `trim`, `trimStart`, `trimEnd` — a text without the blanks at its ends.
* `allBlank` — nothing is left after trimming.
* `blankWords` — the maximal runs of other characters.
-/

namespace CommandShell

/-- The Unicode property `White_Space`.  The separators U+001C to U+001F and the zero width
characters do not have it. -/
def isBlank (c : Char) : Bool :=
  let n := c.toNat
  (0x09 ≤ n && n ≤ 0x0D) || n == 0x20 || n == 0x85 || n == 0xA0 || n == 0x1680 ||
    (0x2000 ≤ n && n ≤ 0x200A) || n == 0x2028 || n == 0x2029 || n == 0x202F ||
      n == 0x205F || n == 0x3000

/-- A text without its leading blanks. -/
def trimStart (t : Text) : Text := t.dropWhile isBlank

/-- A text without its trailing blanks. -/
def trimEnd (t : Text) : Text := (t.reverse.dropWhile isBlank).reverse

/-- A text without the blanks at either end. -/
def trim (t : Text) : Text := trimEnd (trimStart t)

/-- Every character of the text is blank; so is the empty text. -/
def allBlank (t : Text) : Bool := t.all isBlank

/-- The number of maximal runs of characters that are not blank; `inWord` tells whether the
character before the text belongs to a run, which has then been counted already. -/
def countWordsFrom : Bool → Text → Nat
  | _, [] => 0
  | inWord, c :: rest =>
      if isBlank c then countWordsFrom false rest
      else (if inWord then 0 else 1) + countWordsFrom true rest

/-- The number of words of a text: maximal runs of characters that are not blank. -/
def countWords (t : Text) : Nat := countWordsFrom false t

end CommandShell
