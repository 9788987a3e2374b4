import CommandShell.Unicode.CategoryTable
import CommandShell.Unicode.CharSet

/-!
# Looking up categories

## Main definitions

* `category` — the characters of a category by its short name, such as `Lu` or `L`.
* `categoryNames` — the names of the categories, compared without regard to case and
  separators.
-/

namespace CommandShell.Unicode

/-- The characters of the assigned categories whose short names have the given start. -/
def categoriesStarting (start : Text) : CharSet :=
  .unionAll ((categoryTable.filter fun row => start.isPrefixOf row.1.toList).map
    fun row => .ofTable row.2)

/-- The characters without a category of their own. -/
def unassigned : CharSet := (categoriesStarting []).compl

/-- The characters of a category by its short name; a one-letter name stands for all
categories that start with that letter. -/
def category (short : String) : CharSet :=
  match short with
  | "Cn" => unassigned
  | "C" => (categoriesStarting ['C']).union unassigned
  | "LC" => .unionAll [categoriesStarting ['L', 'u'], categoriesStarting ['L', 'l'],
      categoriesStarting ['L', 't']]
  | _ => categoriesStarting short.toList

/-- Short name and further names of the categories.  The surrogates are characters of no
text, so their category has a name but no characters. -/
def categoryNames : List (String × List String) := [
  ("C", ["c", "other"]), ("Cc", ["cc", "control", "cntrl"]), ("Cf", ["cf", "format"]),
  ("Cn", ["cn", "unassigned"]), ("Co", ["co", "privateuse"]), ("Cs", ["cs", "surrogate"]),
  ("L", ["l", "letter"]), ("LC", ["lc", "casedletter"]), ("Ll", ["ll", "lowercaseletter"]),
  ("Lm", ["lm", "modifierletter"]), ("Lo", ["lo", "otherletter"]),
  ("Lt", ["lt", "titlecaseletter"]), ("Lu", ["lu", "uppercaseletter"]),
  ("M", ["m", "mark", "combiningmark"]), ("Mc", ["mc", "spacingmark"]),
  ("Me", ["me", "enclosingmark"]), ("Mn", ["mn", "nonspacingmark"]), ("N", ["n", "number"]),
  ("Nd", ["nd", "decimalnumber", "digit"]), ("Nl", ["nl", "letternumber"]),
  ("No", ["no", "othernumber"]), ("P", ["p", "punctuation", "punct"]),
  ("Pc", ["pc", "connectorpunctuation"]), ("Pd", ["pd", "dashpunctuation"]),
  ("Pe", ["pe", "closepunctuation"]), ("Pf", ["pf", "finalpunctuation"]),
  ("Pi", ["pi", "initialpunctuation"]), ("Po", ["po", "otherpunctuation"]),
  ("Ps", ["ps", "openpunctuation"]), ("S", ["s", "symbol"]), ("Sc", ["sc", "currencysymbol"]),
  ("Sk", ["sk", "modifiersymbol"]), ("Sm", ["sm", "mathsymbol"]), ("So", ["so", "othersymbol"]),
  ("Z", ["z", "separator"]), ("Zl", ["zl", "lineseparator"]),
  ("Zp", ["zp", "paragraphseparator"]), ("Zs", ["zs", "spaceseparator"])]

end CommandShell.Unicode
