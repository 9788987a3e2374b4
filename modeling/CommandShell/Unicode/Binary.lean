import CommandShell.Unicode.Category
import CommandShell.Unicode.Name
import CommandShell.Unicode.PropertyTable

/-!
# Binary properties

A binary property is a set of characters.  Most are lists; the larger ones are put together
from categories and a short list of further characters.

## Main definitions

* `alphabetic`, `lowercase`, `uppercase`, `graphemeExtend`, … — the derived properties.
* `binaryProperty` — the characters with a property by its full name.
* `binaryProperty?` — the same by any of its names.
-/

namespace CommandShell.Unicode

/-! ### Lists -/

/-- The characters of a row of a table. -/
def rowOf (table : List (String × List String)) (name : String) : CharSet :=
  ((table.find? fun row => row.1 == name).map fun row => CharSet.ofTable row.2).getD .empty

/-- The characters that a derived property adds to the categories, or differs from them in. -/
def supplement (name : String) : CharSet := rowOf supplementTable name

/-- The characters of the union of some categories. -/
def categories (shorts : List String) : CharSet := .unionAll (shorts.map category)

/-! ### Derived properties -/

/-- Letters, marks and whatever else is used like a letter. -/
def alphabetic : CharSet := (categories ["L", "Nl"]).union (supplement "Other_Alphabetic")

/-- Characters in lower case. -/
def lowercase : CharSet := (category "Ll").union (supplement "Other_Lowercase")

/-- Characters in upper case. -/
def uppercase : CharSet := (category "Lu").union (supplement "Other_Uppercase")

/-- Characters that extend the one before them. -/
def graphemeExtend : CharSet :=
  (categories ["Mn", "Me"]).union (supplement "Other_Grapheme_Extend")

/-- Characters that can start an identifier. -/
def idStart : CharSet :=
  ((categories ["L", "Nl"]).union (supplement "Other_ID_Start")).diff
    ((rowOf propertyTable "Pattern_Syntax").union (rowOf propertyTable "Pattern_White_Space"))

/-- Characters that can continue an identifier. -/
def idContinue : CharSet :=
  .unionAll [idStart, categories ["Mn", "Mc", "Nd", "Pc"], supplement "Other_ID_Continue"]

/-- Characters that lower casing changes. -/
def changesWhenLowercased : CharSet :=
  (uppercase.union (category "Lt")).symmDiff (supplement "Lowercasing_Exceptions")

/-- Characters that upper casing changes. -/
def changesWhenUppercased : CharSet :=
  (lowercase.union (category "Lt")).symmDiff (supplement "Uppercasing_Exceptions")

/-- Characters that title casing changes. -/
def changesWhenTitlecased : CharSet :=
  lowercase.symmDiff (supplement "Titlecasing_Exceptions")

/-- The characters of a binary property by its full name. -/
def binaryProperty (name : String) : CharSet :=
  match name with
  | "Alphabetic" => alphabetic
  | "Lowercase" => lowercase
  | "Uppercase" => uppercase
  | "Cased" => .unionAll [lowercase, uppercase, category "Lt"]
  | "Case_Ignorable" =>
      (categories ["Mn", "Me", "Cf", "Lm", "Sk"]).union (supplement "Other_Case_Ignorable")
  | "Changes_When_Lowercased" => changesWhenLowercased
  | "Changes_When_Uppercased" => changesWhenUppercased
  | "Changes_When_Titlecased" => changesWhenTitlecased
  | "Changes_When_Casefolded" =>
      (uppercase.union (category "Lt")).symmDiff (supplement "Casefolding_Exceptions")
  | "Changes_When_Casemapped" =>
      .unionAll [changesWhenLowercased, changesWhenUppercased, changesWhenTitlecased]
  | "Math" => (category "Sm").union (supplement "Other_Math")
  | "Grapheme_Extend" => graphemeExtend
  | "Grapheme_Base" =>
      ((categories ["C", "Zl", "Zp"]).union graphemeExtend).compl
  | "ID_Start" => idStart
  | "ID_Continue" => idContinue
  | "XID_Start" => idStart.diff (supplement "ID_Start_Not_XID")
  | "XID_Continue" => idContinue.diff (supplement "ID_Continue_Not_XID")
  | _ => rowOf propertyTable name

/-! ### Names -/

/-- Full name and further names of the binary properties. -/
def binaryPropertyNames : List (String × List String) := [
  ("ASCII_Hex_Digit", ["AHex"]), ("Alphabetic", ["Alpha"]), ("Bidi_Control", ["Bidi_C"]),
  ("Bidi_Mirrored", ["Bidi_M"]), ("Case_Ignorable", ["CI"]), ("Cased", []),
  ("Changes_When_Casefolded", ["CWCF"]), ("Changes_When_Casemapped", ["CWCM"]),
  ("Changes_When_Lowercased", ["CWL"]), ("Changes_When_Titlecased", ["CWT"]),
  ("Changes_When_Uppercased", ["CWU"]), ("Dash", []), ("Default_Ignorable_Code_Point", ["DI"]),
  ("Deprecated", ["Dep"]), ("Diacritic", ["Dia"]), ("Emoji", []), ("Emoji_Component", ["EComp"]),
  ("Emoji_Modifier", ["EMod"]), ("Emoji_Modifier_Base", ["EBase"]),
  ("Emoji_Presentation", ["EPres"]), ("Extended_Pictographic", ["ExtPict"]), ("Extender", ["Ext"]),
  ("Grapheme_Base", ["Gr_Base"]), ("Grapheme_Extend", ["Gr_Ext"]), ("Grapheme_Link", ["Gr_Link"]),
  ("Hex_Digit", ["Hex"]), ("Hyphen", []), ("IDS_Binary_Operator", ["IDSB"]),
  ("IDS_Trinary_Operator", ["IDST"]), ("IDS_Unary_Operator", ["IDSU"]),
  ("ID_Compat_Math_Continue", []), ("ID_Compat_Math_Start", []), ("ID_Continue", ["IDC"]),
  ("ID_Start", ["IDS"]), ("Ideographic", ["Ideo"]), ("Join_Control", ["Join_C"]),
  ("Logical_Order_Exception", ["LOE"]), ("Lowercase", ["Lower"]), ("Math", []),
  ("Modifier_Combining_Mark", ["MCM"]), ("Noncharacter_Code_Point", ["NChar"]),
  ("Other_Alphabetic", ["OAlpha"]), ("Other_Default_Ignorable_Code_Point", ["ODI"]),
  ("Other_Grapheme_Extend", ["OGr_Ext"]), ("Other_ID_Continue", ["OIDC"]),
  ("Other_ID_Start", ["OIDS"]), ("Other_Lowercase", ["OLower"]), ("Other_Math", ["OMath"]),
  ("Other_Uppercase", ["OUpper"]), ("Pattern_Syntax", ["Pat_Syn"]),
  ("Pattern_White_Space", ["Pat_WS"]), ("Prepended_Concatenation_Mark", ["PCM"]),
  ("Quotation_Mark", ["QMark"]), ("Radical", []), ("Regional_Indicator", ["RI"]),
  ("Sentence_Terminal", ["STerm"]), ("Soft_Dotted", ["SD"]), ("Terminal_Punctuation", ["Term"]),
  ("Unified_Ideograph", ["UIdeo"]), ("Uppercase", ["Upper"]), ("Variation_Selector", ["VS"]),
  ("White_Space", ["WSpace", "space"]), ("XID_Continue", ["XIDC"]), ("XID_Start", ["XIDS"])]

/-- The characters with a binary property, given its loose name.  The properties whose names
start with `Other` are what the derived ones add. -/
def binaryProperty? (loose : Text) : Option CharSet :=
  (fullName? binaryPropertyNames loose).map fun full =>
    if "Other_".toList.isPrefixOf full.toList then supplement full else binaryProperty full

end CommandShell.Unicode
