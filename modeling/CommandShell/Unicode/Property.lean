import CommandShell.Unicode.Age
import CommandShell.Unicode.Segment

/-!
# Asking for characters by property

A query names a binary property, a category or a script, or a property together with a value.

## Main definitions

* `category?`, `script?`, `scriptExtension?` — the characters of a category, of a script, and
  those used in a script.
* `PropertyQuery`, `PropertyQuery.find` — the characters that a query describes.
* `wordChars`, `digitChars`, `spaceChars` — the characters of `\w`, `\d` and `\s`.
* `nameLetters`, `nameChars` — the characters that names are made of.
-/

namespace CommandShell.Unicode

/-! ### Categories and scripts -/

/-- The characters of a category by its loose name; `none` in the answer if it has none. -/
def category? (loose : Text) : Option (Option CharSet) :=
  if loose == "any".toList then some (some .all)
  else if loose == "ascii".toList then some (some (.ofRanges [(0, 0x7F)]))
  else if loose == "assigned".toList then some (some unassigned.compl)
  else (categoryNames.find? fun (_, names) => names.any fun s => s.toList == loose).map
    fun (short, _) => if short == "Cs" then none else some (category short)

/-- The full name of a script, given its loose name. -/
def scriptName? (loose : Text) : Option String :=
  match scriptTable.find? fun (full, _) => looseName full.toList == loose with
  | some (full, _) => some full
  | none => (scriptAliases.find? fun (short, _) => short.toList == loose).map Prod.snd

/-- The scripts that no character has, which have names all the same. -/
def emptyScripts : List (String × List String) := [
  ("Katakana_Or_Hiragana", ["Hrkt"]), ("Unknown", ["Zzzz"])]

/-- The characters of a script by its loose name. -/
def script? (loose : Text) : Option CharSet := (scriptName? loose).map (rowOf scriptTable)

/-- The characters that are used in a script: its own, less those whose use is described
otherwise, and those that are described to be used in it. -/
def scriptExtension? (loose : Text) : Option CharSet :=
  (scriptName? loose).map fun full =>
    let described := CharSet.unionAll (scriptExtensionTable.map fun row => .ofTable row.2)
    let used := CharSet.unionAll ((scriptExtensionTable.filter fun row =>
      row.1.contains full).map fun row => .ofTable row.2)
    ((rowOf scriptTable full).diff described).union used

/-! ### Queries -/

/-- A question for a set of characters. -/
inductive PropertyQuery where
  /-- A binary property, a category or a script. -/
  | named (name : Text)
  /-- A property that has a value. -/
  | valued (name value : Text)
  deriving DecidableEq, Repr

/-- Why a query has no answer. -/
inductive PropertyFault where
  /-- There is no such property. -/
  | noProperty
  /-- The property has no such value. -/
  | noValue
  deriving DecidableEq, Repr

/-- The property has a name, though perhaps no values that can be asked for. -/
def isPropertyName (loose : Text) : Bool :=
  (fullName? otherProperties loose).isSome || (fullName? binaryPropertyNames loose).isSome

/-- The characters that have a value of a property, given the full name of the property and
the loose name of the value. -/
def propertyValue? (property : String) (loose : Text) : Option CharSet :=
  match property with
  | "General_Category" => (category? loose).join
  | "Script" => script? loose
  | "Script_Extensions" => scriptExtension? loose
  | "Age" => assignedUpTo? loose
  | "Grapheme_Cluster_Break" => graphemeClass? loose
  | "Word_Break" => wordClass? loose
  | "Sentence_Break" => sentenceClass? loose
  | _ => none

/-- The answer for a value, which may have no characters. -/
def orNoValue (found : Option CharSet) : Except PropertyFault CharSet :=
  match found with
  | some s => .ok s
  | none => .error .noValue

/-- The characters that a query describes.  A bare name is looked up among the binary
properties, the categories and the scripts, in this order; a value only where the property has
a name. -/
def PropertyQuery.find : PropertyQuery → Except PropertyFault CharSet
  | .named name =>
      let loose := looseName name
      match binaryProperty? loose with
      | some s => .ok s
      | none =>
          match category? loose with
          | some found => orNoValue found
          | none =>
              match script? loose with
              | some s => .ok s
              | none =>
                  if (fullName? emptyScripts loose).isSome then .error .noValue
                  else .error .noProperty
  | .valued name value =>
      let loose := looseName name
      if isPropertyName loose then
        orNoValue ((fullName? otherProperties loose).bind fun full =>
          propertyValue? full (looseName value))
      else .error .noProperty

/-! ### Common sets -/

/-- Letters, marks, decimal digits, connecting punctuation and the two joiners. -/
def wordChars : CharSet :=
  .unionAll [alphabetic, categories ["M", "Nd", "Pc"], rowOf propertyTable "Join_Control"]

/-- The decimal digits. -/
def digitChars : CharSet := category "Nd"

/-- White space. -/
def spaceChars : CharSet := rowOf propertyTable "White_Space"

/-! ### Names -/

/-- Letters in the wide sense, with those that version 17 of the standard adds. -/
def nameLetters : CharSet :=
  alphabetic.union (.ofTable [
    "88F C5C CDC A7CE-A7CF A7D2 A7D4 A7F1 10940-10959 10EC5-10EC7 10EFA-10EFB 11B60-11B67",
    "11DB0-11DDB 16EA0-16EB8 16EBB-16ED3 16FF2-16FF6 187F8-187FF 18D09-18D1E 18D80-18DF2",
    "1E6C0-1E6DE 1E6E0-1E6F5 1E6FE-1E6FF 2B73A-2B73F 2CEA2-2CEAD 323B0-33479"])

/-- The same with numbers of every kind, again as of version 17. -/
def nameChars : CharSet :=
  .unionAll [nameLetters, category "N", .ofTable ["11DE0-11DE9 16FF4-16FF6"]]

end CommandShell.Unicode
