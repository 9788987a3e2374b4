import CommandShell.Text.Basic

/-!
# Names in the standard

Properties and their values have several names each, and a name is compared loosely: case,
blanks, hyphens and underscores do not matter, nor does a leading `is`.

## Main definitions

* `looseName` — a name as it is compared.
* `answersTo` — a list of names has one that is loosely the given one.
* `otherProperties` — the names of the properties that are not answered by a set of their own.
-/

namespace CommandShell.Unicode

/-- An ASCII letter in lower case; any other character as it is. -/
def asciiLower (c : Char) : Char :=
  if 'A' ≤ c && c ≤ 'Z' then Char.ofNat (c.toNat + 32) else c

/-- A name without case, separators and characters outside ASCII, and without a leading `is`.
The name `isc` is its own, as it would otherwise be read as `c`. -/
def looseName (name : Text) : Text :=
  let lowered := name.map asciiLower
  let (stripped, body) := match lowered with
    | 'i' :: 's' :: rest => (true, rest)
    | _ => (false, lowered)
  let kept := body.filter fun c => c != ' ' && c != '_' && c != '-' && c.toNat < 0x80
  if stripped && kept == ['c'] then ['i', 's', 'c'] else kept

/-- One of the names is loosely the given loose name. -/
def answersTo (loose : Text) (names : List String) : Bool :=
  names.any fun name => looseName name.toList == loose

/-- The name in front of the row that has the given loose name. -/
def fullName? (rows : List (String × List String)) (loose : Text) : Option String :=
  (rows.find? fun (full, short) => answersTo loose (full :: short)).map Prod.fst

/-- The properties of the standard that are known by name, with no set of characters to answer
for the name alone. -/
def otherProperties : List (String × List String) := [
  ("Age", []), ("Bidi_Class", ["bc"]), ("Bidi_Mirroring_Glyph", ["bmg"]),
  ("Bidi_Paired_Bracket", ["bpb"]), ("Bidi_Paired_Bracket_Type", ["bpt"]), ("Block", ["blk"]),
  ("Canonical_Combining_Class", ["ccc"]), ("Case_Folding", ["cf"]),
  ("Changes_When_NFKC_Casefolded", ["CWKCF"]), ("Composition_Exclusion", ["CE"]),
  ("Decomposition_Mapping", ["dm"]), ("Decomposition_Type", ["dt"]),
  ("East_Asian_Width", ["ea"]), ("Equivalent_Unified_Ideograph", ["EqUIdeo"]),
  ("Expands_On_NFC", ["XO_NFC"]), ("Expands_On_NFD", ["XO_NFD"]),
  ("Expands_On_NFKC", ["XO_NFKC"]), ("Expands_On_NFKD", ["XO_NFKD"]),
  ("FC_NFKC_Closure", ["FC_NFKC"]), ("Full_Composition_Exclusion", ["Comp_Ex"]),
  ("General_Category", ["gc"]), ("Grapheme_Cluster_Break", ["GCB"]),
  ("Hangul_Syllable_Type", ["hst"]), ("ISO_Comment", ["isc"]),
  ("Indic_Conjunct_Break", ["InCB"]), ("Indic_Positional_Category", ["InPC"]),
  ("Indic_Syllabic_Category", ["InSC"]), ("Jamo_Short_Name", ["JSN"]), ("Joining_Group", ["jg"]),
  ("Joining_Type", ["jt"]), ("Line_Break", ["lb"]), ("Lowercase_Mapping", ["lc"]),
  ("NFC_Quick_Check", ["NFC_QC"]), ("NFD_Quick_Check", ["NFD_QC"]),
  ("NFKC_Casefold", ["NFKC_CF"]), ("NFKC_Quick_Check", ["NFKC_QC"]),
  ("NFKC_Simple_Casefold", ["NFKC_SCF"]), ("NFKD_Quick_Check", ["NFKD_QC"]), ("Name", ["na"]),
  ("Name_Alias", []), ("Numeric_Type", ["nt"]), ("Numeric_Value", ["nv"]), ("Script", ["sc"]),
  ("Script_Extensions", ["scx"]), ("Sentence_Break", ["SB"]),
  ("Simple_Case_Folding", ["scf", "sfc"]), ("Simple_Lowercase_Mapping", ["slc"]),
  ("Simple_Titlecase_Mapping", ["stc"]), ("Simple_Uppercase_Mapping", ["suc"]),
  ("Titlecase_Mapping", ["tc"]), ("Unicode_1_Name", ["na1"]), ("Uppercase_Mapping", ["uc"]),
  ("Vertical_Orientation", ["vo"]), ("Word_Break", ["WB"]),
  ("kAccountingNumeric", ["cjkAccountingNumeric"]),
  ("kCompatibilityVariant", ["cjkCompatibilityVariant"]), ("kEH_Cat", []), ("kEH_Desc", []),
  ("kEH_HG", []), ("kEH_IFAO", []), ("kEH_JSesh", []), ("kEH_NoMirror", []),
  ("kEH_NoRotate", []), ("kIICore", ["cjkIICore"]), ("kIRG_GSource", ["cjkIRG_GSource"]),
  ("kIRG_HSource", ["cjkIRG_HSource"]), ("kIRG_JSource", ["cjkIRG_JSource"]),
  ("kIRG_KPSource", ["cjkIRG_KPSource"]), ("kIRG_KSource", ["cjkIRG_KSource"]),
  ("kIRG_MSource", ["cjkIRG_MSource"]), ("kIRG_SSource", ["cjkIRG_SSource"]),
  ("kIRG_TSource", ["cjkIRG_TSource"]), ("kIRG_UKSource", ["cjkIRG_UKSource"]),
  ("kIRG_USource", ["cjkIRG_USource"]), ("kIRG_VSource", ["cjkIRG_VSource"]),
  ("kOtherNumeric", ["cjkOtherNumeric"]), ("kPrimaryNumeric", ["cjkPrimaryNumeric"]),
  ("kRSUnicode", ["cjkRSUnicode", "Unicode_Radical_Stroke", "URS"])]

end CommandShell.Unicode
