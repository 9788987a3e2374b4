import CommandShell.Proofs.CharSets
import CommandShell.Unicode.Property
import CommandShell.Variables

/-!
# Word characters of ASCII

The word characters are put together from tables: letters, marks, digits and the punctuation
that connects words.  Whether a given character is one of them is not seen without going through
the tables.  That is done here once, for all of ASCII: the tables say that its word characters
are the letters, the digits and the underscore.

## Main definitions

* `asciiPart` — the ranges of a set that start within ASCII.
* `wordCategories`, `asciiRanges` — the categories of word characters, and their part of ASCII.

## Main results

* `asciiPart_ofTable_row` — the tables of these categories reach into ASCII where they should.
* `has_wordChars_of_ascii` — the word characters within ASCII.
-/

namespace CommandShell.Unicode

open CharSet

/-! ### Going through a table -/

/-- The ranges of a set that start within ASCII. -/
def asciiPart (s : CharSet) : List (Nat × Nat) := s.ranges.filter fun r => r.1 < 0x80

section Part

variable {s : CharSet} {n : Nat} {t : Text} {lines : List String} {part : List (Nat × Nat)}

theorem covers_asciiPart (h : n < 0x80) : Covers (asciiPart s) n ↔ Covers s.ranges n := by
  constructor
  · rintro ⟨r, hr, hn⟩
    exact ⟨r, (List.mem_filter.mp hr).1, hn⟩
  · rintro ⟨r, hr, hn⟩
    have hstart : r.1 < 0x80 := Nat.lt_of_le_of_lt hn.1 h
    exact ⟨r, List.mem_filter.mpr ⟨hr, by simpa using hstart⟩, hn⟩

theorem lt_of_asciiPart (hpart : asciiPart s = []) (h : n < 0x80) : ∀ r ∈ s.ranges, n < r.1 := by
  intro r hr
  have hstart : ¬ r.1 < 0x80 := by simpa using List.filter_eq_nil_iff.mp hpart r hr
  omega

theorem asciiPart_cons (t : Text) (lines : List String) :
    asciiPart (ofTable (String.ofList t :: lines))
      = ((t.splitOn ' ').map readRange).filter (fun r => r.1 < 0x80) ++
        asciiPart (ofTable lines) := by
  simp [asciiPart, ofTable, String.toList_ofList]

/-- A line that does not reach into ASCII can be passed over. -/
theorem asciiPart_skip (hlines : asciiPart (ofTable lines) = part)
    (hline : ((t.splitOn ' ').map readRange).all (fun r => Nat.ble 0x80 r.1) = true) :
    asciiPart (ofTable (String.ofList t :: lines)) = part := by
  have hnone : ((t.splitOn ' ').map readRange).filter (fun r => r.1 < 0x80) = [] := by
    refine List.filter_eq_nil_iff.mpr fun r hr => ?_
    have hle := Nat.le_of_ble_eq_true (List.all_eq_true.mp hline r hr)
    simpa using hle
  rw [asciiPart_cons, hnone, hlines, List.nil_append]

/-- Only the first line of a table reaches into ASCII. -/
theorem asciiPart_first (hlines : asciiPart (ofTable lines) = [])
    (hline : ((t.splitOn ' ').map readRange).filter (fun r => r.1 < 0x80) = part) :
    asciiPart (ofTable (String.ofList t :: lines)) = part := by
  rw [asciiPart_cons, hline, hlines, List.append_nil]

end Part

/-! ### The tables of word characters -/

/-- The categories of word characters. -/
def wordCategories : List String :=
  ["Lu", "Ll", "Lt", "Lm", "Lo", "Mn", "Mc", "Me", "Nd", "Nl", "Pc"]

/-- Where the categories of word characters reach into ASCII. -/
def asciiRanges : String → List (Nat × Nat)
  | "Lu" => [(0x41, 0x5A)]
  | "Ll" => [(0x61, 0x7A)]
  | "Nd" => [(0x30, 0x39)]
  | "Pc" => [(0x5F, 0x5F)]
  | _ => []

/-- The tables of the categories of word characters reach into ASCII where they should. -/
theorem asciiPart_ofTable_row :
    ∀ row ∈ categoryTable, row.1 ∈ wordCategories →
      asciiPart (ofTable row.2) = asciiRanges row.1 := by
  simp only [categoryTable, List.forall_mem_cons, List.not_mem_nil, false_imp_iff, implies_true,
    and_true]
  and_intros
  all_goals intro hrow
  -- Tables of other characters need not be looked at.
  all_goals first
    | exact absurd hrow (by decide)
    | apply asciiPart_first
      case hline => decide +kernel
      case hlines =>
        repeat apply asciiPart_skip
        · rfl
        all_goals decide +kernel

/-- A row of a table is found under its name, past rows of other names. -/
theorem rowOf_cons_self (name : String) (lines : List String)
    (table : List (String × List String)) :
    rowOf ((name, lines) :: table) name = ofTable lines := by
  simp [rowOf]

theorem rowOf_cons_of_ne {name other : String} (h : other ≠ name) (lines : List String)
    (table : List (String × List String)) :
    rowOf ((other, lines) :: table) name = rowOf table name := by
  simp [rowOf, h]

theorem asciiPart_otherAlphabetic : asciiPart (supplement "Other_Alphabetic") = [] := by
  rw [supplement, supplementTable, rowOf_cons_self]
  repeat apply asciiPart_skip
  · rfl
  all_goals decide +kernel

theorem asciiPart_joinControl : asciiPart (rowOf propertyTable "Join_Control") = [] := by
  rw [propertyTable]
  repeat rw [rowOf_cons_of_ne (by decide)]
  rw [rowOf_cons_self]
  exact asciiPart_skip rfl (by decide +kernel)

/-! ### Sets put together from the tables -/

theorem covers_categoriesStarting (start : Text) (c : Char) :
    Covers (categoriesStarting start).ranges c.toNat ↔
      ∃ row ∈ categoryTable, start.isPrefixOf row.1.toList = true ∧
        Covers (ofTable row.2).ranges c.toNat := by
  simp [categoriesStarting, covers_unionAll, List.mem_map, List.mem_filter, and_assoc]

/-- The names of the categories of word characters are those that begin in one of a few ways. -/
theorem mem_wordCategories_iff {short : String} (h : short ∈ ["L", "M", "Nd", "Nl", "Pc"])
    {name : String} :
    name ∈ categoryTable.map Prod.fst ∧ short.toList.isPrefixOf name.toList = true ↔
      name ∈ wordCategories ∧ short.toList.isPrefixOf name.toList = true := by
  have hnames : ∀ short ∈ ["L", "M", "Nd", "Nl", "Pc"], ∀ name ∈ categoryTable.map Prod.fst,
      short.toList.isPrefixOf name.toList = true → name ∈ wordCategories := by
    decide +kernel
  have hrows : ∀ name ∈ wordCategories, name ∈ categoryTable.map Prod.fst := by
    decide +kernel
  exact ⟨fun ⟨hname, hstart⟩ => ⟨hnames short h name hname hstart, hstart⟩,
    fun ⟨hname, hstart⟩ => ⟨hrows name hname, hstart⟩⟩

theorem covers_category {c : Char} (h : c.toNat < 0x80) {short : String}
    (hshort : short ∈ ["L", "M", "Nd", "Nl", "Pc"]) :
    Covers (category short).ranges c.toNat ↔
      ∃ name ∈ wordCategories, short.toList.isPrefixOf name.toList = true ∧
        Covers (asciiRanges name) c.toNat := by
  have hcategory : ∀ short ∈ ["L", "M", "Nd", "Nl", "Pc"],
      category short = categoriesStarting short.toList := by
    simp [category]
  rw [hcategory short hshort, covers_categoriesStarting]
  constructor
  · rintro ⟨row, hrow, hstart, hcovers⟩
    have hname := (mem_wordCategories_iff hshort).mp ⟨List.mem_map_of_mem hrow, hstart⟩
    rw [← covers_asciiPart h, asciiPart_ofTable_row row hrow hname.1] at hcovers
    exact ⟨row.1, hname.1, hstart, hcovers⟩
  · rintro ⟨name, hname, hstart, hcovers⟩
    obtain ⟨row, hrow, rfl⟩ :=
      List.mem_map.mp ((mem_wordCategories_iff hshort).mpr ⟨hname, hstart⟩).1
    rw [← asciiPart_ofTable_row row hrow hname, covers_asciiPart h] at hcovers
    exact ⟨row, hrow, hstart, hcovers⟩

/-- The word characters within ASCII are the characters that names of variables are made of. -/
theorem has_wordChars_of_ascii {c : Char} (h : c.toNat < 0x80) :
    wordChars.has c = isNameChar c := by
  have hother := lt_of_asciiPart asciiPart_otherAlphabetic h
  have hjoin := not_covers_of_lt (lt_of_asciiPart asciiPart_joinControl h)
  have halphabetic : Covers alphabetic.ranges c.toNat ↔
      Covers (categories ["L", "Nl"]).ranges c.toNat := by
    have hascending : Ascending (categories ["L", "Nl"]).ranges := ascending_ofRanges _
    rw [alphabetic, covers_union hascending, or_iff_left (not_covers_of_lt hother)]
    exact List.pairwise_of_forall_mem_list fun _ _ s hs => .inr (hother s hs)
  rw [Bool.eq_iff_iff, wordChars, has_unionAll]
  have hcategories (shorts : List String) : Covers (categories shorts).ranges c.toNat ↔
      ∃ short ∈ shorts, Covers (category short).ranges c.toNat := by
    simp [categories, covers_unionAll]
  simp only [List.mem_cons, List.not_mem_nil, or_false, exists_eq_or_imp, exists_eq_left, hjoin,
    halphabetic, hcategories]
  rw [covers_category h (by decide), covers_category h (by decide), covers_category h (by decide),
    covers_category h (by decide), covers_category h (by decide)]
  have hunderscore : c = '_' ↔ c.toNat = 0x5F := by rw [← Char.toNat_inj]; rfl
  simp [wordCategories, asciiRanges, isNameChar, isNameStart, Char.le_def,
    UInt32.le_iff_toNat_le, hunderscore]
  omega

end CommandShell.Unicode
