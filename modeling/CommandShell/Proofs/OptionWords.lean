import CommandShell.Line.Options
import Mathlib.Data.List.TakeWhile

/-!
# The words that are options

A word in front of `--` is an option word or it is not, and its spelling alone decides.  So a
row of words can be taken apart in two passes that do not look at each other: the words that are
no option words are the positional arguments, and the others give, one after the other, the
*items* of which the options are made, a key with a value or a key without.

Since the two passes do not look at each other, it does not matter how option words and
positional words are mixed.

## Main definitions

* `OptionWord word keys value` — the word is an option word, it names these options, and it
  attaches the value, if it has one, to the last of them.
* `Attached key words values` — the values that a row of words attaches to an option.
* `beforeMarker`, `afterMarker` — the words before the first `--`, and those after it.

## Main results

* `readOption?_eq_some_iff` — the words that are read as options are the option words.
* `splitOptionsFrom_append` — a row of words is taken apart word by word.
* `splitOptions_exact` — **nothing is lost, doubled or moved when options are split off.**
-/

namespace CommandShell

/-! ### Option words -/

/-- The word that ends the options. -/
def endMarker : Text := ['-', '-']

/-- The characters that cannot come first in a group of one-letter options. -/
def StartsGroup (c : Char) : Prop := c ∉ ['-', '='] ∧ isDigit c = false

instance : DecidablePred StartsGroup := fun _ => inferInstanceAs (Decidable (_ ∧ _))

theorem StartsGroup.ne_sign {c : Char} (h : StartsGroup c) : c ≠ '=' := by
  rintro rfl
  exact h.1 (by simp)

theorem StartsGroup.not_mem_cons {c : Char} (h : StartsGroup c) {letters : Text}
    (hletters : '=' ∉ letters) : '=' ∉ c :: letters :=
  List.not_mem_cons_of_ne_of_not_mem h.ne_sign.symm hletters

/-- **A word is an option word.**  It names some options, and it may attach a value to the last
of them. -/
inductive OptionWord : Text → List Text → Option Text → Prop
  /-- `--key`. -/
  | flag {key : Text} : key ≠ [] → '=' ∉ key → OptionWord ('-' :: '-' :: key) [key] none
  /-- `--key=value`. -/
  | setting {key value : Text} : key ≠ [] → '=' ∉ key →
      OptionWord ('-' :: '-' :: (key ++ '=' :: value)) [key] (some value)
  /-- `-abc`. -/
  | group {c : Char} {letters : Text} : StartsGroup c → '=' ∉ letters →
      OptionWord ('-' :: c :: letters) ((c :: letters).map fun x => [x]) none
  /-- `-abc=value`. -/
  | groupSetting {c : Char} {letters value : Text} : StartsGroup c → '=' ∉ letters →
      OptionWord ('-' :: c :: (letters ++ '=' :: value)) ((c :: letters).map fun x => [x])
        (some value)

/-- A word is an option word, whatever it names. -/
def IsOptionWord (word : Text) : Prop := ∃ keys value, OptionWord word keys value

/-- What a word gives, by the role that it has. -/
def WordRole.option? : WordRole → Option (List Text × Option Text)
  | .positional => none
  | .long key value => some ([key], value)
  | .group letters value => some (letters.map fun x => [x], value)

/-- What a word gives if it is read as an option. -/
def readOption? (word : Text) : Option (List Text × Option Text) := (wordRole word).option?

/-- A key ends at the first `=`, and all that follows is the value. -/
theorem keyAndValue_eq_iff {body key : Text} {value : Option Text} :
    keyAndValue body = (key, value) ↔
      '=' ∉ key ∧ body = key ++ value.elim [] ('=' :: ·) := by
  rw [keyAndValue]
  cases h : cutAt '=' body with
  | none =>
    have hbody : '=' ∉ body := cutAt_eq_none_iff.mp h
    cases value <;> grind
  | some cut =>
    obtain ⟨front, back⟩ := cut
    obtain ⟨rfl, hfront⟩ := cutAt_eq_some_iff.mp h
    cases value with
    | none => grind
    | some value =>
      constructor
      · rintro ⟨⟩
        exact ⟨hfront, rfl⟩
      · rintro ⟨hkey, hbody⟩
        have hcut := cutAt_eq_some_iff.mpr ⟨hbody, hkey⟩
        obtain ⟨⟨⟩⟩ := h.symm.trans hcut
        rfl

theorem keyAndValue_of_not_mem {key : Text} (h : '=' ∉ key) : keyAndValue key = (key, none) :=
  keyAndValue_eq_iff.mpr ⟨h, (List.append_nil key).symm⟩

theorem keyAndValue_append {key : Text} (h : '=' ∉ key) (value : Text) :
    keyAndValue (key ++ '=' :: value) = (key, some value) :=
  keyAndValue_eq_iff.mpr ⟨h, rfl⟩

/-- A word that is read as an option is an option word. -/
theorem OptionWord.of_readOption? (word : Text) :
    ∀ keys value, readOption? word = some (keys, value) → OptionWord word keys value := by
  rw [readOption?]
  -- the kinds of words are told apart by the first two characters and by what precedes `=`
  fun_cases wordRole word with
  | case1 body value hcut => exact fun _ _ h => absurd h (by simp [WordRole.option?])
  | case2 body key value hcut hkey =>
    rintro _ _ ⟨⟩
    obtain ⟨hsign, rfl⟩ := keyAndValue_eq_iff.mp hcut
    cases value with
    | none => simpa using OptionWord.flag hkey hsign
    | some value => exact .setting hkey hsign
  | case3 c rest hdash hc => exact fun _ _ h => absurd h (by simp [WordRole.option?])
  | case4 c rest hdash hc letters value hcut =>
    rintro _ _ ⟨⟩
    have hstart : StartsGroup c := by
      simp only [Bool.or_eq_true, decide_eq_true_eq, not_or, Bool.not_eq_true] at hc
      exact ⟨by simpa using ⟨hdash, hc.1⟩, hc.2⟩
    obtain ⟨hsign, hbody⟩ := keyAndValue_eq_iff.mp hcut
    -- the first letter is no `=`, so it is a letter of the group
    cases letters with
    | nil =>
      cases value with
      | none => exact absurd hbody (List.cons_ne_nil c rest)
      | some value => exact absurd (List.cons.inj hbody).1 hstart.ne_sign
    | cons d letters =>
      obtain ⟨rfl, rfl⟩ := List.cons.inj hbody
      have hletters : '=' ∉ letters := fun h => hsign (List.mem_cons_of_mem c h)
      cases value with
      | none => simpa using OptionWord.group hstart hletters
      | some value => exact .groupSetting hstart hletters
  | case5 => exact fun _ _ h => absurd h (by simp [WordRole.option?])

/-- The group of a word `-abc`. -/
theorem wordRole_group {c : Char} (hc : StartsGroup c) (rest : Text) :
    wordRole ('-' :: c :: rest)
      = .group (keyAndValue (c :: rest)).1 (keyAndValue (c :: rest)).2 := by
  obtain ⟨hchar, hdigit⟩ := hc
  simp only [List.mem_cons, List.not_mem_nil, or_false, not_or] at hchar
  simp [wordRole, hchar, hdigit]

/-- **The words that are read as options are the option words**, and they are read as what they
name and attach. -/
theorem readOption?_eq_some_iff {word : Text} {keys : List Text} {value : Option Text} :
    readOption? word = some (keys, value) ↔ OptionWord word keys value := by
  constructor
  · exact OptionWord.of_readOption? word keys value
  · intro h
    cases h with
    | flag hkey hsign =>
      simp [readOption?, wordRole, keyAndValue_of_not_mem hsign, hkey, WordRole.option?]
    | setting hkey hsign =>
      simp [readOption?, wordRole, keyAndValue_append hsign, hkey, WordRole.option?]
    | @group c letters hc hsign =>
      have hletters : '=' ∉ c :: letters := hc.not_mem_cons hsign
      simp [readOption?, wordRole_group hc, keyAndValue_of_not_mem hletters, WordRole.option?]
    | @groupSetting c letters value hc hsign =>
      have hletters : '=' ∉ c :: letters := hc.not_mem_cons hsign
      rw [readOption?, wordRole_group hc, ← List.cons_append, keyAndValue_append hletters]
      rfl

theorem isOptionWord_iff {word : Text} : IsOptionWord word ↔ (readOption? word).isSome = true := by
  rw [Option.isSome_iff_exists, Prod.exists]
  exact exists_congr fun keys => exists_congr fun value => readOption?_eq_some_iff.symm

instance : DecidablePred IsOptionWord := fun _ => decidable_of_iff _ isOptionWord_iff.symm

/-! ### Items -/

/-- The options that a word names, one by one; only the last has a value. -/
def itemsOf : List Text → Option Text → List (Text × Option Text)
  | [], _ => []
  | [key], value => [(key, value)]
  | key :: next :: rest, value => (key, none) :: itemsOf (next :: rest) value

/-- The items of a word: none unless it is an option word. -/
def wordItems (word : Text) : List (Text × Option Text) :=
  match readOption? word with
  | none => []
  | some (keys, value) => itemsOf keys value

/-- Options with more items. -/
def Options.addItems (o : Options) (items : List (Text × Option Text)) : Options :=
  items.foldl (fun o item => o.add item.1 item.2) o

theorem Options.addItems_append (o : Options) (items more : List (Text × Option Text)) :
    o.addItems (items ++ more) = (o.addItems items).addItems more := List.foldl_append

/-- A group of letters adds one item for each letter. -/
theorem Options.addGroup_eq (o : Options) (letters : Text) (value : Option Text) :
    o.addGroup letters value = o.addItems (itemsOf (letters.map fun x => [x]) value) := by
  fun_induction Options.addGroup o letters value with
  | case1 o value => rfl
  | case2 o letter value => rfl
  | case3 o letter next rest value ih => exact ih

@[simp] theorem map_fst_itemsOf (keys : List Text) (value : Option Text) :
    (itemsOf keys value).map Prod.fst = keys := by
  fun_induction itemsOf keys value with
  | case1 value => rfl
  | case2 key value => rfl
  | case3 key next rest value ih => rw [List.map_cons, ih]

/-- The values that items give to an option. -/
def itemValues (key : Text) (items : List (Text × Option Text)) : List Text :=
  items.filterMap fun item => if item.1 = key then item.2 else none

/-- Only the last option that a word names gets a value. -/
theorem itemValues_itemsOf (key : Text) (keys : List Text) (value : Option Text) :
    itemValues key (itemsOf keys value)
      = if keys.getLast? = some key then value.toList else [] := by
  fun_induction itemsOf keys value with
  | case1 value => rfl
  | case2 first value => by_cases h : first = key <;> cases value <;> simp [itemValues, h]
  | case3 first next rest value ih =>
    rw [itemValues, List.filterMap_cons, ite_self, List.getLast?_cons_cons]
    exact ih

/-- The items of a word are for the options that it names. -/
theorem mem_keys_wordItems {key word : Text} :
    key ∈ (wordItems word).map Prod.fst ↔
      ∃ keys value, OptionWord word keys value ∧ key ∈ keys := by
  rw [wordItems]
  constructor
  · intro h
    split at h
    · exact absurd h List.not_mem_nil
    · next keys value hread =>
      rw [map_fst_itemsOf] at h
      exact ⟨keys, value, readOption?_eq_some_iff.mp hread, h⟩
  · rintro ⟨keys, value, hword, hkey⟩
    rw [readOption?_eq_some_iff.mpr hword, map_fst_itemsOf]
    exact hkey

/-! ### What options hold -/

namespace Options

/-- An item makes its option known, and gives it the value that it has. -/
theorem get?_add (o : Options) (key name : Text) (value : Option Text) :
    (o.add name value).get? key
      = if key = name then some ((o.get? name).getD [] ++ value.toList) else o.get? key := by
  cases value with
  | none => simp [add, addFlag, Dictionary.get?_update]
  | some value => simp [add, addValue, Dictionary.get?_update]

/-- **An option is there if it was there or an item names it.** -/
theorem has_addItems (o : Options) (items : List (Text × Option Text)) (key : Text) :
    (o.addItems items).has key ↔ key ∈ items.map Prod.fst ∨ o.has key := by
  induction items generalizing o with
  | nil => simp [addItems]
  | cons item items ih =>
    have hcons : o.addItems (item :: items) = (o.add item.1 item.2).addItems items := rfl
    rw [hcons, ih, List.map_cons, List.mem_cons, has, has, get?_add]
    by_cases h : key = item.1
    · simp [h]
    · simp [h]

/-- **The values of an option are those that it had and those that items give to it**, in
order. -/
theorem getD_addItems (o : Options) (items : List (Text × Option Text)) (key : Text) :
    ((o.addItems items).get? key).getD [] = (o.get? key).getD [] ++ itemValues key items := by
  induction items generalizing o with
  | nil => simp [addItems, itemValues]
  | cons item items ih =>
    have hcons : o.addItems (item :: items) = (o.add item.1 item.2).addItems items := rfl
    rw [hcons, ih, get?_add]
    by_cases h : key = item.1
    · subst h
      cases hvalue : item.2 <;> simp [itemValues, hvalue]
    · simp [itemValues, h, Ne.symm h]

end Options

/-! ### Words in a row -/

/-- A row of words before the end of the options is taken apart word by word. -/
theorem splitOptionsFrom_append {before : List Text} (h : endMarker ∉ before) (rest : List Text)
    (args : List Text) (o : Options) :
    splitOptionsFrom args o (before ++ rest)
      = splitOptionsFrom (args ++ before.filter fun word => ¬ IsOptionWord word)
          (o.addItems (before.flatMap wordItems)) rest := by
  induction before generalizing args o with
  | nil => simp [Options.addItems]
  | cons word before ih =>
    have hbefore : endMarker ∉ before := fun hmem => h (List.mem_cons_of_mem word hmem)
    have hmarker : ¬ word = ['-', '-'] := fun hword => h (hword ▸ List.mem_cons_self)
    rw [List.cons_append, splitOptionsFrom, if_neg hmarker, List.flatMap_cons,
      Options.addItems_append, List.filter_cons]
    cases hrole : wordRole word with
    | positional =>
      have hread : readOption? word = none := by rw [readOption?, hrole]; rfl
      have hno : ¬ IsOptionWord word := by simp [isOptionWord_iff, hread]
      simp [ih hbefore, hno, wordItems, hread, Options.addItems]
    | long key value =>
      have hread : readOption? word = some ([key], value) := by rw [readOption?, hrole]; rfl
      have hyes : IsOptionWord word := by simp [isOptionWord_iff, hread]
      simp [ih hbefore, hyes, wordItems, hread, itemsOf, Options.addItems]
    | group letters value =>
      have hread : readOption? word = some (letters.map fun x => [x], value) := by
        rw [readOption?, hrole]; rfl
      have hyes : IsOptionWord word := by simp [isOptionWord_iff, hread]
      simp [ih hbefore, hyes, wordItems, hread, Options.addGroup_eq]

/-! ### The end of the options -/

/-- The words before the first `--`; all of them if there is none. -/
def beforeMarker (words : List Text) : List Text := words.takeWhile (· ≠ endMarker)

/-- The words from the first `--` on; none of them if there is none. -/
def fromMarker (words : List Text) : List Text := words.dropWhile (· ≠ endMarker)

/-- The words after the first `--`. -/
def afterMarker (words : List Text) : List Text := (fromMarker words).tail

theorem endMarker_notMem_beforeMarker (words : List Text) : endMarker ∉ beforeMarker words :=
  fun h => by simpa using List.mem_takeWhile_imp h

theorem fromMarker_cases (words : List Text) :
    fromMarker words = [] ∨ fromMarker words = endMarker :: afterMarker words := by
  induction words with
  | nil => exact .inl rfl
  | cons word words ih =>
    by_cases h : word = endMarker
    · simp [afterMarker, fromMarker, h]
    · have hfrom : fromMarker (word :: words) = fromMarker words := by simp [fromMarker, h]
      rwa [afterMarker, hfrom]

/-- All words after the marker are positional. -/
theorem splitOptionsFrom_endMarker (args : List Text) (o : Options) (rest : List Text) :
    splitOptionsFrom args o (endMarker :: rest) = (args ++ rest, o) := by
  rw [splitOptionsFrom]
  exact if_pos rfl

/-- What a row of words is split into, given where the options end. -/
theorem splitOptions_append {before : List Text} (h : endMarker ∉ before) (words : List Text) :
    splitOptions (before ++ fromMarker words)
      = (before.filter (fun word => ¬ IsOptionWord word) ++ afterMarker words,
          Options.addItems .empty (before.flatMap wordItems)) := by
  rw [splitOptions, splitOptionsFrom_append h, List.nil_append]
  rcases fromMarker_cases words with hnil | hmarker
  · rw [afterMarker, hnil, splitOptionsFrom, List.tail_nil, List.append_nil]
  · rw [hmarker, splitOptionsFrom_endMarker]

theorem splitOptions_eq (words : List Text) :
    splitOptions words
      = ((beforeMarker words).filter (fun word => ¬ IsOptionWord word) ++ afterMarker words,
          Options.addItems .empty ((beforeMarker words).flatMap wordItems)) := by
  have h := splitOptions_append (endMarker_notMem_beforeMarker words) words
  rwa [beforeMarker, fromMarker, List.takeWhile_append_dropWhile] at h

/-! ### What is attached to an option -/

/-- **The values that a row of words attaches to an option**, in order: one from each word that
names the option last and has a value. -/
inductive Attached (key : Text) : List Text → List Text → Prop
  /-- No word attaches anything. -/
  | nil : Attached key [] []
  /-- A word that attaches a value. -/
  | attach {word value : Text} {keys words values : List Text} :
      OptionWord word (keys ++ [key]) (some value) → Attached key words values →
      Attached key (word :: words) (value :: values)
  /-- A word that attaches none. -/
  | pass {word : Text} {words values : List Text} :
      (∀ keys value, ¬ OptionWord word (keys ++ [key]) (some value)) →
      Attached key words values → Attached key (word :: words) values

theorem itemValues_append (key : Text) (items more : List (Text × Option Text)) :
    itemValues key (items ++ more) = itemValues key items ++ itemValues key more :=
  List.filterMap_append

theorem itemValues_of_optionWord {key word value : Text} {keys : List Text}
    (h : OptionWord word (keys ++ [key]) (some value)) :
    itemValues key (wordItems word) = [value] := by
  rw [wordItems, readOption?_eq_some_iff.mpr h]
  simp [itemValues_itemsOf]

theorem itemValues_of_not_optionWord {key word : Text}
    (h : ∀ keys value, ¬ OptionWord word (keys ++ [key]) (some value)) :
    itemValues key (wordItems word) = [] := by
  rw [wordItems]
  split
  · rfl
  · next keys value hread =>
    have hword := readOption?_eq_some_iff.mp hread
    rw [itemValues_itemsOf]
    split
    · next hlast =>
      obtain ⟨front, rfl⟩ := List.getLast?_eq_some_iff.mp hlast
      cases value with
      | none => rfl
      | some value => exact absurd hword (h front value)
    · rfl

/-- The values that are attached to an option are those of its items. -/
theorem attached_iff {key : Text} {words values : List Text} :
    Attached key words values ↔ values = itemValues key (words.flatMap wordItems) := by
  constructor
  · intro h
    induction h with
    | nil => rfl
    | attach hword _ ih =>
      rw [List.flatMap_cons, itemValues_append, itemValues_of_optionWord hword, ih]
      rfl
    | pass hword _ ih =>
      rw [List.flatMap_cons, itemValues_append, itemValues_of_not_optionWord hword, ih]
      rfl
  · rintro rfl
    induction words with
    | nil => exact .nil
    | cons word words ih =>
      rw [List.flatMap_cons, itemValues_append]
      by_cases h : ∃ keys value, OptionWord word (keys ++ [key]) (some value)
      · obtain ⟨keys, value, hword⟩ := h
        rw [itemValues_of_optionWord hword]
        exact .attach hword ih
      · have hword : ∀ keys value, ¬ OptionWord word (keys ++ [key]) (some value) :=
          fun keys value hword => h ⟨keys, value, hword⟩
        rw [itemValues_of_not_optionWord hword]
        exact .pass hword ih

/-! ### Splitting -/

/-- The words of a row in another order, in which the option words follow each other as before,
and so do all other words. -/
structure Reordered (words moved : List Text) : Prop where
  /-- The option words are in order. -/
  options :
    moved.filter (fun word => IsOptionWord word) = words.filter fun word => IsOptionWord word
  /-- The other words are in order. -/
  others : moved.filter (fun word => ¬ IsOptionWord word)
    = words.filter fun word => ¬ IsOptionWord word

/-- The options of a row of words do not depend on where its other words stand. -/
theorem flatMap_wordItems_filter (words : List Text) :
    (words.filter fun word => IsOptionWord word).flatMap wordItems = words.flatMap wordItems := by
  induction words with
  | nil => rfl
  | cons word words ih =>
    rw [List.filter_cons, List.flatMap_cons]
    by_cases h : IsOptionWord word
    · simp [h, ih]
    · have hread : readOption? word = none := by simpa [isOptionWord_iff] using h
      simp [h, ih, wordItems, hread]

theorem not_isOptionWord_endMarker : ¬ IsOptionWord endMarker := by decide

/-- An option is there if an option word names it. -/
theorem has_splitOptions (words : List Text) (key : Text) :
    (splitOptions words).2.has key ↔
      ∃ word ∈ beforeMarker words, ∃ keys value, OptionWord word keys value ∧ key ∈ keys := by
  have hempty : ¬ Options.has .empty key = true := Bool.false_ne_true
  rw [splitOptions_eq words, Options.has_addItems, or_iff_left hempty, List.map_flatMap,
    List.mem_flatMap]
  exact exists_congr fun word => and_congr_right fun _ => mem_keys_wordItems

/-- **Nothing is lost, doubled or moved when options are split off.**  The positional arguments
are the words before `--` that are no option words, and all words after it.  An option is there
exactly if an option word before `--` names it, and its values are those that option words attach
to it, in order.  Hence only the order of the option words among themselves and that of the other
words among themselves matter. -/
theorem splitOptions_exact (words : List Text) :
    (splitOptions words).1
        = (beforeMarker words).filter (fun word => ¬ IsOptionWord word) ++ afterMarker words ∧
    (∀ key, (splitOptions words).2.has key ↔
      ∃ word ∈ beforeMarker words, ∃ keys value, OptionWord word keys value ∧ key ∈ keys) ∧
    (∀ key values, Attached key (beforeMarker words) values ↔
      values = ((splitOptions words).2.get? key).getD []) ∧
    ∀ moved, Reordered (beforeMarker words) moved →
      splitOptions (moved ++ fromMarker words) = splitOptions words := by
  refine ⟨?_, has_splitOptions words, fun key values => ?_, fun moved hmoved => ?_⟩
  · rw [splitOptions_eq]
  · rw [splitOptions_eq, attached_iff, Options.getD_addItems]
    rfl
  · have hmarker : endMarker ∉ moved := by
      intro hmem
      have hother : endMarker ∈ moved.filter fun word => ¬ IsOptionWord word :=
        List.mem_filter.mpr ⟨hmem, by simpa using not_isOptionWord_endMarker⟩
      rw [hmoved.others] at hother
      exact endMarker_notMem_beforeMarker words (List.mem_filter.mp hother).1
    rw [splitOptions_append hmarker, splitOptions_eq, hmoved.others,
      ← flatMap_wordItems_filter moved, hmoved.options, flatMap_wordItems_filter]

/-- Groups with and without values, a key that is a dash, a digit, and words in another order. -/
theorem splitOptions_exact_mixed :
    let words : List Text := ["a", "-xy=1=2", "-5", "---", "--k=", "b", "-y=3", "--", "-z"]
    let moved : List Text := ["-xy=1=2", "---", "a", "--k=", "-5", "b", "-y=3"]
    Reordered (beforeMarker words) moved ∧
      (splitOptions words).1 = (["a", "-5", "b", "-z"] : List Text) ∧
      (splitOptions words).2
        = ⟨[(['x'], []), (['y'], ["1=2", "3"]), (['-'], []), (['k'], [[]])]⟩ ∧
      splitOptions (moved ++ fromMarker words) = splitOptions words := by
  intro words moved
  have hmoved : Reordered (beforeMarker words) moved := ⟨by decide, by decide⟩
  exact ⟨hmoved, by decide, by decide, (splitOptions_exact words).2.2.2 moved hmoved⟩

end CommandShell
