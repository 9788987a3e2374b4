import CommandShell.Proofs.OptionWords
import Mathlib.Data.List.Nodup

/-!
# Options that are written and read back

Options are written as words: a word for each value of an option, or a single word for an option
without values, with `--` and the positional arguments after them.  Splitting these words gives
the options and the arguments back.  A key can be written with two dashes whenever it is not
empty and has no `=` in it, and no other keys ever come out of splitting, so every options that
splitting gives can be written.  A key of one letter can be written with one dash as well, if
that letter may start a group.

Reading adds the items of one option after the other, and each option is added at the end, since
its key is new there.

## Main definitions

* `Options.Writable` — the keys are different, not empty, and without `=`.
* `writeOption`, `Options.write` — an option as a word, and options as a row of words.

## Main results

* `writable_splitOptions` — splitting gives writable options only.
* `splitOptions_write` — **what is written is read back.**
-/

namespace CommandShell

/-! ### Options that can be written -/

/-- A key that can be written with two dashes. -/
def IsKey (key : Text) : Prop := key ≠ [] ∧ '=' ∉ key

instance : DecidablePred IsKey := fun _ => inferInstanceAs (Decidable (_ ∧ _))

/-- A key that can be written with one dash: a single letter that may start a group. -/
def IsLetterKey (key : Text) : Prop := ∃ c, key = [c] ∧ StartsGroup c

/-- **Options that can be written.** -/
structure Options.Writable (o : Options) : Prop where
  /-- Every option has its own key. -/
  nodup : o.keys.Nodup
  /-- Every key can be written. -/
  keys : ∀ key ∈ o.keys, IsKey key

/-- An option word names keys that can be written. -/
theorem OptionWord.isKey {word : Text} {keys : List Text} {value : Option Text}
    (h : OptionWord word keys value) : ∀ key ∈ keys, IsKey key := by
  -- a letter of a group stands before the first `=`
  have hletters : ∀ {c : Char} {letters : Text}, StartsGroup c → '=' ∉ letters →
      ∀ key ∈ (c :: letters).map fun x => [x], IsKey key := by
    intro c letters hc hsign key hkey
    obtain ⟨x, hx, rfl⟩ := List.mem_map.mp hkey
    have hne : '=' ≠ x := fun h => hc.not_mem_cons hsign (h ▸ hx)
    exact ⟨List.cons_ne_nil x [], by simpa using hne⟩
  cases h with
  | flag hkey hsign => simpa using ⟨hkey, hsign⟩
  | setting hkey hsign => simpa using ⟨hkey, hsign⟩
  | group hc hsign => exact hletters hc hsign
  | groupSetting hc hsign => exact hletters hc hsign

/-! ### Entries -/

section Entries

variable {α : Type} {name : Text} {f : Option α → α}

namespace Dictionary

/-- A new name comes last. -/
theorem write_of_notMem {entries : List (Text × α)} (h : name ∉ entries.map Prod.fst) :
    write name f entries = entries ++ [(name, f none)] := by
  induction entries with
  | nil => rfl
  | cons entry entries ih =>
    obtain ⟨key, value⟩ := entry
    obtain ⟨hkey, hrest⟩ := not_or.mp (mt List.mem_cons.mpr h)
    rw [write, if_neg (Ne.symm hkey), ih hrest, List.cons_append]

/-- A name that comes last stays there. -/
theorem write_concat {entries : List (Text × α)} (h : name ∉ entries.map Prod.fst) (value : α) :
    write name f (entries ++ [(name, value)]) = entries ++ [(name, f (some value))] := by
  induction entries with
  | nil => simp [write]
  | cons entry entries ih =>
    obtain ⟨key, old⟩ := entry
    obtain ⟨hkey, hrest⟩ := not_or.mp (mt List.mem_cons.mpr h)
    rw [List.cons_append, write, if_neg (Ne.symm hkey), ih hrest, List.cons_append]

/-- A name that is there stays in its place. -/
theorem map_fst_write_of_mem {entries : List (Text × α)} (h : name ∈ entries.map Prod.fst) :
    (write name f entries).map Prod.fst = entries.map Prod.fst := by
  induction entries with
  | nil => exact absurd h List.not_mem_nil
  | cons entry entries ih =>
    obtain ⟨key, value⟩ := entry
    by_cases hkey : key = name
    · simp [write, hkey]
    · have hrest := (List.mem_cons.mp h).resolve_left (Ne.symm hkey)
      rw [write, if_neg hkey, List.map_cons, ih hrest, List.map_cons]

/-- No name is written twice. -/
theorem nodup_update {d : Dictionary α} (h : d.keys.Nodup) : (d.update name f).keys.Nodup := by
  rw [keys, update]
  by_cases hmem : name ∈ d.keys
  · rw [map_fst_write_of_mem hmem]
    exact h
  · rw [write_of_notMem hmem, List.map_append, List.map_singleton, ← List.concat_eq_append]
    exact h.concat hmem

theorem mem_keys_iff {d : Dictionary α} : name ∈ d.keys ↔ (d.get? name).isSome = true := by
  have hname (entry : Text × α) : entry.1 = name ↔ (name == entry.1) = true := by
    rw [beq_iff_eq, eq_comm]
  simp only [keys, get?, List.lookup_isSome_iff, List.mem_map, hname]

end Dictionary

end Entries

/-! ### What splitting gives -/

namespace Options

theorem nodup_addItems {o : Options} (h : o.keys.Nodup) (items : List (Text × Option Text)) :
    (o.addItems items).keys.Nodup := by
  induction items generalizing o with
  | nil => exact h
  | cons item items ih =>
    obtain ⟨key, value⟩ := item
    cases value with
    | none => exact ih (Dictionary.nodup_update h)
    | some value => exact ih (Dictionary.nodup_update h)

/-- **Splitting gives options that can be written.** -/
theorem writable_splitOptions (words : List Text) : (splitOptions words).2.Writable := by
  refine ⟨?_, fun key hkey => ?_⟩
  · rw [splitOptions_eq]
    exact nodup_addItems (o := .empty) List.nodup_nil _
  · obtain ⟨word, -, keys, value, hword, hmem⟩ :=
      (has_splitOptions words key).mp (Dictionary.mem_keys_iff.mp hkey)
    exact hword.isKey key hmem

end Options

/-! ### Writing -/

/-- An option as a word: with one dash or two, and with its value if it has one. -/
def writeOption (short : Bool) (key : Text) (value : Option Text) : Text :=
  (if short then ['-'] else ['-', '-']) ++ key ++ value.elim [] ('=' :: ·)

/-- The items of an option: one for each value, or a single one if there is none. -/
def optionItems (key : Text) (values : List Text) : List (Text × Option Text) :=
  if values = [] then [(key, none)] else values.map fun value => (key, some value)

namespace Options

/-- The items of options, one option after the other. -/
def items (o : Options) : List (Text × Option Text) :=
  o.entries.flatMap fun entry => optionItems entry.1 entry.2

/-- Options as a row of words, one for each item; for every key there is a choice of the form. -/
def write (short : Text → Bool) (o : Options) : List Text :=
  o.items.map fun item => writeOption (short item.1) item.1 item.2

end Options

/-- **A word that is written for an option is an option word** for its key and value. -/
theorem optionWord_writeOption {short : Bool} {key : Text} (hkey : IsKey key)
    (hshort : short = true → IsLetterKey key) (value : Option Text) :
    OptionWord (writeOption short key value) [key] value := by
  cases short with
  | false =>
    obtain ⟨hne, hsign⟩ := hkey
    cases value with
    | none => simpa [writeOption] using OptionWord.flag hne hsign
    | some value => simpa [writeOption] using @OptionWord.setting key value hne hsign
  | true =>
    obtain ⟨c, rfl, hc⟩ := hshort rfl
    cases value with
    | none => exact OptionWord.group hc List.not_mem_nil
    | some value => exact OptionWord.groupSetting hc List.not_mem_nil

theorem wordItems_writeOption {short : Bool} {key : Text} (hkey : IsKey key)
    (hshort : short = true → IsLetterKey key) (value : Option Text) :
    wordItems (writeOption short key value) = [(key, value)] := by
  rw [wordItems, readOption?_eq_some_iff.mpr (optionWord_writeOption hkey hshort value)]
  rfl

/-! ### Reading what is written -/

namespace Options

/-- An item with a new key comes last. -/
theorem add_of_notMem {o : Options} {key : Text} (h : key ∉ o.keys) (value : Option Text) :
    o.add key value = ⟨o.entries ++ [(key, value.toList)]⟩ := by
  cases value with
  | none => exact congrArg Dictionary.mk (Dictionary.write_of_notMem h)
  | some value => exact congrArg Dictionary.mk (Dictionary.write_of_notMem h)

/-- More values for the last key. -/
theorem addItems_concat {entries : List (Text × List Text)} {key : Text}
    (h : key ∉ entries.map Prod.fst) (values more : List Text) :
    addItems ⟨entries ++ [(key, values)]⟩ (more.map fun value => (key, some value))
      = ⟨entries ++ [(key, values ++ more)]⟩ := by
  induction more generalizing values with
  | nil => simp [addItems]
  | cons value more ih =>
    have hadd : add ⟨entries ++ [(key, values)]⟩ key (some value)
        = ⟨entries ++ [(key, values ++ [value])]⟩ :=
      congrArg Dictionary.mk (Dictionary.write_concat h values)
    calc addItems ⟨entries ++ [(key, values)]⟩ ((value :: more).map fun value => (key, some value))
        = addItems (add ⟨entries ++ [(key, values)]⟩ key (some value))
            (more.map fun value => (key, some value)) := rfl
      _ = ⟨entries ++ [(key, values ++ value :: more)]⟩ := by
        rw [hadd, ih, List.append_assoc, List.singleton_append]

/-- The items of an option with a new key make it the last option. -/
theorem addItems_optionItems {entries : List (Text × List Text)} {key : Text}
    (h : key ∉ entries.map Prod.fst) (values : List Text) :
    addItems ⟨entries⟩ (optionItems key values) = ⟨entries ++ [(key, values)]⟩ := by
  cases values with
  | nil => exact add_of_notMem h none
  | cons value values =>
    have hadd : add ⟨entries⟩ key (some value) = ⟨entries ++ [(key, [value])]⟩ :=
      add_of_notMem h (some value)
    calc addItems ⟨entries⟩ (optionItems key (value :: values))
        = addItems (add ⟨entries⟩ key (some value)) (values.map fun value => (key, some value)) :=
          rfl
      _ = ⟨entries ++ [(key, value :: values)]⟩ := by
        rw [hadd, addItems_concat h]
        rfl

/-- **The items of options make these options again.** -/
theorem addItems_items {o : Options} (h : o.keys.Nodup) : addItems .empty o.items = o := by
  -- the options in front have been read, and no key behind is among theirs
  have key : ∀ done rest : List (Text × List Text), ((done ++ rest).map Prod.fst).Nodup →
      addItems ⟨done⟩ (rest.flatMap fun entry => optionItems entry.1 entry.2)
        = ⟨done ++ rest⟩ := by
    intro done rest
    induction rest generalizing done with
    | nil => intro _; simp [addItems]
    | cons entry rest ih =>
      intro hnodup
      have hnew : entry.1 ∉ done.map Prod.fst := by
        rw [List.map_append, List.map_cons] at hnodup
        intro hmem
        exact (List.nodup_append.mp hnodup).2.2 _ hmem _ List.mem_cons_self rfl
      rw [List.flatMap_cons, addItems_append, addItems_optionItems hnew,
        List.append_cons done entry rest]
      exact ih _ (by rwa [← List.append_cons])
  exact key [] o.entries h

/-- Every item is for one of the keys. -/
theorem mem_keys_of_mem_items {o : Options} {item : Text × Option Text} (h : item ∈ o.items) :
    item.1 ∈ o.keys := by
  obtain ⟨entry, hentry, hitem⟩ := List.mem_flatMap.mp h
  have hkey : item.1 = entry.1 := by
    rw [optionItems] at hitem
    split at hitem
    · rw [List.mem_singleton.mp hitem]
    · obtain ⟨value, -, rfl⟩ := List.mem_map.mp hitem
      rfl
  exact hkey ▸ List.mem_map_of_mem hentry

end Options

/-- **What is written is read back.**  Splitting gives nothing but options whose keys are
different, not empty, and without `=`.  Whatever options of this kind are written, each with two
dashes or, where its key is a letter that may start a group, with one dash, and whatever
positional arguments come after them, splitting gives these arguments and these options back. -/
theorem splitOptions_write :
    (∀ words, (splitOptions words).2.Writable) ∧
    ∀ (o : Options) (short : Text → Bool) (args : List Text), o.Writable →
      (∀ key ∈ o.keys, short key = true → IsLetterKey key) →
      splitOptions (o.write short ++ endMarker :: args) = (args, o) := by
  refine ⟨Options.writable_splitOptions, fun o short args ho hshort => ?_⟩
  have hkey : ∀ item ∈ o.items, IsKey item.1 :=
    fun item hitem => ho.keys _ (Options.mem_keys_of_mem_items hitem)
  have hletter : ∀ item ∈ o.items, short item.1 = true → IsLetterKey item.1 :=
    fun item hitem => hshort _ (Options.mem_keys_of_mem_items hitem)
  have hwords : ∀ word ∈ o.write short, IsOptionWord word := by
    intro word hword
    obtain ⟨item, hitem, rfl⟩ := List.mem_map.mp hword
    exact ⟨_, _, optionWord_writeOption (hkey item hitem) (hletter item hitem) item.2⟩
  have hmarker : endMarker ∉ o.write short :=
    fun hmem => not_isOptionWord_endMarker (hwords _ hmem)
  have hargs : (o.write short).filter (fun word => ¬ IsOptionWord word) = [] :=
    List.filter_eq_nil_iff.mpr fun word hword => by simpa using hwords word hword
  have hitems : (o.write short).flatMap wordItems = o.items := by
    rw [Options.write, List.flatMap_map]
    calc o.items.flatMap (fun item => wordItems (writeOption (short item.1) item.1 item.2))
        = o.items.flatMap fun item => [item] := List.flatMap_congr fun item hitem =>
          wordItems_writeOption (hkey item hitem) (hletter item hitem) item.2
      _ = o.items := List.flatMap_singleton' o.items
  rw [splitOptions, splitOptionsFrom_append hmarker, splitOptionsFrom_endMarker, hargs, hitems,
    Options.addItems_items ho.nodup]
  rfl

/-- A key that is a dash, values that look like options, a letter with one dash, and one with
two. -/
theorem splitOptions_write_mixed :
    let o : Options := ⟨[(['-'], []), (['x'], ["--y", [], "a=b"]), ("5", ["-"]), (['é'], [])]⟩
    let short : Text → Bool := fun key => key = ['x'] ∨ key = ['é']
    let args : List Text := ["-q", "--"]
    o.Writable ∧ (∀ key ∈ o.keys, short key = true → IsLetterKey key) ∧
      o.write short = (["---", "-x=--y", "-x=", "-x=a=b", "--5=-", "-é"] : List Text) ∧
      splitOptions (o.write short ++ endMarker :: args) = (args, o) := by
  intro o short args
  have ho : o.Writable := ⟨by decide, by decide⟩
  have hshort : ∀ key ∈ o.keys, short key = true → IsLetterKey key := by
    intro key _ hkey
    rcases of_decide_eq_true hkey with rfl | rfl
    · exact ⟨'x', rfl, by decide⟩
    · exact ⟨'é', rfl, by decide⟩
  exact ⟨ho, hshort, by decide, splitOptions_write.2 o short args ho hshort⟩

end CommandShell
