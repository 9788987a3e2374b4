import CommandShell.Text.Basic

/-!
# Dictionaries

A dictionary maps names to values and remembers the order in which the names were first
written.  Variables and command options are dictionaries.

## Main definitions

* `Dictionary`, `Dictionary.empty`.
* `Dictionary.get?` — the value of a name.
* `Dictionary.update` — write a name, given the value that it had before.
* `Dictionary.insert` — write a name, whatever it had before.
* `Dictionary.keys` — the names in the order of their first writing.
-/

namespace CommandShell

/-- A finite map from names to values, in the order of first writing. -/
structure Dictionary (α : Type) where
  /-- The names with their values; no name occurs twice. -/
  entries : List (Text × α)
  deriving DecidableEq, Repr

namespace Dictionary

variable {α : Type}

/-- The dictionary without names. -/
def empty : Dictionary α := ⟨[]⟩

instance : Inhabited (Dictionary α) := ⟨empty⟩

/-- The value of a name, or `none` if it was never written. -/
def get? (d : Dictionary α) (name : Text) : Option α := d.entries.lookup name

/-- Write a name in a list of entries: in its place if it is there, else at the end. -/
def write (name : Text) (f : Option α → α) : List (Text × α) → List (Text × α)
  | [] => [(name, f none)]
  | (key, value) :: rest =>
      if key = name then (key, f (some value)) :: rest else (key, value) :: write name f rest

/-- Write a name; `f` makes its new value from the one it had. -/
def update (d : Dictionary α) (name : Text) (f : Option α → α) : Dictionary α :=
  ⟨write name f d.entries⟩

/-- Give a name a value. -/
def insert (d : Dictionary α) (name : Text) (value : α) : Dictionary α :=
  d.update name fun _ => value

/-- The names in the order in which they were first written. -/
def keys (d : Dictionary α) : List Text := d.entries.map Prod.fst

/-- A dictionary with the entries of a list; of two with one name the later wins. -/
def ofList (entries : List (Text × α)) : Dictionary α :=
  entries.foldl (fun d (name, value) => d.insert name value) empty

@[simp] theorem get?_empty (name : Text) : (empty : Dictionary α).get? name = none := rfl

/-- A write is seen under its own name only. -/
theorem get?_update (d : Dictionary α) (name other : Text) (f : Option α → α) :
    (d.update name f).get? other =
      if other = name then some (f (d.get? name)) else d.get? other := by
  obtain ⟨entries⟩ := d
  simp only [get?, update]
  induction entries with
  | nil =>
    by_cases ho : other = name
    · simp [write, ho]
    · simp [write, List.lookup_cons, beq_false_of_ne ho, ho]
  | cons entry rest ih =>
    obtain ⟨key, value⟩ := entry
    by_cases h : key = name
    · subst h
      by_cases ho : other = key
      · simp [write, ho]
      · simp [write, List.lookup_cons, beq_false_of_ne ho, ho]
    · by_cases ho : other = key
      · subst ho
        simp [write, h]
      · simp [write, List.lookup_cons, beq_false_of_ne ho, h, ih, beq_false_of_ne (Ne.symm h)]

@[simp] theorem get?_insert_self (d : Dictionary α) (name : Text) (value : α) :
    (d.insert name value).get? name = some value := by simp [insert, get?_update]

theorem get?_insert_of_ne (d : Dictionary α) {name other : Text} (value : α)
    (h : other ≠ name) : (d.insert name value).get? other = d.get? other := by
  simp [insert, get?_update, h]

end Dictionary

end CommandShell
