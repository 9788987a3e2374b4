import CommandShell.Regex.ByteRows
import CommandShell.Regex.Pattern

/-!
# Forms of patterns

The form of a pattern is what the size of its automaton depends on: the bytes of its
characters, the rows of byte ranges of its sets, and how these are put together.  Conditions
and captures are left as bare marks.

## Main definitions

* `Form` — the forms.
* `Form.seq`, `Form.alt` — one form after another, or a choice of two.
* `Pattern.form` — the form of a pattern.
-/

namespace CommandShell.Regex

/-- The form of a pattern. -/
inductive Form where
  /-- The empty text. -/
  | empty
  /-- A text, by its bytes. -/
  | bytes (values : List Nat)
  /-- A set of ASCII characters, by the number of its ranges. -/
  | ranges (count : Nat)
  /-- A set of characters by its rows. -/
  | rows (all : List ByteRow)
  /-- A condition on a place. -/
  | look
  /-- Several rounds of a form that is seen not to match the empty text, or is not. -/
  | repeated (times : Repeats) (consumes : Bool) (inner : Form)
  /-- A form that is captured. -/
  | capture (inner : Form)
  /-- Several forms, one after the other. -/
  | concat (items : List Form)
  /-- Several forms to choose from. -/
  | choice (arms : List Form)

namespace Form

/-- What a row of forms is made of. -/
def items : Form → List Form
  | .empty => []
  | .concat items => items
  | f => [f]

/-- Two rows of forms as one; bytes that meet become one text. -/
def joined : List Form → List Form → List Form
  | [], others => others
  | [.bytes front], .bytes back :: others => .bytes (front ++ back) :: others
  | f :: rest, others => f :: joined rest others

/-- One form after another. -/
def seq (f g : Form) : Form :=
  match joined f.items g.items with
  | [] => .empty
  | [h] => h
  | items => .concat items

/-- The forms that a form chooses from. -/
def arms : Form → List Form
  | .choice arms => arms
  | f => [f]

/-- A choice of two forms. -/
def alt (f g : Form) : Form := .choice (f.arms ++ g.arms)

/-- The form of a set of characters. -/
def ofSet (s : Unicode.CharSet) : Form :=
  match s.single? with
  | some c => .bytes (bytesOf c.toNat)
  | none => if s.isAscii then .ranges s.ranges.length else .rows (byteRows s)

/-- The bytes of a form that is a text. -/
def bytes? : Form → Option (List Nat)
  | .bytes values => some values
  | _ => none

end Form

/-- The form of a pattern. -/
def Pattern.form : Pattern → Form
  | .empty => .empty
  | .one s => .ofSet s
  | .look _ => .look
  | .seq p q => p.form.seq q.form
  | .alt p q => p.form.alt q.form
  | .repeated times p => .repeated times p.consumes p.form
  | .capture p => .capture p.form

end CommandShell.Regex
