import CommandShell.Unicode.CaseTable
import CommandShell.Unicode.CharSet

/-!
# Characters up to case

## Main definitions

* `caseOrbits` — the classes of characters that differ in case only.
* `CharSet.closeUnderCase` — a set with every character that differs in case only.
* `CharSet.closeUnderAsciiCase` — the same within ASCII.
-/

namespace CommandShell.Unicode

/-- The classes of at least two characters that differ in case only. -/
def caseOrbits : List (List Nat) :=
  caseOrbitTable.flatMap fun line => (line.toList.splitOn ',').map fun orbit =>
    (orbit.splitOn ' ').map CharSet.hexValue

/-- The other characters of a set up to case: a class belongs to the set as a whole as soon as
one of its characters does. -/
def CharSet.closeUnderCase (s : CharSet) : CharSet :=
  let touched := caseOrbits.filter fun orbit => orbit.any fun n => inRanges n s.ranges
  s.union (.ofRanges (touched.flatMap fun orbit => orbit.map fun n => (n, n)))

/-- The same for ASCII letters only. -/
def CharSet.closeUnderAsciiCase (s : CharSet) : CharSet :=
  let letters := (List.range 26).filter fun i =>
    inRanges (0x41 + i) s.ranges || inRanges (0x61 + i) s.ranges
  s.union (.ofRanges (letters.flatMap fun i => [(0x41 + i, 0x41 + i), (0x61 + i, 0x61 + i)]))

/-- The character has partners that differ from it in case only. -/
def hasCase (c : Char) : Bool := caseOrbits.any fun orbit => orbit.contains c.toNat

end CommandShell.Unicode
