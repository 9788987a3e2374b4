import CommandShell.Unicode.AgeTable
import CommandShell.Unicode.Name
import CommandShell.Unicode.CharSet

/-!
# The age of characters

A character has the age of the version of the standard that added it, and a version is asked
for all characters that it has: its own and those of the versions before it.

## Main definitions

* `assignedUpTo?` — the characters that a version of the standard has.
-/

namespace CommandShell.Unicode

/-- A version, such as `15.1`, has two names: itself, and the same with a `V` in front and an
underscore for the point. -/
def versionNames (version : String) : List String :=
  [version, String.ofList ('V' :: version.toList.map fun c => if c = '.' then '_' else c)]

/-- The characters that a version of the standard has, given the loose name of the version. -/
def assignedUpTo? (loose : Text) : Option CharSet :=
  go [] ageTable
where
  /-- The same from one version on, with the characters of the versions before. -/
  go (sofar : List (Nat × Nat)) : List (String × List String) → Option CharSet
    | [] => none
    | (version, added) :: later =>
        let sofar := (CharSet.ofTable added).ranges ++ sofar
        if answersTo loose (versionNames version) then some (.ofRanges sofar) else go sofar later

end CommandShell.Unicode
