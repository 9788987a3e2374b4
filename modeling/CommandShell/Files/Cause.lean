import CommandShell.Text.Decimal

/-!
# Why an operation fails

Operations on files and streams fail for a cause that the operating system numbers, or for
one that is found before it is asked.

## Main definitions

* `Cause` — the causes.
* `Cause.text` — the words for a cause.
-/

namespace CommandShell

/-- Why an operation on files, streams or programs fails. -/
inductive Cause where
  /-- There is no such file. -/
  | notFound
  /-- The file is not a program. -/
  | notProgram
  /-- The operation is not permitted. -/
  | notPermitted
  /-- There is a file of that name. -/
  | exists
  /-- A name on the way is not that of a folder. -/
  | notFolder
  /-- A folder has no content to be read or replaced. -/
  | isFolder
  /-- A name or a path is too long. -/
  | nameTooLong
  /-- The folder is not empty. -/
  | notEmpty
  /-- Too many links were followed. -/
  | tooManyLinks
  /-- A path contains a zero byte. -/
  | zeroInPath
  /-- A program name, argument or variable contains a zero byte. -/
  | zeroInArgument
  /-- A text was expected, and the bytes are not well formed. -/
  | notText
  /-- The stream failed. -/
  | stream
  deriving DecidableEq, Repr

namespace Cause

/-- Words and number of an operating system's cause. -/
def numbered (words : String) (n : Nat) : Text :=
  words.toList ++ " (os error ".toList ++ decimal n ++ [')']

/-- The words for a cause. -/
def text : Cause → Text
  | .notFound => numbered "No such file or directory" 2
  | .notProgram => numbered "Exec format error" 8
  | .notPermitted => numbered "Permission denied" 13
  | .exists => numbered "File exists" 17
  | .notFolder => numbered "Not a directory" 20
  | .isFolder => numbered "Is a directory" 21
  | .nameTooLong => numbered "File name too long" 36
  | .notEmpty => numbered "Directory not empty" 39
  | .tooManyLinks => numbered "Too many levels of symbolic links" 40
  | .zeroInPath => "file name contained an unexpected NUL byte"
  | .zeroInArgument => "nul byte found in provided data"
  | .notText => "stream did not contain valid UTF-8"
  | .stream => "stream failure"

end Cause

end CommandShell
