/-!
# Courier — Files

What can be read: the bytes of the file at a path, or why there are none.  The rest of the
library sees files only through a function of this type, so it stays pure.
-/

namespace Courier

inductive FileError where
  | notFound
  | isDirectory
  | notDirectory
  | denied
  | nameTooLong
  /-- No file name has a character with the code 0. -/
  | zeroInName
  deriving DecidableEq

/-- The wording and the number of the operating system. -/
def FileError.message : FileError → String
  | notFound     => "No such file or directory (os error 2)"
  | isDirectory  => "Is a directory (os error 21)"
  | notDirectory => "Not a directory (os error 20)"
  | denied       => "Permission denied (os error 13)"
  | nameTooLong  => "File name too long (os error 36)"
  | zeroInName   => "file name contained an unexpected NUL byte"

/-- The files by path. -/
abbrev Files := String → Except FileError ByteArray

end Courier
