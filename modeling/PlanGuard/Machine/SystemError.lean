/-!
# What an operating system refuses

The causes for which operations on files and programs fail, with the system's
words for them and the numbers by which it tells them apart.
-/

namespace PlanGuard

inductive SystemError where
  | noEntry
  | argumentsTooLong
  | badFormat
  | denied
  | alreadyThere
  | notDirectory
  | isDirectory
  | nameTooLong
  | notEmpty
  /-- An argument holds a NUL byte; found before the system is asked. -/
  | nulByte
  deriving DecidableEq

namespace SystemError

def words : SystemError → String
  | .noEntry => "No such file or directory"
  | .argumentsTooLong => "Argument list too long"
  | .badFormat => "Exec format error"
  | .denied => "Permission denied"
  | .alreadyThere => "File exists"
  | .notDirectory => "Not a directory"
  | .isDirectory => "Is a directory"
  | .nameTooLong => "File name too long"
  | .notEmpty => "Directory not empty"
  | .nulByte => "nul byte found in provided data"

def number? : SystemError → Option Nat
  | .noEntry => some 2
  | .argumentsTooLong => some 7
  | .badFormat => some 8
  | .denied => some 13
  | .alreadyThere => some 17
  | .notDirectory => some 20
  | .isDirectory => some 21
  | .nameTooLong => some 36
  | .notEmpty => some 39
  | .nulByte => none

def message (error : SystemError) : String :=
  match error.number? with
  | some number => s!"{error.words} (os error {number})"
  | none => error.words

end SystemError

end PlanGuard
