/-!
Contract: why an operation on files fails.

Owns: the causes and their wording.

Does not own: which operation fails when.
-/

namespace TypedClient

/-- Why an operation on files fails. -/
inductive DiskFault where
  /-- Nothing stands there. -/
  | missing
  /-- Something stands there already. -/
  | taken
  /-- A step of the path leads through something that is no directory. -/
  | notDirectory
  | isDirectory
  /-- The operation is not defined for this path. -/
  | invalid
  | nameTooLong
  /-- The octets of a file are no text. -/
  | notText
  /-- A path holds a character that no name may have. -/
  | zeroInName
  /-- Any other failure, in words. -/
  | other (text : String)
deriving DecidableEq, Repr

namespace DiskFault

/-- The wording of a failure. -/
def message : DiskFault → String
  | .missing => "No such file or directory (os error 2)"
  | .taken => "File exists (os error 17)"
  | .notDirectory => "Not a directory (os error 20)"
  | .isDirectory => "Is a directory (os error 21)"
  | .invalid => "Invalid argument (os error 22)"
  | .nameTooLong => "File name too long (os error 36)"
  | .notText => "stream did not contain valid UTF-8"
  | .zeroInName => "file name contained an unexpected NUL byte"
  | .other text => text

end DiskFault

end TypedClient
