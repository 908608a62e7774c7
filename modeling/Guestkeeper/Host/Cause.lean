set_option autoImplicit false

/-! # Why the host refuses

The causes for which the host refuses an operation on its files, with the host's own words
for each. -/

namespace Guestkeeper.Host

inductive Cause
  | notFound
  | alreadyExists
  | isADirectory
  | notADirectory
  | permissionDenied
  /-- A name of more bytes than the host's directories can hold. -/
  | nameTooLong
  /-- A length beyond the numbers in which the host counts bytes. -/
  | lengthOutOfRange
  /-- A length beyond the longest file. -/
  | fileTooLarge
  /-- A device with no room for more bytes. -/
  | noSpace
  /-- A NUL character in a path. -/
  | nulInPath
  /-- A text file whose bytes are not UTF-8. -/
  | notUtf8
  /-- Anything else, in the host's words. -/
  | other (words : String)
  deriving DecidableEq, Repr

/-- The host's text for the cause, as it ends a message. -/
def Cause.message : Cause → String
  | .notFound => "No such file or directory (os error 2)"
  | .alreadyExists => "File exists (os error 17)"
  | .isADirectory => "Is a directory (os error 21)"
  | .notADirectory => "Not a directory (os error 20)"
  | .permissionDenied => "Permission denied (os error 13)"
  | .nameTooLong => "File name too long (os error 36)"
  | .lengthOutOfRange => "out of range integral type conversion attempted"
  | .fileTooLarge => "File too large (os error 27)"
  | .noSpace => "No space left on device (os error 28)"
  | .nulInPath => "file name contained an unexpected NUL byte"
  | .notUtf8 => "stream did not contain valid UTF-8"
  | .other words => words

end Guestkeeper.Host
