/-
Causes of a failed file operation, with their numbers and texts.
-/
namespace Vendoring

/-- Why a file operation failed. -/
inductive FileError where
  | notFound
  | notDirectory
  | isDirectory
  | nameTooLong
  | tooManyLinks
  | nulByte
  | notText
deriving DecidableEq, Repr

namespace FileError

/-- The system's number of a cause; a NUL byte in a path and content that is
no text are refused before the system is asked. -/
def number? : FileError → Option Nat
  | notFound => some 2
  | notDirectory => some 20
  | isDirectory => some 21
  | nameTooLong => some 36
  | tooManyLinks => some 40
  | nulByte => none
  | notText => none

/-- The wording of a cause, without its number. -/
def wording : FileError → String
  | notFound => "No such file or directory"
  | notDirectory => "Not a directory"
  | isDirectory => "Is a directory"
  | nameTooLong => "File name too long"
  | tooManyLinks => "Too many levels of symbolic links"
  | nulByte => "file name contained an unexpected NUL byte"
  | notText => "stream did not contain valid UTF-8"

/-- The text of a cause, with its number if it has one. -/
def message (e : FileError) : String :=
  match e.number? with
  | some n => e.wording ++ " (os error " ++ toString n ++ ")"
  | none => e.wording

end FileError

end Vendoring
