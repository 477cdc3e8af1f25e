/-
What stops a run, with the texts shown for it. Whatever was deleted or written
before stays as it is.
-/
import Vendoring.Config.Validation
import Vendoring.FileTree.Error

namespace Vendoring

/-- Why a run stopped. -/
inductive Failure where
  | directoryUnavailable (path : Path) (cause : FileError)
  | deleteFailed (path : Path) (cause : FileError)
  | transport (url why : String)
  | writeFailed (path : Path) (cause : FileError)
  | config (fault : ConfigError)
deriving DecidableEq, Repr

namespace Failure

/-- The text of a failure. -/
def message : Failure → String
  | directoryUnavailable path cause =>
    "cannot list directory " ++ path.display ++ ": " ++ cause.message
  | deleteFailed path cause => "failed to delete " ++ path.display ++ ": " ++ cause.message
  | transport url why => "download of " ++ url ++ " failed: " ++ why
  | writeFailed path cause => "failed to write " ++ path.display ++ ": " ++ cause.message
  | config fault => "invalid configuration: " ++ fault.message

/-- The file operation behind a failure. -/
def cause? : Failure → Option FileError
  | directoryUnavailable _ cause => some cause
  | deleteFailed _ cause => some cause
  | writeFailed _ cause => some cause
  | transport _ _ => none
  | config _ => none

end Failure

end Vendoring
