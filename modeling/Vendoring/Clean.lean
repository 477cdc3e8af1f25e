/-
Removing generated files.

* `removeEach`: paths removed one after another, up to the first failure.
* `cleanListed`: the marked entries of a listing, removed in the order of
  their paths.
* `clean`: the marked entries of a directory.
-/
import Vendoring.Action

namespace Vendoring

/-- Removes the paths in order. The first failure stops it; what was removed
before stays removed. -/
def removeEach (w : Workspace) : List Path → Outcome Unit
  | [] => ⟨.ok (), w, []⟩
  | p :: rest =>
    match w.remove p with
    | .error e => ⟨.error (.deleteFailed p e), w, []⟩
    | .ok w' =>
      let o := removeEach w' rest
      ⟨o.result, o.workspace, .delete p :: .log (.deleted p) :: o.trace⟩

/-- The paths of the marked entries of a listing, in the order of paths. -/
def markedPaths (dir : Path) (rule : Rule) (names : List Name) : List Path :=
  ((names.filter rule.marks).map fun n => dir.join ⟨n⟩).mergeSort Path.le

/-- Removes the marked entries of `dir`, whose names are listed. -/
def cleanListed (w : Workspace) (dir : Path) (rule : Rule) (names : List Name) :
    Outcome (List Path) :=
  let paths := markedPaths dir rule names
  let o := removeEach w paths
  ⟨o.result.map fun _ => paths, o.workspace, o.trace⟩

/-- Removes every generated file directly inside `dir` and returns the paths
removed. Nothing below a subdirectory is considered. -/
def clean (w : Workspace) (dir : Path) (rule : Rule) : Outcome (List Path) :=
  match w.list dir with
  | .error e => ⟨.error (.directoryUnavailable dir e), w, []⟩
  | .ok names => cleanListed w dir rule names

end Vendoring
