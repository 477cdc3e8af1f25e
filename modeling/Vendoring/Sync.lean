/-
Fetching and writing the artifacts.

* `syncFrom`, `sync`: the artifacts one after another; each is written before
  the next is fetched, and the first failure stops the run.
* `run`: the configuration checked, generated files removed, artifacts
  written.
-/
import Vendoring.Clean

namespace Vendoring

/-- A written artifact. -/
structure Written where
  url : String
  path : Path
  status : Nat
  bytes : Nat
deriving DecidableEq, Repr

/-- What a whole run removed and wrote. -/
structure Report where
  removed : List Path
  written : List Written
deriving DecidableEq, Repr

/-- The warning for a response outside 200 to 299 that is written. -/
def warnings (url : String) (r : Response) : Trace :=
  if r.isSuccess then [] else [.log (.nonSuccess url r.status r.redirect)]

/-- Fetches and writes the artifacts in order. `asked` are the URLs requested
before, oldest first. -/
def syncFrom (fetch : Fetcher) (c : Config) (asked : List String) :
    List Artifact → Workspace → Outcome (List Written)
  | [], w => ⟨.ok [], w, []⟩
  | a :: rest, w =>
    let url := c.artifactUrl a
    let fetched : Trace := [.log (.downloading url), .request url]
    match fetch asked url with
    | .error e => ⟨.error (.transport url e.why), w, fetched⟩
    | .ok r =>
      match c.policy.refusal? r with
      | some why => ⟨.error (.transport url why), w, fetched⟩
      | none =>
        let path := c.targetPath a
        let content := Bytes.ofString r.body
        let ready := fetched ++ warnings url r ++ [.log (.writing path)]
        match w.write path content with
        | .error e => ⟨.error (.writeFailed path e), w, ready⟩
        | .ok w' =>
          let o := syncFrom fetch c (asked ++ [url]) rest w'
          ⟨o.result.map (⟨url, path, r.status, content.length⟩ :: ·), o.workspace,
            ready ++ .write path :: o.trace⟩

/-- Fetches every artifact and writes it into the target directory. -/
def sync (fetch : Fetcher) (c : Config) (w : Workspace) : Outcome (List Written) :=
  syncFrom fetch c [] c.artifacts w

/-- Removes stale generated files, then fetches the pinned artifacts. -/
def run (fetch : Fetcher) (c : Config) (w : Workspace) : Outcome Report :=
  match c.validate with
  | .error e => ⟨.error (.config e), w, []⟩
  | .ok () =>
    let begun : Outcome Unit :=
      ⟨.ok (), w, [.log (.vendoring c.revision c.targetDir c.artifacts.length)]⟩
    begun.andThen fun _ w =>
      (clean w c.targetDir c.generated).andThen fun removed w =>
        (sync fetch c w).andThen fun written w =>
          ⟨.ok ⟨removed, written⟩, w, []⟩

end Vendoring
