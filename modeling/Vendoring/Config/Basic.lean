/-
What a vendoring run needs to know.

* `Artifact`, `Config`, `Config.standard`: the documents to fetch and where to
  put them, with the built-in values.
* `Config.artifactUrl`, `Config.targetPath`: where an artifact comes from and
  where it goes.
* `Config.rootedAt`: a relative target directory taken from a root.
-/
import Vendoring.Fetch
import Vendoring.Rule

namespace Vendoring

/-- One remote document and the name of its file in the target directory. -/
structure Artifact where
  remotePath : String
  localName : String
deriving DecidableEq, Repr

/-- The configuration of a run. -/
structure Config where
  revision : String
  remoteBase : String
  targetDir : Path
  artifacts : List Artifact
  generated : Rule
  policy : StatusPolicy
deriving DecidableEq, Repr

namespace Config

/-- The built-in configuration. -/
def standard : Config where
  revision := "gopls/v0.11.0"
  remoteBase := "https://raw.githubusercontent.com/golang/tools/"
  targetDir := .ofString "lib/languageserver/internal/protocol"
  artifacts :=
    [⟨"gopls/internal/lsp/protocol/tsdocument_changes.go",
      "generated_protocol_document_changes.go"⟩,
     ⟨"gopls/internal/lsp/protocol/tsprotocol.go", "generated_protocol.go"⟩]
  generated := .standard
  policy := .strict

/-- The URL of a document: base, revision, a separator and the remote path. -/
def remoteUrl (base revision remotePath : String) : String :=
  base ++ revision ++ "/" ++ remotePath

/-- The URL an artifact is fetched from. -/
def artifactUrl (c : Config) (a : Artifact) : String :=
  remoteUrl c.remoteBase c.revision a.remotePath

/-- The path an artifact is written to. -/
def targetPath (c : Config) (a : Artifact) : Path :=
  c.targetDir.join (.ofString a.localName)

/-- Takes a relative target directory from `root`. -/
def rootedAt (c : Config) (root : Path) : Config :=
  if c.targetDir.isAbsolute then c else { c with targetDir := root.join c.targetDir }

/-- One line per artifact: where it comes from and where it goes. -/
def planLines (c : Config) : List String :=
  c.artifacts.map fun a => c.artifactUrl a ++ " -> " ++ (c.targetPath a).display

end Config

end Vendoring
