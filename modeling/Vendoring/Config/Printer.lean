/-
A configuration written out as a document.

* `Config.document`: every field spelt out: the plain ones first, then the
  naming convention, then the artifacts in order. An empty list of artifacts
  is written as such.
-/
import Vendoring.Config.Basic
import Vendoring.Toml.Printer

namespace Vendoring

/-- The word for a policy. -/
def StatusPolicy.word : StatusPolicy → String
  | strict => "strict"
  | permissive => "permissive"

/-- An artifact as an element of the list. -/
def Artifact.document (a : Artifact) : String :=
  Toml.elementLine "artifacts" ++ Toml.textLine "remote_path" a.remotePath ++
    Toml.textLine "local_name" a.localName

/-- A naming convention as a table. -/
def Rule.document (r : Rule) : String :=
  Toml.tableLine "generated" ++ Toml.textLine "prefix" r.stem ++
    Toml.textLine "extension" r.extension

namespace Config

/-- A configuration as a document, its target directory spelt `target`. -/
def document (c : Config) (target : String) : String :=
  Toml.textLine "revision" c.revision ++
    Toml.textLine "remote_base_url" c.remoteBase ++
    Toml.textLine "target_dir" target ++
    Toml.textLine "status_policy" c.policy.word ++
    (if c.artifacts.isEmpty then Toml.settingLine "artifacts" "[]" else "") ++
    c.generated.document ++
    String.join (c.artifacts.map Artifact.document)

end Config

end Vendoring
