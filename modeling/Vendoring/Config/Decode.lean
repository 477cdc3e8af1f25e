/-
A configuration read from a table. Every field that the table does not give
keeps its built-in value, and keys that no field has are ignored.

* `Decode.text`, `Decode.artifacts`, `Decode.rule`, `Decode.policy`: what the
  fields accept.
* `Config.decode?`: the fields, each on its own.
* `Config.load`: the configuration a file holds.
-/
import Vendoring.Action
import Vendoring.Toml.Document

namespace Vendoring

namespace Decode

open Toml (Value Table)

/-- A field that holds text. -/
def text : Value → Option String
  | .string s => some s
  | _ => none

/-- A field of a table, or `default` if the table does not give it. -/
def overlay {α : Type} (t : Table) (key : String) (field : Value → Option α) (default : α) :
    Option α :=
  match t.lookup key with
  | some v => field v
  | none => some default

/-- A field that a table must give. -/
def required {α : Type} (t : Table) (key : String) (field : Value → Option α) : Option α :=
  (t.lookup key).bind field

/-- An artifact: a table with both its fields, or an array that begins with
them. -/
def artifact : Value → Option Artifact
  | .table t => do
    some ⟨← required t "remote_path" text, ← required t "local_name" text⟩
  | .array (remote :: name :: _) => do some ⟨← text remote, ← text name⟩
  | _ => none

/-- A list of artifacts. -/
def artifacts : Value → Option (List Artifact)
  | .array items => items.mapM artifact
  | _ => none

/-- A naming convention: a table, or an array of its fields in order. A date
counts as a table without known keys. -/
def rule : Value → Option Rule
  | .table t => do
    some ⟨← overlay t "prefix" text Rule.standard.stem,
      ← overlay t "extension" text Rule.standard.extension⟩
  | .array [] => some .standard
  | .array [stem] => do some ⟨← text stem, Rule.standard.extension⟩
  | .array (stem :: extension :: _) => do some ⟨← text stem, ← text extension⟩
  | .datetime _ => some .standard
  | _ => none

/-- The policy a word names. -/
def policyName : String → Option StatusPolicy
  | "strict" => some .strict
  | "permissive" => some .permissive
  | _ => none

/-- A policy: its name, or a table whose only key is its name, with nothing
under it. -/
def policy : Value → Option StatusPolicy
  | .string s => policyName s
  | .table [(s, .table [])] => policyName s
  | .table [(s, .array [])] => policyName s
  | _ => none

end Decode

namespace Config

/-- The configuration a table describes. -/
def decode? (t : Toml.Table) : Option Config := do
  some {
    revision := ← Decode.overlay t "revision" Decode.text standard.revision
    remoteBase := ← Decode.overlay t "remote_base_url" Decode.text standard.remoteBase
    targetDir :=
      ← Decode.overlay t "target_dir" (fun v => (Decode.text v).map Path.ofString)
        standard.targetDir
    artifacts := ← Decode.overlay t "artifacts" Decode.artifacts standard.artifacts
    generated := ← Decode.overlay t "generated" Decode.rule standard.generated
    policy := ← Decode.overlay t "status_policy" Decode.policy standard.policy }

/-- The configuration a document describes. -/
def ofText? (text : String) : Option Config := (Toml.parse? text).bind decode?

end Config

/-- Why a configuration could not be loaded. -/
inductive LoadError where
  | unreadable (path : Path) (cause : FileError)
  | malformed (path : Path)
deriving DecidableEq, Repr

namespace LoadError

/-- The text of a failed load. -/
def message : LoadError → String
  | unreadable path _ => "failed to read config file " ++ path.display
  | malformed path => "failed to parse config file " ++ path.display

/-- The file operation behind a failed load. -/
def cause? : LoadError → Option FileError
  | unreadable _ cause => some cause
  | malformed _ => none

end LoadError

/-- The configuration in a file, or the built-in one if no file is named, and
what is logged on the way. -/
def Config.load (w : Workspace) : Option Path → Except LoadError (Config × Trace)
  | none => .ok (.standard, [])
  | some path =>
    match w.readText path with
    | .error cause => .error (.unreadable path cause)
    | .ok text =>
      match Config.ofText? text with
      | none => .error (.malformed path)
      | some c => .ok (c, [.log (.loadedConfig path c)])

end Vendoring
