/-
Log lines.

* `Event.level`, `Event.message`, `Event.fields`: what a line is made of.
* `Event.text`: what is logged of an event, without its time.
* `Event.line`, `Event.overflow`: its first line, and the ones after it, which
  come from line breaks in the values of fields.
-/
import Vendoring.Action
import Vendoring.Text.Pieces

namespace Vendoring

/-- The spelling of a level in a log line. -/
def Level.name : Level → String
  | error => "ERROR"
  | warn => "WARN"
  | info => "INFO"
  | debug => "DEBUG"
  | trace => "TRACE"

/-- How chatty a level is. -/
def Level.rank : Level → Nat
  | error => 1
  | warn => 2
  | info => 3
  | debug => 4
  | trace => 5

/-! ### A configuration in a log line -/

namespace Config

/-- A record in a log line: its name, and fields between braces. -/
def describeRecord (name : String) (fields : List (String × String)) : String :=
  name ++ " \x7b " ++ ", ".intercalate (fields.map fun f => f.1 ++ ": " ++ f.2) ++ " \x7d"

/-- An artifact in a log line. -/
def describeArtifact (a : Artifact) : String :=
  describeRecord "ArtifactSpec"
    [("remote_path", Text.quote a.remotePath), ("local_name", Text.quote a.localName)]

/-- A configuration in a log line. -/
def describe (c : Config) : String :=
  describeRecord "VendorConfig"
    [("revision", "PinnedRevision(" ++ Text.quote c.revision ++ ")"),
     ("remote_base_url", Text.quote c.remoteBase),
     ("target_dir", Text.quoteBytes c.targetDir.bytes),
     ("artifacts", "[" ++ ", ".intercalate (c.artifacts.map describeArtifact) ++ "]"),
     ("generated",
      describeRecord "GeneratedFileRule"
        [("prefix", Text.quote c.generated.stem),
         ("extension", Text.quote c.generated.extension)]),
     ("status_policy", match c.policy with | .strict => "Strict" | .permissive => "Permissive")]

end Config

/-! ### Events -/

/-- The value of a field. -/
inductive FieldValue where
  | text (s : String)
  | quoted (s : String)
  | number (n : Nat)
deriving DecidableEq, Repr

/-- The value as a log line shows it. -/
def FieldValue.shown : FieldValue → String
  | text s => s
  | quoted s => Text.quote s
  | number n => toString n

namespace Event

/-- The level of an event. -/
def level : Event → Level
  | nonSuccess .. => .warn
  | loadedConfig .. => .debug
  | _ => .info

/-- The part of the program an event comes from. -/
def source : Event → String
  | deleted _ => "protocol_vendor::clean"
  | loadedConfig .. => "protocol_vendor::config"
  | _ => "protocol_vendor::sync"

/-- The message of an event. -/
def message : Event → String
  | vendoring .. => "vendoring protocol files"
  | deleted _ => "deleted"
  | downloading _ => "downloading"
  | nonSuccess .. => "writing non-success response as content"
  | writing _ => "writing"
  | loadedConfig .. => "loaded config"

/-- The fields of an event, in order. -/
def fields : Event → List (String × FieldValue)
  | vendoring revision target artifacts =>
    [("revision", .text revision), ("target", .text target.display),
     ("artifacts", .number artifacts)]
  | deleted path => [("file", .text path.display)]
  | downloading url => [("url", .text url)]
  | nonSuccess url status redirect =>
    [("url", .text url), ("status", .number status), ("redirect", .quoted (redirect.getD "-"))]
  | writing path => [("file", .text path.display)]
  | loadedConfig path config =>
    [("file", .text path.display), ("config", .text config.describe)]

/-- Whether an event has a field. The message counts as one. -/
def hasField (e : Event) (name : String) : Bool :=
  name == "message" || e.fields.any (·.1 == name)

/-- What is logged of an event, without its time. -/
def text (e : Event) : String :=
  e.level.name ++ " " ++ e.message ++
    String.join (e.fields.map fun f => " " ++ f.1 ++ "=" ++ f.2.shown)

/-- The log line of an event, without its time. -/
def line (e : Event) : String := (Text.lines (e.text ++ "\n")).headD ""

/-- The lines that follow the log line of an event. -/
def overflow (e : Event) : List String := (Text.lines (e.text ++ "\n")).drop 1

end Event

end Vendoring
