/-
The naming convention that marks a file as generated. There is no list of
owned files: whatever carries the stem and the extension is generated.

* `Rule.accepts`: the name begins with the stem and its extension is the
  rule's.
* `Rule.marks`: an entry of a directory is marked when its name is a text
  that the rule accepts.
* `Rule.pattern`: the convention as messages print it.
-/
import Vendoring.Path

namespace Vendoring

/-- A naming convention: what a generated file's name begins with, and its
extension, without the dot. -/
structure Rule where
  stem : String
  extension : String
deriving DecidableEq, Repr

namespace Rule

/-- The convention that holds unless a configuration says otherwise. -/
def standard : Rule := ⟨"generated_", "go"⟩

/-- Whether a name follows the convention. -/
def accepts (r : Rule) (name : Bytes) : Bool :=
  (Bytes.ofString r.stem).isPrefixOf name &&
    Path.extension? ⟨name⟩ == some (Bytes.ofString r.extension)

/-- Whether an entry of a directory is taken for a generated file. -/
def marks (r : Rule) (name : Name) : Bool :=
  (Bytes.toString? name).isSome && r.accepts name

/-- The convention as messages print it. -/
def pattern (r : Rule) : String := r.stem ++ "*." ++ r.extension

end Rule

end Vendoring
