/-
Which artifact lists a run accepts. A local name that the cleaner would not
recognise would outlive every later run, so it is refused at the start.

* `ConfigError`: what can be wrong, with its text.
* `Config.validate`: the first fault, artifacts in order and, for each, the
  tests in the order of the constructors.
-/
import Vendoring.Config.Basic

namespace Vendoring

/-- What is wrong with an artifact list. -/
inductive ConfigError where
  | noArtifacts
  | notBare (name : String)
  | offConvention (name : String) (rule : Rule)
  | repeated (name : String)
deriving DecidableEq, Repr

/-- The text of a fault. -/
def ConfigError.message : ConfigError → String
  | noArtifacts => "no artifacts configured"
  | notBare name => "local name " ++ Text.quote name ++ " must be a bare file name"
  | offConvention name rule =>
    "local name " ++ Text.quote name ++ " does not match the generated file convention (" ++
      rule.pattern ++ ")"
  | repeated name => "local name " ++ Text.quote name ++ " is used by more than one artifact"

namespace Config

/-- Whether a name has no separator of any system. -/
def isBare (name : String) : Bool :=
  !(Bytes.ofString name).contains slash && !(Bytes.ofString name).contains backslash

/-- The fault of a name, given the names before it. -/
def nameFault? (rule : Rule) (before : List String) (name : String) : Option ConfigError :=
  if !isBare name then some (.notBare name)
  else if !rule.accepts (Bytes.ofString name) then some (.offConvention name rule)
  else if before.contains name then some (.repeated name)
  else none

/-- The first fault among names, given the names before them. -/
def firstFault? (rule : Rule) (before : List String) : List String → Option ConfigError
  | [] => none
  | name :: rest =>
    match nameFault? rule before name with
    | some e => some e
    | none => firstFault? rule (name :: before) rest

/-- Checks the artifact list against the naming convention. -/
def validate (c : Config) : Except ConfigError Unit :=
  if c.artifacts.isEmpty then .error .noArtifacts
  else
    match firstFault? c.generated [] (c.artifacts.map Artifact.localName) with
    | some e => .error e
    | none => .ok ()

end Config

end Vendoring
