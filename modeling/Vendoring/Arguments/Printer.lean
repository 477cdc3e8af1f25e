/-
Command lines written out.

* `Arguments.Item`: one option with its value, and whether the value stands in
  the same argument.
* `Arguments.Line`: a command line by its parts: the options before the
  command, the command, the options after it.
* `Line.render`: the arguments.
* `Line.meaning`: what the line asks for; an option given on both sides has
  the value given after the command.
-/
import Vendoring.Arguments

namespace Vendoring.Arguments

/-- One option on one side of the command. -/
inductive Item where
  | root (value : Path) (apart : Bool)
  | config (value : Path) (apart : Bool)
  | timeout (seconds : Nat) (apart : Bool)
  | permissive
deriving DecidableEq, Repr

/-- An option's name with its dashes. -/
def dashed (word : String) : Bytes := Bytes.ofString ("--" ++ word)

/-- An option with its value: one argument, or two. -/
def written (o : Valued) (value : Bytes) (apart : Bool) : List Bytes :=
  if apart then [dashed o.word, value] else [dashed o.word ++ equals :: value]

namespace Item

/-- The name of the option. -/
def word : Item → String
  | root .. => Valued.root.word
  | config .. => Valued.config.word
  | timeout .. => Valued.timeout.word
  | permissive => permissiveWord

/-- The value of the option, empty if it takes none. -/
def value : Item → Bytes
  | root p _ => p.bytes
  | config p _ => p.bytes
  | timeout n _ => Bytes.ofString (toString n)
  | permissive => []

/-- The arguments that spell an option. -/
def render : Item → List Bytes
  | i@(root _ apart) => written .root i.value apart
  | i@(config _ apart) => written .config i.value apart
  | i@(timeout _ apart) => written .timeout i.value apart
  | permissive => [dashed permissiveWord]

/-- Adds an option to those given. -/
def addTo (g : Given) : Item → Given
  | root p _ => { g with root := some p }
  | config p _ => { g with config := some p }
  | timeout n _ => { g with timeout := some n }
  | permissive => { g with permissive := true }

/-- A value that can stand in an argument of its own: a dash alone, or one
that begins with no dash. -/
def standsAlone (value : Bytes) : Bool := value == [dash] || value.head? != some dash

/-- Whether an option can be spelt: its value is admissible, and stands apart
only if it can. -/
def IsValid : Item → Prop
  | root p apart => p.bytes ≠ [] ∧ (apart → standsAlone p.bytes)
  | config p apart => p.bytes ≠ [] ∧ (apart → standsAlone p.bytes)
  | timeout n _ => 1 ≤ n ∧ n ≤ maxSeconds
  | permissive => True

instance : DecidablePred IsValid
  | root .. => inferInstanceAs (Decidable (_ ∧ _))
  | config .. => inferInstanceAs (Decidable (_ ∧ _))
  | timeout .. => inferInstanceAs (Decidable (_ ∧ _))
  | permissive => inferInstanceAs (Decidable True)

end Item

/-- The options on one side of the command. -/
abbrev Side := List Item

namespace Side

/-- The arguments of one side. -/
def render (s : Side) : List Bytes := s.flatMap Item.render

/-- What one side gives. -/
def given (s : Side) : Given := s.foldl Item.addTo {}

/-- A side of valid options, none of them twice. -/
def IsValid (s : Side) : Prop := (s.map Item.word).Nodup ∧ ∀ i ∈ s, i.IsValid

instance : DecidablePred IsValid := fun _ => inferInstanceAs (Decidable (_ ∧ _))

end Side

/-- A command line by its parts. -/
structure Line where
  before : Side
  /-- The command and the options after it. -/
  command : Option (Command × Side)
deriving DecidableEq, Repr

namespace Line

/-- The arguments of a command line. -/
def render (l : Line) : List Bytes :=
  l.before.render ++
    match l.command with
    | some (c, after) => Bytes.ofString c.word :: after.render
    | none => []

/-- What a command line asks for. -/
def meaning (l : Line) : Arguments :=
  match l.command with
  | some (c, after) => ⟨some c, l.before.given.override after.given⟩
  | none => ⟨none, l.before.given⟩

/-- A command line whose sides are valid. -/
def IsValid (l : Line) : Prop :=
  l.before.IsValid ∧ ∀ c after, l.command = some (c, after) → after.IsValid

end Line

end Vendoring.Arguments
