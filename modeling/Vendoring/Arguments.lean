/-
The command line: options, commands and how their values are checked.

* `Arguments`: what a command line asks for.
* `numeral?`: a number of seconds, from 1 to 2 ^ 64 - 1.
* `scanAfter`, `scanBefore`: the arguments after a command, and those before
  it. Every option may stand on either side, once on each.
* `Arguments.parse`: the whole line; an option given on both sides has the
  value given after the command.
-/
import Vendoring.Path

namespace Vendoring

/-- What the program can be asked to do. -/
inductive Command where
  | sync
  | clean
  | plan
deriving DecidableEq, Repr

/-- The word for a command. -/
def Command.word : Command → String
  | sync => "sync"
  | clean => "clean"
  | plan => "plan"

/-- The command a word stands for. -/
def Command.ofWord? (word : Bytes) : Option Command :=
  [sync, clean, plan].find? fun c => Bytes.ofString c.word == word

/-- Why a command line cannot be carried out. -/
inductive UsageError where
  | help
  | unknownArgument
  | invalidSubcommand
  | invalidValue
  | valueValidation
  | argumentConflict
  | tooManyValues
  | invalidUtf8
deriving DecidableEq, Repr

/-- The options that take a value. -/
inductive Valued where
  | root
  | config
  | timeout
deriving DecidableEq, Repr

/-- The name of an option, without the dashes. -/
def Valued.word : Valued → String
  | root => "root"
  | config => "config"
  | timeout => "timeout-secs"

/-- The name of the option that takes no value. -/
def permissiveWord : String := "permissive"

/-- The options given on one side of the command. -/
structure Given where
  root : Option Path := none
  config : Option Path := none
  timeout : Option Nat := none
  permissive : Bool := false
deriving DecidableEq, Repr

/-- What a command line asks for. -/
structure Arguments where
  command : Option Command
  options : Given
deriving DecidableEq, Repr

/-! ### Values -/

/-- The byte of a decimal digit. -/
def isDigitByte (b : UInt8) : Bool := 0x30 ≤ b && b ≤ 0x39

/-- The number that decimal digits spell. -/
def ofDigitBytes (b : Bytes) : Nat := b.foldl (fun n d => n * 10 + (d.toNat - 0x30)) 0

/-- The digits of a numeral: a plus sign in front does not count. -/
def unsigned : Bytes → Bytes
  | b :: rest => if b = 0x2B then rest else b :: rest
  | [] => []

/-- The largest number of seconds: it fits 64 bits. -/
def maxSeconds : Nat := 0xFFFFFFFFFFFFFFFF

/-- The number of seconds a value spells: an optional plus sign and digits,
from 1 to `maxSeconds`. -/
def numeral? (b : Bytes) : Option Nat :=
  let digits := unsigned b
  let n := ofDigitBytes digits
  if !digits.isEmpty && digits.all isDigitByte && 1 ≤ n && n ≤ maxSeconds then some n
  else none

namespace Given

/-- Whether an option has its value already. -/
def has (g : Given) : Valued → Bool
  | .root => g.root.isSome
  | .config => g.config.isSome
  | .timeout => g.timeout.isSome

/-- Checks a value and takes it: first that the option is not given twice on
this side, then the value itself. -/
def accept (g : Given) (o : Valued) (value : Bytes) : Except UsageError Given :=
  if g.has o then .error .argumentConflict
  else
    match o with
    | .root => if value.isEmpty then .error .invalidValue else .ok { g with root := some ⟨value⟩ }
    | .config =>
      if value.isEmpty then .error .invalidValue else .ok { g with config := some ⟨value⟩ }
    | .timeout =>
      if (Bytes.toString? value).isNone then .error .invalidUtf8
      else
        match numeral? value with
        | some n => .ok { g with timeout := some n }
        | none => .error .valueValidation

/-- The options of both sides; the side after the command wins. -/
def override (before after : Given) : Given where
  root := after.root.or before.root
  config := after.config.or before.config
  timeout := after.timeout.or before.timeout
  permissive := before.permissive || after.permissive

end Given

/-! ### Reading the arguments -/

/-- An option whose value is still open: not given yet, or given as an
argument of its own and not checked yet. -/
inductive Pending where
  | nothing
  | awaiting (o : Valued)
  | holding (o : Valued) (value : Bytes)
deriving DecidableEq, Repr

/-- Checks the value that is still open. -/
def Pending.settle (p : Pending) (g : Given) : Except UsageError Given :=
  match p with
  | .nothing => .ok g
  | .awaiting _ => .error .invalidValue
  | .holding o value => g.accept o value

/-- What an argument looks like. -/
inductive Shape where
  /-- Two dashes alone. -/
  | divider
  /-- Two dashes, a name, and a value after an equals sign, if there is one. -/
  | long (name : Bytes) (value : Option Bytes)
  /-- One dash and at least one letter. -/
  | short (letters : Bytes)
  /-- Anything else. -/
  | plain
deriving DecidableEq, Repr

/-- The byte of a dash, and of an equals sign. -/
def dash : UInt8 := 0x2D
@[inherit_doc dash] def equals : UInt8 := 0x3D

/-- A name, and the value after the first equals sign. -/
def splitEquals (b : Bytes) : Bytes × Option Bytes :=
  match b.dropWhile (· ≠ equals) with
  | [] => (b, none)
  | _ :: value => (b.takeWhile (· ≠ equals), some value)

/-- What an argument looks like. -/
def Shape.of (b : Bytes) : Shape :=
  match b with
  | x :: rest =>
    if x = dash then
      match rest with
      | [] => .plain
      | y :: rest' =>
        if y = dash then
          match rest' with
          | [] => .divider
          | _ => .long (splitEquals rest').1 (splitEquals rest').2
        else .short rest
    else .plain
  | [] => .plain

/-- The option a name stands for. -/
def Valued.ofWord? (name : Bytes) : Option Valued :=
  [root, config, timeout].find? fun o => Bytes.ofString o.word == name

/-- What reading one side has come to. -/
structure Progress where
  given : Given := {}
  pending : Pending := .nothing
deriving DecidableEq, Repr

namespace Progress

/-- Checks the value that is still open. -/
def settle (p : Progress) : Except UsageError Given := p.pending.settle p.given

/-- An option by its long name. A known one first has the open value checked,
except that a value a flag does not take is refused at once. -/
def long (p : Progress) (name : Bytes) (value : Option Bytes) : Except UsageError Progress :=
  match Valued.ofWord? name with
  | some o => do
    let g ← p.settle
    match value with
    | none => .ok ⟨g, .awaiting o⟩
    | some v => return ⟨← g.accept o v, .nothing⟩
  | none =>
    if name == Bytes.ofString permissiveWord then
      if value.isSome then .error .tooManyValues
      else do
        let g ← p.settle
        if g.permissive then .error .argumentConflict
        else .ok ⟨{ g with permissive := true }, .nothing⟩
    else if name == Bytes.ofString "help" then
      if value.isSome then .error .tooManyValues
      else do
        let _ ← p.settle
        .error .help
    else .error .unknownArgument

/-- Letters after one dash. Only the first one is looked at. -/
def short (p : Progress) (letters : Bytes) : Except UsageError Progress :=
  if letters.head? == some 0x68 then do
    let _ ← p.settle
    .error .help
  else .error .unknownArgument

end Progress

/-- The arguments after a command. -/
def scanAfter (p : Progress) : List Bytes → Except UsageError Given
  | [] => p.settle
  | a :: rest =>
    match Shape.of a with
    | .divider => if rest.isEmpty then p.settle else .error .unknownArgument
    | .long name value => do scanAfter (← p.long name value) rest
    | .short letters => do scanAfter (← p.short letters) rest
    | .plain =>
      match p.pending with
      | .awaiting o => scanAfter ⟨p.given, .holding o a⟩ rest
      | _ => .error .unknownArgument

/-- The word that asks for help. -/
def helpWord : Bytes := Bytes.ofString "help"

/-- Whether an argument is a command or the word for help. -/
def isCommandWord (a : Bytes) : Bool := (Command.ofWord? a).isSome || a == helpWord

/-- The arguments after the word for help: at most one command. -/
def helpFor : List Bytes → UsageError
  | [] => .help
  | [a] => if isCommandWord a then .help else .invalidSubcommand
  | _ => .invalidSubcommand

/-- The arguments from the start of the line. A command hands the rest to
`scanAfter`; the value still open before it is checked after that. -/
def scanBefore (p : Progress) : List Bytes → Except UsageError Arguments
  | [] => do return ⟨none, ← p.settle⟩
  | a :: rest =>
    match Shape.of a with
    | .divider =>
      match rest with
      | [] => do return ⟨none, ← p.settle⟩
      | b :: _ => .error (if isCommandWord b then .unknownArgument else .invalidSubcommand)
    | .long name value => do scanBefore (← p.long name value) rest
    | .short letters => do scanBefore (← p.short letters) rest
    | .plain =>
      match p.pending with
      | .awaiting o => scanBefore ⟨p.given, .holding o a⟩ rest
      | _ =>
        match Command.ofWord? a with
        | some c => do
          let after ← scanAfter {} rest
          let before ← p.settle
          return ⟨some c, before.override after⟩
        | none => .error (if a = helpWord then helpFor rest else .invalidSubcommand)

/-- What a command line asks for. -/
def Arguments.parse (args : List Bytes) : Except UsageError Arguments := scanBefore {} args

end Vendoring
