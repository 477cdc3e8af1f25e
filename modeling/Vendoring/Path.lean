/-
Paths: their spelling, joining, components and order.

* `Path.join`: an absolute right side replaces the left one; otherwise one
  separator stands between the two.
* `Path.components`: the parts of a path, empty parts and inner dots dropped.
* `Path.fileName?`, `Path.extension?`: the last component, unless it goes up,
  and what follows its last dot.
* `Path.le`: the order of paths by components.
* `Path.display`: a path in a message.
-/
import Vendoring.Text.Utf8
import Vendoring.Text.Quoted

namespace Vendoring

/-- A path is the bytes that spell it. -/
structure Path where
  bytes : Bytes
deriving DecidableEq, Repr

/-- The bytes `/`, `.` and `\`. -/
def slash : UInt8 := 0x2F
@[inherit_doc slash] def dot : UInt8 := 0x2E
@[inherit_doc slash] def backslash : UInt8 := 0x5C

/-- One entry's name inside a directory. -/
abbrev Name := Bytes

/-- The name that stays in a directory. -/
def Name.here : Name := [dot]

/-- The name that goes to the parent directory. -/
def Name.up : Name := [dot, dot]

/-- A byte string cut at every separator, the empty parts kept. -/
def splitSlashes : Bytes → List Bytes
  | [] => [[]]
  | b :: rest =>
    if b = slash then [] :: splitSlashes rest
    else
      match splitSlashes rest with
      | [] => [[b]]
      | part :: parts => (b :: part) :: parts

namespace Path

/-- The path a text spells. -/
def ofString (s : String) : Path := ⟨Bytes.ofString s⟩

/-- A path in a message: ill-formed subparts are shown as U+FFFD. -/
def display (p : Path) : String := Utf8.lossy p.bytes

/-- A path that starts at the root. -/
def isAbsolute (p : Path) : Bool := p.bytes.head? == some slash

/-- Whether a separator must be put between `p` and what is joined to it. -/
def needsSlash (p : Path) : Bool := !p.bytes.isEmpty && p.bytes.getLast? != some slash

/-- `q` taken relative to `p`. -/
def join (p q : Path) : Path :=
  if q.isAbsolute then q
  else if p.needsSlash then ⟨p.bytes ++ slash :: q.bytes⟩
  else ⟨p.bytes ++ q.bytes⟩

/-- The nonempty parts of a path between separators. -/
def parts (p : Path) : List Name := (splitSlashes p.bytes).filter (!·.isEmpty)

/-- A component of a path, in ascending order of the constructors. -/
inductive Component where
  | root
  | here
  | up
  | normal (name : Name)
deriving DecidableEq, Repr

/-- What a part stands for. -/
def Component.ofPart (n : Name) : Component :=
  if n = Name.here then .here else if n = Name.up then .up else .normal n

/-- The components of a path. A dot counts only at the front of a relative
path. -/
def components (p : Path) : List Component :=
  let parts := p.parts.map Component.ofPart
  if p.isAbsolute then .root :: parts.filter (· ≠ .here)
  else
    match parts with
    | .here :: rest => .here :: rest.filter (· ≠ .here)
    | rest => rest.filter (· ≠ .here)

/-- The file name of a path: its last component, unless that is the root, the
directory itself or the parent directory. -/
def fileName? (p : Path) : Option Name :=
  match p.components.getLast? with
  | some (.normal n) => some n
  | _ => none

/-- A name cut at its last dot. -/
def splitLastDot (n : Name) : Option (Bytes × Bytes) :=
  let tail := (n.reverse.takeWhile (· ≠ dot)).reverse
  match n.reverse.dropWhile (· ≠ dot) with
  | [] => none
  | _ :: stem => some (stem.reverse, tail)

/-- What follows the last dot of the file name, unless nothing stands before
that dot. -/
def extension? (p : Path) : Option Bytes :=
  match p.fileName?.bind splitLastDot with
  | some (_ :: _, extension) => some extension
  | _ => none

/-- The rank of a component among the kinds. -/
def Component.rank : Component → Nat
  | .root => 0
  | .here => 1
  | .up => 2
  | .normal _ => 3

/-- Components by kind, normal ones by the bytes of their names. -/
def Component.lt : Component → Component → Bool
  | .normal m, .normal n => m < n
  | a, b => a.rank < b.rank

/-- Lists of components in lexicographic order. -/
def Component.listLe : List Component → List Component → Bool
  | [], _ => true
  | _ :: _, [] => false
  | a :: as, b :: bs => Component.lt a b || (a == b && Component.listLe as bs)

/-- The order of paths: component by component. -/
def le (p q : Path) : Bool := Component.listLe p.components q.components

end Path

end Vendoring
