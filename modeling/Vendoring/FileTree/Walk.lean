/-
Walking a file tree along a path, through symbolic links.

* `FileTree.walkWith`: one pass over the names of a path up to the first
  link, which is handed on.
* `FileTree.directoryAt`: the directory a list of names leads to, at most
  `linkLimit` links followed on the way.
* `FileTree.openAt`: the location of the file a path opens, links at its end
  followed as well.
-/
import Vendoring.FileTree.Basic
import Vendoring.FileTree.Error

namespace Vendoring

/-- Names longer than this many bytes are refused. -/
def nameLimit : Nat := 255

/-- Paths of this many bytes are refused. -/
def pathLimit : Nat := 4096

/-- At most this many symbolic links are followed along one path. -/
def linkLimit : Nat := 40

namespace FileTree

/-- The parts of a link's target, and where they start for a link that stands
in `dir`. -/
def linkStart (dir : Location) (target : Path) : Location :=
  if target.isAbsolute then [] else dir

/-- Follows the names from `here`, which is a directory, up to the first
link. `follow` takes over there with the names still to go; `arrive` takes
over in the directory the names end in. -/
def walkWith {α : Type} (t : FileTree)
    (follow : Location → List Name → Except FileError α)
    (arrive : Location → Except FileError α) :
    Location → List Name → Except FileError α
  | here, [] => arrive here
  | here, n :: rest =>
    if n = Name.here then walkWith t follow arrive here rest
    else if n = Name.up then walkWith t follow arrive here.dropLast rest
    else if nameLimit < n.length then .error .nameTooLong
    else
      match t.get? (here ++ [n]) with
      | none => .error .notFound
      | some (.file _) => .error .notDirectory
      | some .directory => walkWith t follow arrive (here ++ [n]) rest
      | some (.link target) => follow (linkStart here target) (target.parts ++ rest)

/-- The directory the names lead to, with a budget of links. -/
def directoryAt (t : FileTree) : Nat → Location → List Name → Except FileError Location
  | 0 => t.walkWith (fun _ _ => .error .tooManyLinks) .ok
  | links + 1 => t.walkWith (directoryAt t links) .ok

/-- How a path ends: in the directory it has reached, or with a name in it,
which a separator may follow. -/
inductive Ending where
  | here
  | name (n : Name) (slashed : Bool)
deriving DecidableEq, Repr

/-- A path as the names to walk through and the way it ends. -/
structure Route where
  steps : List Name
  ending : Ending
deriving DecidableEq, Repr

/-- The route of a path. A path that ends in a dot or in two dots ends in the
directory reached. -/
def Route.ofPath (p : Path) : Route :=
  match p.parts.getLast? with
  | none => ⟨[], .here⟩
  | some n =>
    if n = Name.here ∨ n = Name.up then ⟨p.parts, .here⟩
    else ⟨p.parts.dropLast, .name n (p.bytes.getLast? == some slash)⟩

/-- What a file is opened for. -/
inductive Access where
  | reading
  | writing
deriving DecidableEq, Repr

/-- The names that must lead to a directory for a path that ends in a
separator. A file to be written is refused before its name is looked up. -/
def Access.checked : Access → List Name → Name → List Name
  | .reading, steps, n => steps ++ [n]
  | .writing, steps, _ => steps

/-- A path that names a directory cannot be opened as a file. -/
def refuseDirectory {α : Type} (t : FileTree) (links : Nat) (start : Location)
    (steps : List Name) : Except FileError α :=
  match t.directoryAt links start steps with
  | .error e => .error e
  | .ok _ => .error .isDirectory

/-- The location of the name `n` in `dir`; a link found there is handed to
`follow`. -/
def lastAt (t : FileTree) (follow : Path → Except FileError Location) (n : Name)
    (dir : Location) : Except FileError Location :=
  if nameLimit < n.length then .error .nameTooLong
  else
    match t.get? (dir ++ [n]) with
    | some (.link target) => follow target
    | _ => .ok (dir ++ [n])

/-- The location of the file a route opens, whether or not there is one yet.
Links are followed everywhere, with a budget. -/
def openAt (t : FileTree) (access : Access) :
    Nat → Location → Route → Except FileError Location
  | links, start, ⟨steps, .here⟩ => t.refuseDirectory links start steps
  | links, start, ⟨steps, .name n true⟩ =>
    t.refuseDirectory links start (access.checked steps n)
  | 0, start, ⟨steps, .name n false⟩ =>
    t.walkWith (fun _ _ => .error .tooManyLinks)
      (t.lastAt (fun _ => .error .tooManyLinks) n) start steps
  | links + 1, start, ⟨steps, .name n false⟩ =>
    t.walkWith (fun here rest => openAt t access links here ⟨rest, .name n false⟩)
      (fun dir =>
        t.lastAt
          (fun target => openAt t access links (linkStart dir target) (Route.ofPath target))
          n dir)
      start steps

end FileTree

end Vendoring
