/-
A file tree seen from a current directory, with the operations a program asks
of it. A failed operation changes nothing, and a file that could be opened is
taken to be written whole: devices that fill up or fail are not modelled, nor
are permissions.

* `Workspace.list`: the names in a directory.
* `Workspace.remove`: a file or link taken away; links are not followed.
* `Workspace.write`: a file written, created if need be; links are followed.
* `Workspace.read`: the content of a file.
* `Workspace.makeDirectory`, `Workspace.makeLink`, `Workspace.removeAll`:
  building and tearing down.
-/
import Vendoring.FileTree.Walk

namespace Vendoring

/-- A file tree and the directory relative paths start from. -/
structure Workspace where
  tree : FileTree
  current : Location
deriving DecidableEq, Repr

namespace Workspace

/-- The path of the current directory. -/
def currentPath (w : Workspace) : Path := ⟨slash :: FileTree.pathBytes w.current⟩

/-- Where the names of a path start. -/
def start (w : Workspace) (p : Path) : Location := if p.isAbsolute then [] else w.current

/-- Refuses the spellings that no path has. -/
def checkSpelling (p : Path) : Except FileError Unit :=
  if p.bytes.contains 0 then .error .nulByte
  else if p.bytes.isEmpty then .error .notFound
  else if pathLimit ≤ p.bytes.length then .error .nameTooLong
  else .ok ()

/-- The directory a path resolves to. -/
def resolve (w : Workspace) (p : Path) : Except FileError Location :=
  match checkSpelling p with
  | .error e => .error e
  | .ok () => w.tree.directoryAt linkLimit (w.start p) p.parts

/-- The names of the entries in the directory a path resolves to. -/
def list (w : Workspace) (p : Path) : Except FileError (List Name) :=
  match w.resolve p with
  | .error e => .error e
  | .ok dir => .ok (w.tree.names dir)

/-- The workspace with another tree. -/
def withTree (w : Workspace) (t : FileTree) : Workspace := { w with tree := t }

/-- Takes away the entry `n` of `dir`, which must be no directory. A name that
a separator follows could only be a directory. -/
def removeAt (w : Workspace) (dir : Location) (n : Name) (slashed : Bool) :
    Except FileError Workspace :=
  if nameLimit < n.length then .error .nameTooLong
  else
    match w.tree.get? (dir ++ [n]) with
    | none => .error .notFound
    | some .directory => .error .isDirectory
    | some _ =>
      if slashed then .error .notDirectory
      else .ok (w.withTree (w.tree.erase (dir ++ [n])))

/-- Takes away the file or link a path names. -/
def remove (w : Workspace) (p : Path) : Except FileError Workspace :=
  match checkSpelling p with
  | .error e => .error e
  | .ok () =>
    let route := FileTree.Route.ofPath p
    match w.tree.directoryAt linkLimit (w.start p) route.steps with
    | .error e => .error e
    | .ok dir =>
      match route.ending with
      | .here => .error .isDirectory
      | .name n slashed => w.removeAt dir n slashed

/-- The location of the file a path opens. -/
def locate (w : Workspace) (access : FileTree.Access) (p : Path) : Except FileError Location :=
  match checkSpelling p with
  | .error e => .error e
  | .ok () => w.tree.openAt access linkLimit (w.start p) (FileTree.Route.ofPath p)

/-- Writes a file, in place of what it held before. -/
def write (w : Workspace) (p : Path) (content : Bytes) : Except FileError Workspace :=
  match w.locate .writing p with
  | .error e => .error e
  | .ok l =>
    match w.tree.get? l with
    | some .directory => .error .isDirectory
    | _ => .ok (w.withTree (w.tree.insert l (.file content)))

/-- The content of a file. -/
def read (w : Workspace) (p : Path) : Except FileError Bytes :=
  match w.locate .reading p with
  | .error e => .error e
  | .ok l =>
    match w.tree.get? l with
    | some (.file content) => .ok content
    | some .directory => .error .isDirectory
    | _ => .error .notFound

/-- The content of a file that holds text. -/
def readText (w : Workspace) (p : Path) : Except FileError String :=
  match w.read p with
  | .error e => .error e
  | .ok content =>
    match Bytes.toString? content with
    | some text => .ok text
    | none => .error .notText

/-! ### Building a tree -/

/-- The directory below `dir` that the names lead to, directories made where
there is nothing. -/
def makeBelow (t : FileTree) : Location → List Name → Except FileError (FileTree × Location)
  | dir, [] => .ok (t, dir)
  | dir, n :: rest =>
    match t.directoryAt linkLimit dir [n] with
    | .ok next => makeBelow t next rest
    | .error .notFound =>
      match t.get? (dir ++ [n]) with
      | none => makeBelow (t.insert (dir ++ [n]) .directory) (dir ++ [n]) rest
      | some _ => .error .notFound
    | .error e => .error e

/-- Makes the directory a path names, and those above it. -/
def makeDirectory (w : Workspace) (p : Path) : Except FileError Workspace :=
  match makeBelow w.tree (w.start p) p.parts with
  | .error e => .error e
  | .ok (t, _) => .ok (w.withTree t)

/-- Makes the directories above the last name of a path; also gives the
location of that name. -/
def makeParents (w : Workspace) (p : Path) : Except FileError (Workspace × Location) :=
  match p.parts.getLast? with
  | none => .error .isDirectory
  | some n =>
    match makeBelow w.tree (w.start p) p.parts.dropLast with
    | .error e => .error e
    | .ok (t, dir) => .ok (w.withTree t, dir ++ [n])

/-- Writes a file, the directories above it made first. -/
def putFile (w : Workspace) (p : Path) (content : Bytes) : Except FileError Workspace :=
  match w.makeParents p with
  | .error e => .error e
  | .ok (w, _) => w.write p content

/-- Makes a symbolic link, the directories above it made first. -/
def makeLink (w : Workspace) (p target : Path) : Except FileError Workspace :=
  match w.makeParents p with
  | .error e => .error e
  | .ok (w, l) => .ok (w.withTree (w.tree.insert l (.link target)))

/-- Takes away what a path names and everything below it. -/
def removeAll (w : Workspace) (p : Path) : Except FileError Workspace :=
  match p.parts.getLast? with
  | none => .error .isDirectory
  | some n =>
    match w.tree.directoryAt linkLimit (w.start p) p.parts.dropLast with
    | .error e => .error e
    | .ok dir => .ok (w.withTree (w.tree.eraseAll (dir ++ [n])))

end Workspace

end Vendoring
