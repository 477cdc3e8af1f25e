/-
File trees: a finite map from locations to files, directories and links.

* `FileTree.get?`: the entry at a location; the root is always a directory.
* `FileTree.insert`, `FileTree.erase`, `FileTree.eraseAll`: entries put or taken
  away.
* `FileTree.names`: the names in a directory, in no particular order.
* `FileTree.listing`: all entries below a location, by the bytes of their
  relative paths.
-/
import Vendoring.Path

namespace Vendoring

/-- A place in a file tree: the names that lead to it from the root. -/
abbrev Location := List Name

/-- What stands at a location. -/
inductive Entry where
  | file (content : Bytes)
  | directory
  | link (target : Path)
deriving DecidableEq, Repr

/-- A file tree. No location is listed twice. -/
structure FileTree where
  entries : List (Location × Entry)
  nodup : (entries.map Prod.fst).Nodup
deriving DecidableEq, Repr

namespace FileTree

/-- The tree that holds nothing but its root. -/
def empty : FileTree := ⟨[], .nil⟩

/-- The entry at a location, if there is one. -/
def get? (t : FileTree) (l : Location) : Option Entry :=
  if l = [] then some .directory else t.entries.lookup l

/-- The tree without the entry at `l`. -/
def erase (t : FileTree) (l : Location) : FileTree where
  entries := t.entries.filter (·.1 ≠ l)
  nodup := (List.filter_sublist.map Prod.fst).nodup t.nodup

/-- The tree with `e` at `l`. -/
def insert (t : FileTree) (l : Location) (e : Entry) : FileTree where
  entries := (l, e) :: (t.erase l).entries
  nodup := by
    refine List.nodup_cons.2 ⟨?_, (t.erase l).nodup⟩
    simp [erase]

/-- The names of the entries directly inside `dir`. -/
def names (t : FileTree) (dir : Location) : List Name :=
  t.entries.filterMap fun x =>
    match x.1.getLast? with
    | some n => if x.1 = dir ++ [n] then some n else none
    | none => none

/-- The bytes of a location as a relative path. -/
def pathBytes (l : Location) : Bytes := (l.intersperse [slash]).flatten

/-- What stands below a location, by relative path, in the order of the bytes
of those paths. -/
def listing (t : FileTree) (dir : Location) : List (Bytes × Entry) :=
  let below := t.entries.filterMap fun x =>
    if dir.isPrefixOf x.1 && dir.length < x.1.length then
      some (pathBytes (x.1.drop dir.length), x.2)
    else none
  below.mergeSort fun a b => a.1 ≤ b.1

/-- The tree without `l` and everything below it. -/
def eraseAll (t : FileTree) (l : Location) : FileTree where
  entries := t.entries.filter (!l.isPrefixOf ·.1)
  nodup := (List.filter_sublist.map Prod.fst).nodup t.nodup

end FileTree

end Vendoring
