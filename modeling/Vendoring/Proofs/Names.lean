/-
The names of a tree are such as a file system has, and every operation keeps
them so.

* `Name.Legal`, `Path.Legal`: names that a directory can list, paths that entries
  can be made at;
* `FileTree.Legal`: all names of a tree are legal, and its links can be followed.
  Then what a path opens has a legal name, through however many links
  (`FileTree.Legal.endsLegal`);
* `Workspace.Built`: the workspaces that come from an empty tree by making,
  writing and removing entries;
* `Workspace.Built.wellNamed`, `Workspace.Built.named` (**names are legal**): their
  trees are `FileTree.WellNamed` and `FileTree.Named`, as the results about
  cleaning and running ask for;
* `Workspace.Built.clean`, `Workspace.Built.run` (**the program keeps it so**): a
  workspace that cleaning or a run leaves is built as well, so these results hold
  again of what comes next.
-/
import Mathlib.Tactic
import Vendoring.Proofs.Run

namespace Vendoring

/-! ### Names and paths -/

/-- A name that a directory can list. -/
structure Name.Legal (n : Name) : Prop where
  bare : slash ∉ n
  nul : 0 ∉ n
  short : n.length ≤ nameLimit

namespace Path

variable {p : Path} {n : Name}

/-- A path that entries can be made at. -/
structure Legal (p : Path) : Prop where
  nul : 0 ∉ p.bytes
  short : ∀ n ∈ p.parts, n.length ≤ nameLimit

instance (p : Path) : Decidable p.Legal :=
  decidable_of_iff (0 ∉ p.bytes ∧ ∀ n ∈ p.parts, n.length ≤ nameLimit)
    ⟨fun h => ⟨h.1, h.2⟩, fun h => ⟨h.nul, h.short⟩⟩

lemma bare_of_mem_parts (hn : n ∈ p.parts) : slash ∉ n :=
  fun hslash => (mem_of_mem_splitSlashes (List.mem_filter.mp hn).1 hslash).2 rfl

lemma nul_notMem_of_mem_parts (hp : 0 ∉ p.bytes) (hn : n ∈ p.parts) : 0 ∉ n :=
  fun hnul => hp (mem_of_mem_splitSlashes (List.mem_filter.mp hn).1 hnul).1

lemma Legal.name (h : p.Legal) (hn : n ∈ p.parts) : Name.Legal n :=
  ⟨bare_of_mem_parts hn, nul_notMem_of_mem_parts h.nul hn, h.short n hn⟩

end Path

/-! ### Trees -/

namespace FileTree

variable {t t' : FileTree} {l : Location}

/-- The names are such as every file system has, and so are the targets of
links. -/
structure Legal (t : FileTree) : Prop where
  names : ∀ dir, ∀ n ∈ t.names dir, Name.Legal n
  links : ∀ l target, t.get? l = some (.link target) → 0 ∉ target.bytes

lemma Legal.wellNamed (h : t.Legal) : t.WellNamed where
  named dir n hn := (h.names dir n hn).bare
  nul dir n hn := (h.names dir n hn).nul
  short dir n hn := (h.names dir n hn).short

lemma legal_empty : empty.Legal := by
  refine ⟨fun dir n hn => absurd hn List.not_mem_nil, fun l target hl => ?_⟩
  rw [get?] at hl
  split_ifs at hl
  · cases hl
  · cases hl

/-- A tree with fewer entries is legal as well. -/
lemma Legal.of_fewer (h : t.Legal) (hfewer : ∀ l e, t'.get? l = some e → t.get? l = some e) :
    t'.Legal := by
  refine ⟨fun dir n hn => h.names dir n ?_, fun l target hl => h.links l target (hfewer _ _ hl)⟩
  obtain ⟨e, he⟩ := Option.isSome_iff_exists.mp (mem_names.mp hn)
  rw [mem_names, hfewer _ _ he]
  rfl

lemma Legal.erase (h : t.Legal) (hl : l ≠ []) : (t.erase l).Legal := by
  refine h.of_fewer fun k e hk => ?_
  rw [get?_erase hl] at hk
  split_ifs at hk
  exact hk

lemma Legal.eraseAll (h : t.Legal) (hl : l ≠ []) : (t.eraseAll l).Legal := by
  refine h.of_fewer fun k e hk => ?_
  rw [get?_eraseAll hl] at hk
  split_ifs at hk
  exact hk

lemma Legal.insert (h : t.Legal) {dir : Location} {n : Name} {e : Entry} (hn : Name.Legal n)
    (he : ∀ target, e = .link target → 0 ∉ target.bytes) : (t.insert (dir ++ [n]) e).Legal := by
  refine ⟨fun k m hm => ?_, fun k target hk => ?_⟩
  · rcases mem_names_of_insert hm with rfl | hm
    · exact hn
    · exact h.names k m hm
  · rw [get?_insert (by simp)] at hk
    split_ifs at hk
    · cases hk
      exact he target rfl
    · exact h.links k target hk

/-- The name that a path ends with is one of its parts. -/
lemma Route.mem_parts {p : Path} {n : Name} {slashed : Bool}
    (h : (Route.ofPath p).ending = .name n slashed) : n ∈ p.parts := by
  rw [Route.ofPath] at h
  split at h
  · cases h
  · next m hm =>
    split_ifs at h
    cases h
    exact List.mem_of_getLast? hm

/-- The location is that of a legal name. -/
def EndsLegal (l : Location) : Prop := ∃ dir n, l = dir ++ [n] ∧ Name.Legal n

/-- **What a path opens** has a legal name. -/
lemma Legal.endsLegal (ht : t.Legal) {p : Path} (hp : 0 ∉ p.bytes) {access : Access}
    {links : Nat} {start : Location}
    (h : t.openAt access links start (Route.ofPath p) = .ok l) : EndsLegal l := by
  refine of_openAt (Q := fun n => slash ∉ n ∧ 0 ∉ n)
    (fun dir n hn hshort _ => ⟨dir, n, rfl, hn.1, hn.2, hshort⟩)
    (fun k target n slashed htarget hn => ?_) (fun n slashed hn => ?_) h
  · exact ⟨Path.bare_of_mem_parts (Route.mem_parts hn),
      Path.nul_notMem_of_mem_parts (ht.links k target htarget) (Route.mem_parts hn)⟩
  · exact ⟨Path.bare_of_mem_parts (Route.mem_parts hn),
      Path.nul_notMem_of_mem_parts hp (Route.mem_parts hn)⟩

end FileTree

/-! ### Operations keep the names -/

namespace Workspace

variable {w w' : Workspace} {p : Path}

lemma legal_write {content : Bytes} (h : w.tree.Legal) (hw : w.write p content = .ok w') :
    w'.tree.Legal := by
  rw [write, locate] at hw
  cases hs : checkSpelling p with
  | error e => simp [hs] at hw
  | ok u =>
      have hp : 0 ∉ p.bytes := (checkSpelling_eq_ok_iff.mp hs).1
      cases hl : w.tree.openAt .writing linkLimit (w.start p) (FileTree.Route.ofPath p) with
      | error e => simp [hs, hl] at hw
      | ok l =>
          obtain ⟨dir, n, rfl, hn⟩ := h.endsLegal hp hl
          simp only [hs, hl] at hw
          split at hw
          · cases hw
          · cases hw
            exact h.insert hn (by simp)

lemma legal_removeAt {dir : Location} {n : Name} {slashed : Bool} (h : w.tree.Legal)
    (hw : w.removeAt dir n slashed = .ok w') : w'.tree.Legal := by
  rw [removeAt] at hw
  split at hw
  · cases hw
  · split at hw
    · cases hw
    · cases hw
    · split at hw
      · cases hw
      · cases hw
        exact h.erase (by simp)

lemma legal_remove (h : w.tree.Legal) (hw : w.remove p = .ok w') : w'.tree.Legal := by
  rw [remove] at hw
  split at hw
  · cases hw
  · simp only at hw
    split at hw
    · cases hw
    · split at hw
      · cases hw
      · exact legal_removeAt h hw

lemma legal_makeBelow {t t' : FileTree} {dir d : Location} {ns : List Name} (h : t.Legal)
    (hns : ∀ n ∈ ns, Name.Legal n) (hm : makeBelow t dir ns = .ok (t', d)) : t'.Legal := by
  induction ns generalizing t dir with
  | nil =>
      cases hm
      exact h
  | cons n rest ih =>
      rw [List.forall_mem_cons] at hns
      rw [makeBelow] at hm
      split at hm
      · exact ih h hns.2 hm
      · split at hm
        · exact ih (h.insert hns.1 (by simp)) hns.2 hm
        · cases hm
      · cases hm

lemma legal_makeDirectory (h : w.tree.Legal) (hp : p.Legal) (hw : w.makeDirectory p = .ok w') :
    w'.tree.Legal := by
  rw [makeDirectory] at hw
  cases hm : makeBelow w.tree (w.start p) p.parts with
  | error e => simp [hm] at hw
  | ok made =>
      rw [hm] at hw
      cases hw
      exact legal_makeBelow h (fun _ hn => hp.name hn) hm

lemma legal_makeParents {l : Location} (h : w.tree.Legal) (hp : p.Legal)
    (hw : w.makeParents p = .ok (w', l)) : w'.tree.Legal ∧ FileTree.EndsLegal l := by
  rw [makeParents] at hw
  cases hlast : p.parts.getLast? with
  | none => simp [hlast] at hw
  | some n =>
      cases hm : makeBelow w.tree (w.start p) p.parts.dropLast with
      | error e => simp [hlast, hm] at hw
      | ok made =>
          simp only [hlast, hm] at hw
          cases hw
          exact ⟨legal_makeBelow h (fun m hmem => hp.name (List.mem_of_mem_dropLast hmem)) hm, _, n,
            rfl, hp.name (List.mem_of_getLast? hlast)⟩

/-- Workspaces that come from an empty tree.  Entries are made at legal paths;
writing and removing check their paths themselves. -/
inductive Built : Workspace → Prop
  | empty (current : Location) : Built ⟨.empty, current⟩
  | makeDirectory {w w' : Workspace} (h : Built w) (p : Path) (hp : p.Legal)
      (hw : w.makeDirectory p = .ok w') : Built w'
  | putFile {w w' : Workspace} (h : Built w) (p : Path) (content : Bytes) (hp : p.Legal)
      (hw : w.putFile p content = .ok w') : Built w'
  | makeLink {w w' : Workspace} (h : Built w) (p target : Path) (hp : p.Legal)
      (htarget : 0 ∉ target.bytes) (hw : w.makeLink p target = .ok w') : Built w'
  | removeAll {w w' : Workspace} {p : Path} (h : Built w) (hw : w.removeAll p = .ok w') : Built w'
  | write {w w' : Workspace} {p : Path} {content : Bytes} (h : Built w)
      (hw : w.write p content = .ok w') : Built w'
  | remove {w w' : Workspace} {p : Path} (h : Built w) (hw : w.remove p = .ok w') : Built w'

namespace Built

/-- **Names are legal** in every workspace that comes from an empty tree. -/
theorem legal (h : Built w) : w.tree.Legal := by
  induction h with
  | empty current => exact FileTree.legal_empty
  | makeDirectory _ p hp hw ih => exact legal_makeDirectory ih hp hw
  | @putFile w w' _ p content hp hw ih =>
      rw [Workspace.putFile] at hw
      cases hm : w.makeParents p with
      | error e => simp [hm] at hw
      | ok made =>
          rw [hm] at hw
          exact legal_write (legal_makeParents ih hp hm).1 hw
  | @makeLink w w' _ p target hp htarget hw ih =>
      rw [Workspace.makeLink] at hw
      cases hm : w.makeParents p with
      | error e => simp [hm] at hw
      | ok made =>
          rw [hm] at hw
          cases hw
          obtain ⟨hlegal, dir, n, hl, hn⟩ := legal_makeParents ih hp hm
          rw [tree_withTree, hl]
          refine hlegal.insert hn fun target' htarget' => ?_
          cases htarget'
          exact htarget
  | removeAll _ hw ih =>
      rw [Workspace.removeAll] at hw
      split at hw
      · cases hw
      · split at hw
        · cases hw
        · cases hw
          exact ih.eraseAll (by simp)
  | write _ hw ih => exact legal_write ih hw
  | remove _ hw ih => exact legal_remove ih hw

lemma wellNamed (h : Built w) : w.tree.WellNamed := h.legal.wellNamed

lemma named (h : Built w) : w.tree.Named := h.wellNamed.named

/-! ### The program keeps the names -/

lemma removeEach (h : Built w) (ps : List Path) : Built (Vendoring.removeEach w ps).workspace := by
  induction ps generalizing w with
  | nil => exact h
  | cons p rest ih =>
      rw [Vendoring.removeEach]
      cases hp : w.remove p with
      | error cause => exact h
      | ok w' => exact ih (h.remove hp)

lemma clean (h : Built w) (dir : Path) (rule : Rule) :
    Built (Vendoring.clean w dir rule).workspace := by
  rw [Vendoring.clean]
  split
  · exact h
  · exact h.removeEach _

lemma syncFrom (h : Built w) (fetch : Fetcher) (c : Config) (asked : List String)
    (as : List Artifact) : Built (Vendoring.syncFrom fetch c asked as w).workspace := by
  induction as generalizing asked w with
  | nil => exact h
  | cons a rest ih =>
      obtain ⟨e, trace, hstop, _, _⟩ | ⟨r, w', hfetch, hpolicy, hwrite⟩ :=
        syncFrom_cons fetch c asked a rest w
      · rw [hstop]
        exact h
      · rw [syncFrom_cons_written rest hfetch hpolicy hwrite]
        exact ih (h.write hwrite) _

/-- **A run** leaves a workspace that comes from an empty tree as well. -/
theorem run (h : Built w) (fetch : Fetcher) (c : Config) :
    Built (Vendoring.run fetch c w).workspace := by
  have hcleaned := h.clean c.targetDir c.generated
  cases run_stages c w with
  | refused hvalid =>
      rw [run_of_refused hvalid]
      exact h
  | uncleaned hvalid hclean _ _ =>
      rw [hclean] at hcleaned
      rw [run_of_uncleaned hvalid hclean]
      exact hcleaned
  | cleaned hvalid hclean _ _ =>
      rw [hclean] at hcleaned
      rw [run_of_cleaned hvalid hclean]
      exact hcleaned.syncFrom fetch c [] c.artifacts

end Built

end Workspace

end Vendoring
