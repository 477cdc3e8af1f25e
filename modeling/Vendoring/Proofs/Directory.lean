/-
Changes inside one directory of a tree.

* `FileTree.Named`, `FileTree.WellNamed`: what every file system promises about
  the names that directories list.  The results about runs ask for one of them,
  and every workspace that is built by operations has both
  (`Workspace.Built.wellNamed`);
* `FileTree.DifferOnlyAt`: two trees that differ at most at marked entries of
  one directory;
* `FileTree.eraseNames`, `FileTree.putFiles`: several entries taken out of a
  directory, several files put into it, with what is found afterwards
  (`get?_eraseNames`, `get?_putFiles_of_mem`) and what stays as it was
  (`eraseNames_differOnlyAt`, `putFiles_differOnlyAt`);
* `FileTree.putFiles_same`: files of different names in another order.
-/
import Mathlib.Tactic
import Vendoring.Proofs.EntryPath
import Vendoring.Proofs.Walk

namespace Vendoring

namespace FileTree

variable {t t' t'' : FileTree} {dir : Location} {rule : Rule} {n : Name}

/-! ### Names -/

/-- No directory lists a name with a separator. -/
def Named (t : FileTree) : Prop := ∀ dir, ∀ n ∈ t.names dir, slash ∉ n

/-- The names in directories are such as every file system has: they hold no
separator and no NUL byte and are not too long. -/
structure WellNamed (t : FileTree) : Prop where
  named : t.Named
  nul : ∀ dir, ∀ n ∈ t.names dir, 0 ∉ n
  short : ∀ dir, ∀ n ∈ t.names dir, n.length ≤ nameLimit

/-- Where an entry is taken away, no name is added. -/
lemma mem_names_of_erase {l : Location} (hl : l ≠ []) (hn : n ∈ (t.erase l).names dir) :
    n ∈ t.names dir := by
  rw [mem_names, get?_erase hl] at hn
  split_ifs at hn
  · cases hn
  · exact mem_names.mpr hn

/-- Where an entry is put in, its own name is added at most. -/
lemma mem_names_of_insert {k : Location} {m : Name} {e : Entry}
    (hn : n ∈ (t.insert (dir ++ [m]) e).names k) : n = m ∨ n ∈ t.names k := by
  rw [mem_names, get?_insert (by simp)] at hn
  split_ifs at hn with heq
  · exact Or.inl (by simpa using congrArg List.getLast? heq)
  · exact Or.inr (mem_names.mpr hn)

lemma Named.erase (h : t.Named) {l : Location} (hl : l ≠ []) : (t.erase l).Named :=
  fun dir n hn => h dir n (mem_names_of_erase hl hn)

lemma Named.insert (h : t.Named) {m : Name} (hm : slash ∉ m) (e : Entry) :
    (t.insert (dir ++ [m]) e).Named := by
  intro k n hn
  rcases mem_names_of_insert hn with rfl | hn
  · exact hm
  · exact h k n hn

/-! ### Trees that differ inside one directory -/

/-- The two trees differ at most at entries of `dir` that the rule marks. -/
def DifferOnlyAt (dir : Location) (rule : Rule) (t t' : FileTree) : Prop :=
  ∀ l, (∀ n, rule.marks n = true → l ≠ dir ++ [n]) → t'.get? l = t.get? l

lemma DifferOnlyAt.refl (dir : Location) (rule : Rule) (t : FileTree) :
    DifferOnlyAt dir rule t t := fun _ _ => rfl

lemma DifferOnlyAt.trans (h : DifferOnlyAt dir rule t t') (h' : DifferOnlyAt dir rule t' t'') :
    DifferOnlyAt dir rule t t'' := fun l hl => (h' l hl).trans (h l hl)

/-- An entry that is not marked is the same in both trees. -/
lemma DifferOnlyAt.unmarked (h : DifferOnlyAt dir rule t t') (hn : rule.marks n = false) :
    t'.get? (dir ++ [n]) = t.get? (dir ++ [n]) := by
  refine h _ fun m hm heq => ?_
  have hnm : n = m := by simpa using heq
  rw [hnm, hm] at hn
  cases hn

/-- Where the two trees differ, a marked entry of the directory stands. -/
lemma DifferOnlyAt.exists_of_ne (h : DifferOnlyAt dir rule t t') {l : Location}
    (hne : t'.get? l ≠ t.get? l) : ∃ n, rule.marks n = true ∧ l = dir ++ [n] := by
  by_contra hnone
  push Not at hnone
  exact hne (h l hnone)

/-! ### Several entries taken away -/

/-- The tree without the entries of `dir` of the given names. -/
def eraseNames (t : FileTree) (dir : Location) (ns : List Name) : FileTree :=
  ns.foldl (fun t n => t.erase (dir ++ [n])) t

@[simp] lemma eraseNames_nil (t : FileTree) (dir : Location) : t.eraseNames dir [] = t := rfl

@[simp] lemma eraseNames_cons (t : FileTree) (dir : Location) (n : Name) (ns : List Name) :
    t.eraseNames dir (n :: ns) = (t.erase (dir ++ [n])).eraseNames dir ns := rfl

lemma eraseNames_append (t : FileTree) (dir : Location) (ms ns : List Name) :
    t.eraseNames dir (ms ++ ns) = (t.eraseNames dir ms).eraseNames dir ns := List.foldl_append

/-- The named entries are gone and the others of the directory stay. -/
lemma get?_eraseNames (t : FileTree) (dir : Location) (ns : List Name) (n : Name) :
    (t.eraseNames dir ns).get? (dir ++ [n]) = if n ∈ ns then none else t.get? (dir ++ [n]) := by
  induction ns generalizing t with
  | nil => simp
  | cons m ns ih =>
      rw [eraseNames_cons, ih, get?_erase (by simp)]
      by_cases hm : n = m <;> by_cases hns : n ∈ ns <;> simp [hm, hns]

lemma get?_eraseNames_of_ne {ns : List Name} {l : Location} (h : ∀ n ∈ ns, l ≠ dir ++ [n]) :
    (t.eraseNames dir ns).get? l = t.get? l := by
  induction ns generalizing t with
  | nil => rfl
  | cons m ns ih =>
      rw [List.forall_mem_cons] at h
      rw [eraseNames_cons, ih h.2, get?_erase (by simp), if_neg h.1]

lemma eraseNames_waysIn (t : FileTree) (dir : Location) (ns : List Name) :
    (t.eraseNames dir ns).WaysIn t := by
  induction ns generalizing t with
  | nil => exact (Same.refl t).waysIn
  | cons m ns ih => exact (ih _).trans (erase_waysIn t (by simp))

lemma eraseNames_differOnlyAt {ns : List Name} (hns : ∀ n ∈ ns, rule.marks n = true) :
    DifferOnlyAt dir rule t (t.eraseNames dir ns) :=
  fun _ hl => get?_eraseNames_of_ne fun n hn => hl n (hns n hn)

lemma Named.eraseNames (h : t.Named) (dir : Location) (ns : List Name) :
    (t.eraseNames dir ns).Named := by
  induction ns generalizing t with
  | nil => exact h
  | cons n ns ih => exact ih (h.erase (by simp))

/-! ### Several files put in -/

/-- The tree with the files put into `dir` one after another. -/
def putFiles (t : FileTree) (dir : Location) (files : List (Name × Bytes)) : FileTree :=
  files.foldl (fun t f => t.insert (dir ++ [f.1]) (.file f.2)) t

@[simp] lemma putFiles_nil (t : FileTree) (dir : Location) : t.putFiles dir [] = t := rfl

@[simp] lemma putFiles_cons (t : FileTree) (dir : Location) (f : Name × Bytes)
    (files : List (Name × Bytes)) :
    t.putFiles dir (f :: files) = (t.insert (dir ++ [f.1]) (.file f.2)).putFiles dir files := rfl

lemma get?_putFiles_of_ne {files : List (Name × Bytes)} {l : Location}
    (h : ∀ n ∈ files.map Prod.fst, l ≠ dir ++ [n]) :
    (t.putFiles dir files).get? l = t.get? l := by
  induction files generalizing t with
  | nil => rfl
  | cons f files ih =>
      rw [List.map_cons, List.forall_mem_cons] at h
      rw [putFiles_cons, ih h.2, get?_insert (by simp), if_neg h.1]

/-- An entry of another name is the same after files are put in. -/
lemma get?_putFiles_of_notMem {files : List (Name × Bytes)} (h : n ∉ files.map Prod.fst) :
    (t.putFiles dir files).get? (dir ++ [n]) = t.get? (dir ++ [n]) := by
  refine get?_putFiles_of_ne fun m hm heq => h ?_
  have hnm : n = m := by simpa using heq
  rw [hnm]
  exact hm

/-- Files of different names are all found. -/
lemma get?_putFiles_of_mem {files : List (Name × Bytes)} (hnodup : (files.map Prod.fst).Nodup)
    {f : Name × Bytes} (hf : f ∈ files) :
    (t.putFiles dir files).get? (dir ++ [f.1]) = some (.file f.2) := by
  induction files generalizing t with
  | nil => cases hf
  | cons g files ih =>
      rw [List.map_cons, List.nodup_cons] at hnodup
      rw [putFiles_cons]
      rcases List.mem_cons.mp hf with rfl | hf
      · rw [get?_putFiles_of_notMem hnodup.1, get?_insert (by simp), if_pos rfl]
      · exact ih hnodup.2 hf

/-- **The order of files** of different names does not matter. -/
lemma putFiles_same {files files' : List (Name × Bytes)} (h : files'.Perm files)
    (hnodup : (files.map Prod.fst).Nodup) :
    (t.putFiles dir files).Same (t.putFiles dir files') := by
  intro l
  by_cases hl : ∃ f ∈ files, l = dir ++ [f.1]
  · obtain ⟨f, hf, rfl⟩ := hl
    have hnodup' : (files'.map Prod.fst).Nodup := (h.map Prod.fst).nodup_iff.mpr hnodup
    rw [get?_putFiles_of_mem hnodup hf, get?_putFiles_of_mem hnodup' (h.mem_iff.mpr hf)]
  · push Not at hl
    rw [get?_putFiles_of_ne (List.forall_mem_map.mpr hl),
      get?_putFiles_of_ne (List.forall_mem_map.mpr fun f hf => hl f (h.mem_iff.mp hf))]

lemma Named.putFiles {files : List (Name × Bytes)} (h : t.Named) (dir : Location)
    (hfiles : ∀ f ∈ files, slash ∉ f.1) : (t.putFiles dir files).Named := by
  induction files generalizing t with
  | nil => exact h
  | cons f files ih =>
      rw [List.forall_mem_cons] at hfiles
      exact ih (h.insert hfiles.1 _) hfiles.2

lemma putFiles_differOnlyAt {files : List (Name × Bytes)}
    (hfiles : ∀ n ∈ files.map Prod.fst, rule.marks n = true) :
    DifferOnlyAt dir rule t (t.putFiles dir files) :=
  fun _ hl => get?_putFiles_of_ne fun n hn => hl n (hfiles n hn)

end FileTree

end Vendoring
