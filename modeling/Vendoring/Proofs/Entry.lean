/-
Removing and writing the entries of a directory, by paths joined from the
directory's path and a proper name.

* `Path.Admits`: the name is usable below the path: the joined spelling is
  accepted and the name is not too long (`Workspace.admits_iff`);
* `Workspace.Removable`: the name is admitted and something other than a
  directory stands there;
* `Workspace.remove_join_eq_ok_iff`: an entry is removed exactly when the path
  resolves and the entry is removable;
* `Workspace.write_join_eq_ok_iff`: a file is written exactly when the path
  resolves, the name is admitted and no directory stands there, provided no
  link does;
* `Workspace.resolve_of_waysIn`: the directory a path resolves to stays the
  same where directories and links do;
* `Workspace.LeadsOnlyTo`: the path resolves to one directory or not at all;
* `Workspace.write_same`: equal trees are written to in the same way.
-/
import Mathlib.Tactic
import Vendoring.FileTree.Workspace
import Vendoring.Proofs.EntryPath
import Vendoring.Proofs.Walk

namespace Vendoring

/-- The name can be used below the path. -/
structure Path.Admits (dir : Path) (n : Name) : Prop where
  spelled : Workspace.checkSpelling (dir.join ⟨n⟩) = .ok ()
  short : n.length ≤ nameLimit

namespace Workspace

variable {w w' : Workspace} {dir : Path} {n : Name} {d : Location}

@[simp] lemma tree_withTree (w : Workspace) (t : FileTree) : (w.withTree t).tree = t := rfl

@[simp] lemma current_withTree (w : Workspace) (t : FileTree) :
    (w.withTree t).current = w.current := rfl

/-! ### Resolving a directory -/

lemma checkSpelling_eq_ok_iff {p : Path} :
    checkSpelling p = .ok () ↔ 0 ∉ p.bytes ∧ p.bytes ≠ [] ∧ p.bytes.length < pathLimit := by
  rw [checkSpelling]
  split_ifs with hnul hempty hlong
  · simpa using fun h => absurd (List.contains_iff_mem.mp hnul) h
  · simp_all
  · simp only [false_iff]
    rintro ⟨_, _, h⟩
    omega
  · simp_all

/-- An accepted joined spelling is accepted for the directory alone. -/
lemma checkSpelling_of_join (hdir : dir.bytes ≠ []) (hn : slash ∉ n)
    (h : checkSpelling (dir.join ⟨n⟩) = .ok ()) : checkSpelling dir = .ok () := by
  rw [checkSpelling_eq_ok_iff] at h ⊢
  obtain ⟨middle, hb, _⟩ := Path.bytes_join dir hn
  rw [hb] at h
  simp only [List.mem_append, not_or, List.length_append] at h
  exact ⟨h.1.1.1, hdir, by omega⟩

lemma start_join (w : Workspace) (dir : Path) (hn : slash ∉ n) :
    w.start (dir.join ⟨n⟩) = w.start dir := by
  rw [start, start, Path.isAbsolute_join dir hn]

lemma resolve_eq_directoryAt (h : checkSpelling dir = .ok ()) :
    w.resolve dir = w.tree.directoryAt linkLimit (w.start dir) dir.parts := by
  rw [resolve, h]

lemma spelled_of_resolve (h : w.resolve dir = .ok d) : checkSpelling dir = .ok () := by
  rw [resolve] at h
  split at h
  · cases h
  · assumption

/-- The empty path resolves to nothing. -/
lemma bytes_ne_nil_of_resolve (h : w.resolve dir = .ok d) : dir.bytes ≠ [] :=
  (checkSpelling_eq_ok_iff.mp (spelled_of_resolve h)).2.1

/-- Below a path that resolves, a bare name is usable unless it holds a NUL byte
or it or the joined path is too long. -/
lemma admits_iff (h : w.resolve dir = .ok d) (hn : slash ∉ n) :
    dir.Admits n ↔
      0 ∉ n ∧ n.length ≤ nameLimit ∧ (dir.join ⟨n⟩).bytes.length < pathLimit := by
  obtain ⟨hnul, hdir, _⟩ := checkSpelling_eq_ok_iff.mp (spelled_of_resolve h)
  obtain ⟨middle, hb, hmiddle⟩ := Path.bytes_join dir hn
  have hzero : 0 ∉ (dir.join ⟨n⟩).bytes ↔ 0 ∉ n := by
    have hmid : (0 : UInt8) ∉ middle := fun hmem => absurd (hmiddle 0 hmem) (by decide)
    simp [hb, hnul, hmid]
  have hne : (dir.join ⟨n⟩).bytes ≠ [] := by simp [hb, hdir]
  constructor
  · rintro ⟨hspelled, hshort⟩
    obtain ⟨hjoined, _, hlong⟩ := checkSpelling_eq_ok_iff.mp hspelled
    exact ⟨hzero.mp hjoined, hshort, hlong⟩
  · rintro ⟨hname, hshort, hlong⟩
    exact ⟨checkSpelling_eq_ok_iff.mpr ⟨hzero.mpr hname, hne, hlong⟩, hshort⟩

/-- A path resolves to the same directory wherever the directories and links
are still there. -/
lemma resolve_of_waysIn (hways : w.tree.WaysIn w'.tree) (hcurrent : w'.current = w.current)
    (h : w.resolve dir = .ok d) : w'.resolve dir = .ok d := by
  have hs := spelled_of_resolve h
  rw [resolve_eq_directoryAt hs] at h ⊢
  rw [start, hcurrent]
  exact FileTree.directoryAt_of_waysIn hways h

/-- The path resolves to `d` or not at all. -/
def LeadsOnlyTo (w : Workspace) (dir : Path) (d : Location) : Prop :=
  ∀ d', w.resolve dir = .ok d' → d' = d

lemma leadsOnlyTo_of_resolve (h : w.resolve dir = .ok d) : w.LeadsOnlyTo dir d := by
  intro d' hd'
  rw [h] at hd'
  cases hd'
  rfl

/-- Where ways go away, a path cannot come to lead elsewhere. -/
lemma LeadsOnlyTo.of_waysIn (h : w.LeadsOnlyTo dir d) (hways : w'.tree.WaysIn w.tree)
    (hcurrent : w'.current = w.current) : w'.LeadsOnlyTo dir d :=
  fun d' hd' => h d' (resolve_of_waysIn hways hcurrent.symm hd')

/-! ### Removing an entry -/

/-- The entry `n` of `d` can be removed by its path. -/
structure Removable (w : Workspace) (dir : Path) (d : Location) (n : Name) : Prop where
  admitted : dir.Admits n
  entry : ∃ e, w.tree.get? (d ++ [n]) = some e ∧ e ≠ .directory

lemma removeAt_eq_ok_iff :
    w.removeAt d n false = .ok w' ↔
      n.length ≤ nameLimit ∧ (∃ e, w.tree.get? (d ++ [n]) = some e ∧ e ≠ .directory) ∧
        w' = w.withTree (w.tree.erase (d ++ [n])) := by
  rw [removeAt]
  by_cases hlong : nameLimit < n.length
  · rw [if_pos hlong]
    simp only [reduceCtorEq, false_iff]
    omega
  · rw [if_neg hlong]
    have hshort : n.length ≤ nameLimit := by omega
    cases hg : w.tree.get? (d ++ [n]) with
    | none => simp
    | some e => cases e <;> simp [hshort, eq_comm]

/-- **Removing an entry**: it succeeds exactly when the directory resolves and
the entry is removable, and takes away that entry. -/
theorem remove_join_eq_ok_iff (hdir : dir.bytes ≠ []) (hn : Name.Proper n) :
    w.remove (dir.join ⟨n⟩) = .ok w' ↔
      ∃ d, w.resolve dir = .ok d ∧ w.Removable dir d n ∧
        w' = w.withTree (w.tree.erase (d ++ [n])) := by
  rw [remove, Path.ofPath_join hn, start_join w dir hn.bare]
  cases hs : checkSpelling (dir.join ⟨n⟩) with
  | error e =>
      simp only [reduceCtorEq, false_iff]
      rintro ⟨d, _, hremovable, _⟩
      rw [hremovable.admitted.spelled] at hs
      cases hs
  | ok u =>
      simp only [← resolve_eq_directoryAt (w := w) (checkSpelling_of_join hdir hn.bare hs)]
      cases hr : w.resolve dir with
      | error e => simp
      | ok d =>
          simp only [removeAt_eq_ok_iff, Except.ok.injEq, exists_eq_left']
          exact ⟨fun h => ⟨⟨⟨hs, h.1⟩, h.2.1⟩, h.2.2⟩,
            fun h => ⟨h.1.admitted.short, h.1.entry, h.2⟩⟩

/-! ### Writing an entry -/

/-- The location that a joined path opens, where no link stands. -/
lemma locate_join_eq_ok_iff {access : FileTree.Access} {l : Location} (hdir : dir.bytes ≠ [])
    (hn : Name.Proper n)
    (hlink : ∀ d target, w.resolve dir = .ok d → w.tree.get? (d ++ [n]) ≠ some (.link target)) :
    w.locate access (dir.join ⟨n⟩) = .ok l ↔
      dir.Admits n ∧ ∃ d, w.resolve dir = .ok d ∧ l = d ++ [n] := by
  rw [locate, Path.ofPath_join hn, start_join w dir hn.bare]
  cases hs : checkSpelling (dir.join ⟨n⟩) with
  | error e =>
      simp only [reduceCtorEq, false_iff]
      rintro ⟨hadmits, _⟩
      rw [hadmits.spelled] at hs
      cases hs
  | ok u =>
      have hres := resolve_eq_directoryAt (w := w) (checkSpelling_of_join hdir hn.bare hs)
      rw [hres] at hlink
      simp only [FileTree.openAt_name hlink, ← hres]
      cases hr : w.resolve dir with
      | error e => simp [Except.bind]
      | ok d =>
          simp only [Except.bind, FileTree.placeIn]
          split_ifs with hlong
          · simp only [false_iff]
            rintro ⟨hadmits, _⟩
            have := hadmits.short
            omega
          · simp only [Except.ok.injEq, exists_eq_left', eq_comm (a := l)]
            exact ⟨fun h => ⟨⟨hs, by omega⟩, h⟩, fun h => h.2⟩

/-- **Writing an entry**: where no link stands, it succeeds exactly when the
directory resolves, the name is admitted and no directory stands there, and
puts the file at that entry. -/
theorem write_join_eq_ok_iff {content : Bytes} (hdir : dir.bytes ≠ []) (hn : Name.Proper n)
    (hlink : ∀ d target, w.resolve dir = .ok d → w.tree.get? (d ++ [n]) ≠ some (.link target)) :
    w.write (dir.join ⟨n⟩) content = .ok w' ↔
      dir.Admits n ∧ ∃ d, w.resolve dir = .ok d ∧ w.tree.get? (d ++ [n]) ≠ some .directory ∧
        w' = w.withTree (w.tree.insert (d ++ [n]) (.file content)) := by
  have hloc : ∀ l, w.locate .writing (dir.join ⟨n⟩) = .ok l ↔
      dir.Admits n ∧ ∃ d, w.resolve dir = .ok d ∧ l = d ++ [n] :=
    fun l => locate_join_eq_ok_iff hdir hn hlink
  rw [write]
  cases hl : w.locate .writing (dir.join ⟨n⟩) with
  | error e =>
      simp only [reduceCtorEq, false_iff]
      rintro ⟨hadmits, d, hd, _⟩
      have := (hloc (d ++ [n])).mpr ⟨hadmits, d, hd, rfl⟩
      rw [hl] at this
      cases this
  | ok l =>
      obtain ⟨hadmits, d, hd, rfl⟩ := (hloc l).mp hl
      cases hg : w.tree.get? (d ++ [n]) with
      | none => simp [hadmits, hd, hg, eq_comm]
      | some e => cases e <;> simp [hadmits, hd, hg, eq_comm]

/-! ### Workspaces with the same entries -/

/-- The same entries, seen from the same directory. -/
structure Same (w w' : Workspace) : Prop where
  current : w.current = w'.current
  tree : w.tree.Same w'.tree

lemma Same.symm (h : w.Same w') : w'.Same w := ⟨h.current.symm, h.tree.symm⟩

lemma Same.locate (h : w.Same w') (access : FileTree.Access) (p : Path) :
    w.locate access p = w'.locate access p := by
  rw [Workspace.locate, Workspace.locate, start, start, h.current,
    FileTree.openAt_alike (h.tree.alikeBut fun _ => False)]

/-- What can be written can be written to the same entries, and leaves the same
entries. -/
lemma write_same {v : Workspace} {p : Path} {content : Bytes} (h : w.Same w')
    (hw : w.write p content = .ok v) : ∃ v', w'.write p content = .ok v' ∧ v.Same v' := by
  rw [write] at hw ⊢
  rw [← h.locate]
  cases hl : w.locate .writing p with
  | error e => simp [hl] at hw
  | ok l =>
      simp only [hl, ← h.tree l] at hw ⊢
      have hne : l ≠ [] := by
        rintro rfl
        simp at hw
      split at hw
      · cases hw
      · next hdir =>
        cases hw
        refine ⟨_, rfl, h.current, ?_⟩
        exact h.tree.insert hne _

end Workspace

end Vendoring
