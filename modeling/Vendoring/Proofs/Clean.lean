/-
What cleaning a directory does, in every case.

* `markedNames`: the names that the rule marks, in the order of their bytes;
  `markedPaths_eq` says that they are removed in this order, and
  `FileTree.get?_eraseNames_before` what is left when some of them are;
* `removeEach_ok`, `removeEach_error`: the loop over paths, when it ends and
  when it stops.  Its invariant is `Workspace.LeadsOnlyTo`: entries that go away
  may close the way to the directory, but open no other;
* `removeEach_of_removable`: when the loop is bound to end;
* `CleanCourse`, `clean_course` (**the courses of cleaning**): the directory is
  not listed, or some entry stays and the ones before it are gone, or all marked
  entries are gone;
* `clean_error`, `clean_trace`: what can be said of any tree, whatever its names;
* `clean_of_removable`: when the last of these courses is taken.
-/
import Mathlib.Tactic
import Vendoring.Clean
import Vendoring.Proofs.Directory
import Vendoring.Proofs.Entry

namespace Vendoring

/-! ### Views of a trace -/

namespace Trace

variable (s t : Trace) (e : Event) (p : Path)

@[simp] lemma requests_nil : requests [] = [] := rfl

@[simp] lemma deleted_nil : deleted [] = [] := rfl

@[simp] lemma written_nil : written [] = [] := rfl

@[simp] lemma requests_append : requests (s ++ t) = requests s ++ requests t :=
  List.filterMap_append

@[simp] lemma deleted_append : deleted (s ++ t) = deleted s ++ deleted t :=
  List.filterMap_append

@[simp] lemma written_append : written (s ++ t) = written s ++ written t :=
  List.filterMap_append

@[simp] lemma requests_log : requests (.log e :: t) = requests t := rfl

@[simp] lemma deleted_log : deleted (.log e :: t) = deleted t := rfl

@[simp] lemma written_log : written (.log e :: t) = written t := rfl

@[simp] lemma requests_delete : requests (.delete p :: t) = requests t := rfl

@[simp] lemma deleted_delete : deleted (.delete p :: t) = p :: deleted t := rfl

@[simp] lemma written_delete : written (.delete p :: t) = written t := rfl

@[simp] lemma requests_write : requests (.write p :: t) = requests t := rfl

@[simp] lemma deleted_write : deleted (.write p :: t) = deleted t := rfl

@[simp] lemma written_write : written (.write p :: t) = p :: written t := rfl

/-- What is done to the remote side and to the file tree, log events left
out. -/
def effects : Trace := t.filter fun | .log _ => false | _ => true

@[simp] lemma effects_append : effects (s ++ t) = effects s ++ effects t :=
  List.filter_append ..

/-- Each other view is one of the effects. -/
lemma views_effects :
    t.effects.requests = t.requests ∧ t.effects.deleted = t.deleted ∧
      t.effects.written = t.written := by
  simp only [effects, requests, deleted, written, List.filterMap_filter]
  refine ⟨?_, ?_, ?_⟩ <;>
    · refine List.filterMap_congr fun x _ => ?_
      cases x <;> rfl

end Trace

/-! ### The marked names of a directory -/

/-- The names that the rule marks, in the order of their bytes. -/
def markedNames (rule : Rule) (names : List Name) : List Name :=
  (names.filter rule.marks).mergeSort (· ≤ ·)

section MarkedNames

variable {rule : Rule} {names : List Name} {n : Name}

/-- Names put in order ascend. -/
lemma pairwise_mergeSort_names (ns : List Name) : (ns.mergeSort (· ≤ ·)).Pairwise (· ≤ ·) := by
  have hsorted := @List.pairwise_mergeSort _ (fun m n : Name => decide (m ≤ n))
    (fun a b c hab hbc => by simpa using List.le_trans (by simpa using hab) (by simpa using hbc))
    (fun a b => by simpa using List.le_total a b) ns
  simpa only [decide_eq_true_eq] using hsorted

/-- How names were listed does not matter once they are put in order. -/
lemma mergeSort_names_eq {ms ns : List Name} (h : ms.Perm ns) :
    ms.mergeSort (· ≤ ·) = ns.mergeSort (· ≤ ·) := by
  have hperm := (List.mergeSort_perm ms (· ≤ ·)).trans
    (h.trans (List.mergeSort_perm ns (· ≤ ·)).symm)
  exact hperm.eq_of_pairwise (fun _ _ _ _ => List.le_antisymm) (pairwise_mergeSort_names ms)
    (pairwise_mergeSort_names ns)

lemma markedNames_perm (rule : Rule) (names : List Name) :
    (markedNames rule names).Perm (names.filter rule.marks) :=
  List.mergeSort_perm _ _

lemma mem_markedNames : n ∈ markedNames rule names ↔ n ∈ names ∧ rule.marks n = true := by
  rw [(markedNames_perm rule names).mem_iff, List.mem_filter]

lemma mem_markedNames_of_before {before after : List Name}
    (hnames : markedNames rule names = before ++ after) (hn : n ∈ before) :
    n ∈ markedNames rule names := by
  rw [hnames]
  exact List.mem_append_left _ hn

/-- The names in front are marked like all others. -/
lemma marks_of_mem_before {before after : List Name}
    (hnames : markedNames rule names = before ++ after) : ∀ m ∈ before, rule.marks m = true :=
  fun _ hm => (mem_markedNames.mp (mem_markedNames_of_before hnames hm)).2

lemma nodup_markedNames (rule : Rule) (h : names.Nodup) : (markedNames rule names).Nodup :=
  (markedNames_perm rule names).nodup_iff.mpr (h.filter _)

/-- The marked names ascend strictly. -/
lemma markedNames_sorted (rule : Rule) (h : names.Nodup) :
    (markedNames rule names).Pairwise (· < ·) := by
  have hle : (markedNames rule names).Pairwise (· ≤ ·) := pairwise_mergeSort_names _
  refine (hle.and (nodup_markedNames rule h)).imp ?_
  rintro a b ⟨hab, hne⟩
  rcases List.le_iff_lt_or_eq.mp hab with hlt | heq
  · exact hlt
  · exact absurd heq hne

/-- Of the marked names in order, those below one of them are the ones before
it. -/
lemma mem_before_iff_lt {names before after : List Name} {rule : Rule} {n m : Name}
    (hnodup : names.Nodup) (hnames : markedNames rule names = before ++ n :: after)
    (hm : m ∈ markedNames rule names) : m ∈ before ↔ m < n := by
  have hsorted := markedNames_sorted rule hnodup
  rw [hnames] at hsorted hm
  obtain ⟨_, hafter, hcross⟩ := List.pairwise_append.mp hsorted
  constructor
  · intro hbefore
    exact hcross m hbefore n List.mem_cons_self
  · intro hlt
    rcases List.mem_append.mp hm with hbefore | hrest
    · exact hbefore
    · exfalso
      rcases List.mem_cons.mp hrest with rfl | hafter'
      · exact List.lt_irrefl _ hlt
      · exact List.lt_asymm hlt ((List.pairwise_cons.mp hafter).1 m hafter')

/-- Marked entries are removed in the order of their names. -/
lemma markedPaths_eq (dir : Path) (rule : Rule) (hnames : ∀ n ∈ names, slash ∉ n) :
    markedPaths dir rule names = (markedNames rule names).map fun n => dir.join ⟨n⟩ := by
  rw [markedPaths, markedNames, List.map_mergeSort]
  intro m hm n hn
  rw [List.mem_filter] at hm hn
  exact (Path.le_join_join dir (Name.proper_of_marks (hnames m hm.1) hm.2)
    (Name.proper_of_marks (hnames n hn.1) hn.2)).symm

end MarkedNames

/-! ### Removing one path after another -/

section RemoveEach

variable {w : Workspace} {dir : Path} {d : Location}

/-- Where the loop stops, the paths before were removed and nothing else was
done. -/
lemma removeEach_error {ps : List Path} {e : Failure} (h : (removeEach w ps).result = .error e) :
    ∃ before p after cause, ps = before ++ p :: after ∧
      (removeEach w before).result = .ok () ∧ e = .deleteFailed p cause ∧
        (removeEach w ps).workspace = (removeEach w before).workspace ∧
          (removeEach w ps).trace = (removeEach w before).trace := by
  induction ps generalizing w with
  | nil => cases h
  | cons p rest ih =>
      rw [removeEach] at h ⊢
      cases hp : w.remove p with
      | error cause =>
          rw [hp] at h
          cases h
          exact ⟨[], p, rest, cause, rfl, rfl, rfl, rfl, rfl⟩
      | ok w' =>
          rw [hp] at h
          obtain ⟨before, q, after, cause, rfl, hbefore, rfl, hw, htrace⟩ := ih h
          refine ⟨p :: before, q, after, cause, rfl, ?_, rfl, ?_, ?_⟩
          · rw [removeEach, hp]
            exact hbefore
          · simp only [removeEach, hp]
            exact hw
          · simp only [removeEach, hp]
            rw [htrace]

/-- Removing requests and writes nothing. -/
lemma removeEach_trace (w : Workspace) (ps : List Path) :
    (removeEach w ps).trace.requests = [] ∧ (removeEach w ps).trace.written = [] := by
  induction ps generalizing w with
  | nil => exact ⟨rfl, rfl⟩
  | cons p rest ih =>
      rw [removeEach]
      cases hp : w.remove p with
      | error cause => exact ⟨rfl, rfl⟩
      | ok w' => exact ih w'

/-- Where the loop ends, all paths were deleted. -/
lemma removeEach_deleted {ps : List Path} (h : (removeEach w ps).result = .ok ()) :
    (removeEach w ps).trace.deleted = ps := by
  induction ps generalizing w with
  | nil => rfl
  | cons p rest ih =>
      rw [removeEach] at h ⊢
      cases hp : w.remove p with
      | error cause =>
          rw [hp] at h
          cases h
      | ok w' =>
          rw [hp] at h
          rw [Trace.deleted_delete, Trace.deleted_log, ih h]

/-- **Where the loop ends**, every entry was removable, and exactly these
entries are gone. -/
lemma removeEach_ok {ns : List Name} (hdir : dir.bytes ≠ []) (hd : w.LeadsOnlyTo dir d)
    (hproper : ∀ n ∈ ns, Name.Proper n) (hnodup : ns.Nodup)
    (h : (removeEach w (ns.map fun n => dir.join ⟨n⟩)).result = .ok ()) :
    (∀ n ∈ ns, w.Removable dir d n) ∧
      (removeEach w (ns.map fun n => dir.join ⟨n⟩)).workspace =
        w.withTree (w.tree.eraseNames d ns) := by
  induction ns generalizing w with
  | nil => exact ⟨by simp, rfl⟩
  | cons n ns ih =>
      rw [List.forall_mem_cons] at hproper
      rw [List.nodup_cons] at hnodup
      rw [List.map_cons, removeEach] at h ⊢
      cases hp : w.remove (dir.join ⟨n⟩) with
      | error cause =>
          rw [hp] at h
          cases h
      | ok w' =>
          rw [hp] at h
          obtain ⟨d', hd', hremovable, rfl⟩ :=
            (Workspace.remove_join_eq_ok_iff hdir hproper.1).mp hp
          obtain rfl := hd d' hd'
          have hlead : (w.withTree (w.tree.erase (d' ++ [n]))).LeadsOnlyTo dir d' :=
            hd.of_waysIn (FileTree.erase_waysIn w.tree (by simp)) rfl
          obtain ⟨hrest, hw⟩ := ih hlead hproper.2 hnodup.2 h
          refine ⟨List.forall_mem_cons.mpr ⟨hremovable, fun m hm => ?_⟩, hw⟩
          -- the names differ, so the entry `m` is the one that stood there at first
          obtain ⟨hadmitted, e, he, hne⟩ := hrest m hm
          rw [Workspace.tree_withTree, FileTree.get?_erase (by simp)] at he
          split_ifs at he
          exact ⟨hadmitted, e, he, hne⟩

/-- If the path still resolves when all entries are gone, the loop ends. -/
lemma removeEach_of_removable {ns : List Name} (hproper : ∀ n ∈ ns, Name.Proper n)
    (hnodup : ns.Nodup) (hremovable : ∀ n ∈ ns, w.Removable dir d n)
    (hd : (w.withTree (w.tree.eraseNames d ns)).resolve dir = .ok d) :
    (removeEach w (ns.map fun n => dir.join ⟨n⟩)).result = .ok () := by
  induction ns generalizing w with
  | nil => rfl
  | cons n ns ih =>
      rw [List.forall_mem_cons] at hproper hremovable
      rw [List.nodup_cons] at hnodup
      have hdir := Workspace.bytes_ne_nil_of_resolve hd
      have hw : w.resolve dir = .ok d :=
        Workspace.resolve_of_waysIn (w := w.withTree (w.tree.eraseNames d (n :: ns)))
          (FileTree.eraseNames_waysIn w.tree d (n :: ns)) rfl hd
      have hp := (Workspace.remove_join_eq_ok_iff hdir hproper.1).mpr
        ⟨d, hw, hremovable.1, rfl⟩
      rw [List.map_cons, removeEach, hp]
      refine ih hproper.2 hnodup.2 (fun m hm => ?_) hd
      obtain ⟨hadmitted, e, he, hne⟩ := hremovable.2 m hm
      refine ⟨hadmitted, e, ?_, hne⟩
      have hmn : d ++ [m] ≠ d ++ [n] := by
        intro heq
        have hmn : m = n := by simpa using heq
        exact hnodup.1 (hmn ▸ hm)
      rw [Workspace.tree_withTree, FileTree.get?_erase (by simp), if_neg hmn]
      exact he

end RemoveEach

/-! ### The courses of cleaning -/

namespace Workspace

/-- The workspace without the marked entries of `d`. -/
def cleared (w : Workspace) (rule : Rule) (d : Location) : Workspace :=
  w.withTree (w.tree.eraseNames d (markedNames rule (w.tree.names d)))

variable {rule : Rule} {n : Name}

/-- No marked entry is left where all of them are removed. -/
lemma get?_cleared (w : Workspace) (d : Location) (hn : rule.marks n = true) :
    (w.cleared rule d).tree.get? (d ++ [n]) = none := by
  rw [cleared, tree_withTree, FileTree.get?_eraseNames]
  split_ifs with hmem
  · rfl
  · rw [mem_markedNames, FileTree.mem_names, not_and] at hmem
    by_contra hne
    exact hmem (Option.isSome_iff_ne_none.mpr hne) hn

/-- A path that leads to the directory without its marked entries does so with
them. -/
lemma resolve_of_cleared {w : Workspace} {d : Location} {dir : Path}
    (h : (w.cleared rule d).resolve dir = .ok d) : w.resolve dir = .ok d :=
  resolve_of_waysIn (w := w.cleared rule d) (FileTree.eraseNames_waysIn _ _ _) rfl h

lemma cleared_differOnlyAt (w : Workspace) (rule : Rule) (d : Location) :
    FileTree.DifferOnlyAt d rule w.tree (w.cleared rule d).tree :=
  FileTree.eraseNames_differOnlyAt fun _ hn => (mem_markedNames.mp hn).2

end Workspace

/-- Where the marked names before `n` are removed, the marked entries below `n`
are gone and those from `n` on are as they were. -/
lemma FileTree.get?_eraseNames_before {t : FileTree} {d : Location} {rule : Rule}
    {before after : List Name} {n m : Name}
    (hnames : markedNames rule (t.names d) = before ++ n :: after) (hm : rule.marks m = true) :
    (t.eraseNames d before).get? (d ++ [m]) = if m < n then none else t.get? (d ++ [m]) := by
  rw [get?_eraseNames]
  by_cases hlisted : m ∈ t.names d
  · have hiff : m ∈ before ↔ m < n :=
      mem_before_iff_lt (t.nodup_names d) hnames (mem_markedNames.mpr ⟨hlisted, hm⟩)
    simp only [hiff]
  · have hnone : t.get? (d ++ [m]) = none := by
      rwa [mem_names, Option.not_isSome_iff_eq_none] at hlisted
    rw [hnone, ite_self, ite_self]

/-- Cleaning requests and writes nothing. -/
lemma clean_trace (w : Workspace) (dir : Path) (rule : Rule) :
    (clean w dir rule).trace.requests = [] ∧ (clean w dir rule).trace.written = [] := by
  rw [clean]
  split
  · exact ⟨rfl, rfl⟩
  · exact removeEach_trace w _

/-- Cleaning fails at the directory or at one of its entries. -/
lemma clean_error {w : Workspace} {dir : Path} {rule : Rule} {e : Failure}
    (h : (clean w dir rule).result = .error e) :
    (∃ cause, e = .directoryUnavailable dir cause) ∨ ∃ p cause, e = .deleteFailed p cause := by
  rw [clean] at h
  cases hlist : w.list dir with
  | error cause =>
      rw [hlist] at h
      cases h
      exact Or.inl ⟨cause, rfl⟩
  | ok names =>
      simp only [hlist, cleanListed] at h
      cases hr : (removeEach w (markedPaths dir rule names)).result with
      | ok u =>
          rw [hr] at h
          cases h
      | error e' =>
          rw [hr] at h
          cases h
          obtain ⟨_, p, _, cause, _, _, rfl, _⟩ := removeEach_error hr
          exact Or.inr ⟨p, cause, rfl⟩

/-- What cleaning a directory can come to. -/
inductive CleanCourse (w : Workspace) (dir : Path) (rule : Rule) : Outcome (List Path) → Prop
  /-- The directory is not listed. -/
  | unlisted {cause : FileError} (h : w.resolve dir = .error cause) :
      CleanCourse w dir rule ⟨.error (.directoryUnavailable dir cause), w, []⟩
  /-- The entry `n` is not removed; those before it are. -/
  | stuck {d : Location} {before after : List Name} {n : Name} {cause : FileError}
      {trace : Trace} (hd : w.resolve dir = .ok d)
      (hnames : markedNames rule (w.tree.names d) = before ++ n :: after)
      (hremovable : ∀ m ∈ before, w.Removable dir d m)
      (hdeleted : trace.deleted = before.map fun m => dir.join ⟨m⟩)
      (hrequests : trace.requests = []) (hwritten : trace.written = []) :
      CleanCourse w dir rule ⟨.error (.deleteFailed (dir.join ⟨n⟩) cause),
        w.withTree (w.tree.eraseNames d before), trace⟩
  /-- All marked entries are removed. -/
  | cleared {d : Location} {trace : Trace} (hd : w.resolve dir = .ok d)
      (hremovable : ∀ n ∈ markedNames rule (w.tree.names d), w.Removable dir d n)
      (hdeleted : trace.deleted =
        (markedNames rule (w.tree.names d)).map fun n => dir.join ⟨n⟩)
      (hrequests : trace.requests = []) (hwritten : trace.written = []) :
      CleanCourse w dir rule
        ⟨.ok ((markedNames rule (w.tree.names d)).map fun n => dir.join ⟨n⟩),
          w.cleared rule d, trace⟩

/-- The marked names of a directory are proper. -/
lemma proper_of_mem_markedNames {t : FileTree} (ht : t.Named) {rule : Rule} {d : Location}
    {n : Name} (hn : n ∈ markedNames rule (t.names d)) : Name.Proper n := by
  obtain ⟨hmem, hmarks⟩ := mem_markedNames.mp hn
  exact Name.proper_of_marks (ht d n hmem) hmarks

/-- **The courses of cleaning**: every call takes one of them. -/
theorem clean_course {w : Workspace} (hw : w.tree.Named) (dir : Path) (rule : Rule) :
    CleanCourse w dir rule (clean w dir rule) := by
  rw [clean, Workspace.list]
  cases hd : w.resolve dir with
  | error cause => exact .unlisted hd
  | ok d =>
      have hdir := Workspace.bytes_ne_nil_of_resolve hd
      have hlead := Workspace.leadsOnlyTo_of_resolve hd
      simp only [cleanListed, markedPaths_eq dir rule (hw d)]
      have hproper : ∀ n ∈ markedNames rule (w.tree.names d), Name.Proper n :=
        fun n hn => proper_of_mem_markedNames hw hn
      have hnodup := nodup_markedNames rule (w.tree.nodup_names d)
      have htrace := removeEach_trace w
        ((markedNames rule (w.tree.names d)).map fun n => dir.join ⟨n⟩)
      cases hr : (removeEach w
        ((markedNames rule (w.tree.names d)).map fun n => dir.join ⟨n⟩)).result with
      | ok u =>
          obtain ⟨hremovable, hws⟩ := removeEach_ok hdir hlead hproper hnodup hr
          rw [hws]
          exact .cleared hd hremovable (removeEach_deleted hr) htrace.1 htrace.2
      | error e =>
          obtain ⟨before, p, after, cause, hps, hbefore, rfl, hws, ht⟩ := removeEach_error hr
          obtain ⟨before, rest, hnames, rfl, hrest⟩ := List.map_eq_append_iff.mp hps
          obtain ⟨n, after, rfl, rfl, rfl⟩ := List.map_eq_cons_iff.mp hrest
          rw [hnames] at hproper hnodup
          obtain ⟨hremovable, hws'⟩ := removeEach_ok hdir hlead
            (fun m hm => hproper m (List.mem_append_left _ hm))
            (List.nodup_append.mp hnodup).1 hbefore
          rw [hws, hws']
          exact .stuck hd hnames hremovable (by rw [ht, removeEach_deleted hbefore]) htrace.1
            htrace.2

/-- Cleaning succeeds where all marked entries can be removed. -/
lemma clean_of_removable {w : Workspace} {d : Location} {dir : Path} {rule : Rule}
    (hw : w.tree.Named)
    (hremovable : ∀ n ∈ markedNames rule (w.tree.names d), w.Removable dir d n)
    (hd : (w.cleared rule d).resolve dir = .ok d) :
    ∃ trace, clean w dir rule =
      ⟨.ok ((markedNames rule (w.tree.names d)).map fun n => dir.join ⟨n⟩), w.cleared rule d,
        trace⟩ := by
  have hwd := Workspace.resolve_of_cleared hd
  have hdir := Workspace.bytes_ne_nil_of_resolve hd
  have hproper : ∀ n ∈ markedNames rule (w.tree.names d), Name.Proper n :=
    fun n hn => proper_of_mem_markedNames hw hn
  have hnodup := nodup_markedNames rule (w.tree.nodup_names d)
  have hends := removeEach_of_removable hproper hnodup hremovable hd
  have hworkspace := (removeEach_ok hdir (Workspace.leadsOnlyTo_of_resolve hwd) hproper hnodup
    hends).2
  rw [clean, Workspace.list, hwd]
  simp only [cleanListed, markedPaths_eq dir rule (hw d), hends, hworkspace]
  exact ⟨_, rfl⟩

end Vendoring
