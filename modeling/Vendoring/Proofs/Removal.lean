/-
What cleaning a directory comes to, exactly.

* `cleanListed_eq_clean`: the order in which the names are listed does not matter;
* `Workspace.Without`: a workspace without some entries of one directory, and
  otherwise the same;
* `Workspace.Stays`: the entries that cannot be removed, because they are
  directories or their paths are too long;
* `clean_of_stuck`, `clean_decided`: where one of them is marked, cleaning stops at
  the smallest and has removed the marked entries before it;
* `clean_cleared`: there is nothing left to be done for a second cleaning;
* `clean_exact` (**cleaning, exactly**): all of this together;
* `clean_stops_at_long_path`: it is not for directories alone that cleaning stops.
-/
import Mathlib.Tactic
import Vendoring.Proofs.Success

namespace Vendoring

variable {w : Workspace} {dir : Path} {rule : Rule} {d : Location}

/-! ### The order of the listing -/

/-- **The order of the listing** does not matter. -/
lemma cleanListed_eq_clean {names : List Name} (hw : w.tree.Named) (hd : w.resolve dir = .ok d)
    (h : names.Perm (w.tree.names d)) : cleanListed w dir rule names = clean w dir rule := by
  have hbare : ∀ n ∈ names, slash ∉ n := fun n hn => hw d n (h.mem_iff.mp hn)
  have hmarked : markedNames rule names = markedNames rule (w.tree.names d) :=
    mergeSort_names_eq (h.filter _)
  have hpaths : markedPaths dir rule names = markedPaths dir rule (w.tree.names d) := by
    rw [markedPaths_eq dir rule hbare, markedPaths_eq dir rule (hw d), hmarked]
  rw [clean, Workspace.list, hd]
  simp only [cleanListed, hpaths]

/-! ### Entries that are gone -/

namespace Workspace

/-- The entries of `d` with the names `p` are not in `w'`; everything else is as in
`w`. -/
structure Without (d : Location) (p : Name → Prop) (w w' : Workspace) : Prop where
  current : w'.current = w.current
  gone : ∀ n, p n → w'.tree.get? (d ++ [n]) = none
  kept : ∀ l, (∀ n, p n → l ≠ d ++ [n]) → w'.tree.get? l = w.tree.get? l

/-- From a directory that is cleared, the marked entries are gone. -/
lemma without_cleared (w : Workspace) (rule : Rule) (d : Location) :
    w.Without d (rule.marks · = true) (w.cleared rule d) :=
  ⟨rfl, fun _ => w.get?_cleared d, w.cleared_differOnlyAt rule d⟩

/-- Where the names before `n` are removed, the marked entries below `n` are
gone. -/
lemma without_eraseNames {before after : List Name} {n : Name}
    (hnames : markedNames rule (w.tree.names d) = before ++ n :: after) :
    w.Without d (fun m => rule.marks m = true ∧ m < n)
      (w.withTree (w.tree.eraseNames d before)) := by
  refine ⟨rfl, fun m hm => ?_, fun l hl => FileTree.get?_eraseNames_of_ne fun m hm => ?_⟩
  · rw [tree_withTree, FileTree.get?_eraseNames_before hnames hm.1, if_pos hm.2]
  · have hlt := mem_before_iff_lt (w.tree.nodup_names d) hnames
      (mem_markedNames_of_before hnames hm)
    exact hl m ⟨marks_of_mem_before hnames m hm, hlt.mp hm⟩

end Workspace

/-! ### Where cleaning stops -/

/-- The entry `n` of `d` cannot be removed: it is a directory, or its path is too
long. -/
def Workspace.Stays (w : Workspace) (dir : Path) (d : Location) (n : Name) : Prop :=
  w.tree.get? (d ++ [n]) = some .directory ∨ pathLimit ≤ (dir.join ⟨n⟩).bytes.length

instance (w : Workspace) (dir : Path) (d : Location) (n : Name) : Decidable (w.Stays dir d n) :=
  inferInstanceAs (Decidable (_ ∨ _))

lemma Workspace.stays_iff {n : Name} (hw : w.tree.WellNamed) (hd : w.resolve dir = .ok d)
    (hn : n ∈ w.tree.names d) : w.Stays dir d n ↔ ¬ w.Removable dir d n := by
  rw [removable_iff hw hd hn, Stays, not_and_or, not_lt, not_ne_iff, or_comm]

/-- Paths are removed one by one up to the first that is not. -/
lemma removeEach_append_cons {ps qs : List Path} {p : Path} {cause : FileError}
    (hends : (removeEach w ps).result = .ok ())
    (hp : (removeEach w ps).workspace.remove p = .error cause) :
    removeEach w (ps ++ p :: qs) =
      ⟨.error (.deleteFailed p cause), (removeEach w ps).workspace, (removeEach w ps).trace⟩ := by
  induction ps generalizing w with
  | nil =>
      simp only [removeEach] at hp ⊢
      rw [List.nil_append, removeEach, hp]
  | cons q ps ih =>
      cases hq : w.remove q with
      | error e =>
          rw [removeEach, hq] at hends
          cases hends
      | ok v =>
          simp only [removeEach, hq] at hends hp
          simp only [List.cons_append, removeEach, hq, ih hends hp]

/-- **Where cleaning stops**: at the first marked entry that is not removable, if
the path leads to the directory with and without its marked entries. -/
lemma clean_of_stuck {before after : List Name} {n : Name} (hw : w.tree.Named)
    (hd : (w.cleared rule d).resolve dir = .ok d)
    (hnames : markedNames rule (w.tree.names d) = before ++ n :: after)
    (hbefore : ∀ m ∈ before, w.Removable dir d m) (hn : ¬ w.Removable dir d n) :
    ∃ cause trace, clean w dir rule = ⟨.error (.deleteFailed (dir.join ⟨n⟩) cause),
      w.withTree (w.tree.eraseNames d before), trace⟩ := by
  have hdir := Workspace.bytes_ne_nil_of_resolve hd
  have hways : (w.cleared rule d).tree.WaysIn (w.tree.eraseNames d before) := by
    rw [Workspace.cleared, hnames, Workspace.tree_withTree, FileTree.eraseNames_append]
    exact FileTree.eraseNames_waysIn _ _ _
  have hv : (w.withTree (w.tree.eraseNames d before)).resolve dir = .ok d :=
    Workspace.resolve_of_waysIn (w := w.cleared rule d) hways rfl hd
  have hwd := Workspace.resolve_of_cleared hd
  have hproper : ∀ m ∈ before ++ n :: after, Name.Proper m := by
    rw [← hnames]
    exact fun m hm => proper_of_mem_markedNames hw hm
  have hnodup : (before ++ n :: after).Nodup := by
    rw [← hnames]
    exact nodup_markedNames rule (w.tree.nodup_names d)
  obtain ⟨hproper, hproper'⟩ := List.forall_mem_append.mp hproper
  obtain ⟨hnodup, _⟩ := List.nodup_append.mp hnodup
  have hends := removeEach_of_removable hproper hnodup hbefore hv
  have hworkspace := (removeEach_ok hdir (Workspace.leadsOnlyTo_of_resolve hwd) hproper hnodup
    hends).2
  cases hp : (w.withTree (w.tree.eraseNames d before)).remove (dir.join ⟨n⟩) with
  | ok v =>
      obtain ⟨d', hd', ⟨hadmitted, e, he, hne⟩, _⟩ :=
        (Workspace.remove_join_eq_ok_iff hdir (hproper' n List.mem_cons_self)).mp hp
      obtain rfl := Workspace.leadsOnlyTo_of_resolve hv d' hd'
      rw [Workspace.tree_withTree, FileTree.get?_eraseNames] at he
      split_ifs at he
      exact absurd ⟨hadmitted, e, he, hne⟩ hn
  | error cause =>
      rw [← hworkspace] at hp
      rw [clean, Workspace.list, hwd]
      simp only [cleanListed, markedPaths_eq dir rule (hw d), hnames, List.map_append,
        List.map_cons, removeEach_append_cons hends hp, hworkspace]
      exact ⟨cause, _, rfl⟩

/-- There is nothing left to be removed by a second cleaning. -/
lemma clean_cleared (hd : (w.cleared rule d).resolve dir = .ok d) :
    clean (w.cleared rule d) dir rule = ⟨.ok [], w.cleared rule d, []⟩ := by
  have hnone : ((w.cleared rule d).tree.names d).filter rule.marks = [] := by
    refine List.filter_eq_nil_iff.mpr fun n hn hmarks => ?_
    rw [FileTree.mem_names, w.get?_cleared d hmarks] at hn
    cases hn
  rw [clean, Workspace.list, hd]
  simp only [cleanListed, markedPaths, hnone, List.map_nil, List.mergeSort_nil, removeEach]
  rfl

/-! ### Cleaning, exactly -/

/-- Cleaning stops at the smallest marked name whose entry stays, the marked
entries of smaller names removed. -/
structure StopsAtSmallest (w : Workspace) (dir : Path) (rule : Rule) (d : Location) (n : Name)
    (w' : Workspace) : Prop where
  listed : n ∈ w.tree.names d
  marked : rule.marks n = true
  stays : w.Stays dir d n
  smallest : ∀ m ∈ w.tree.names d, rule.marks m = true → w.Stays dir d m → n ≤ m
  without : w.Without d (fun m => rule.marks m = true ∧ m < n) w'

/-- **What decides**: with a path that leads to the directory with and without its
marked entries, all of these are removed, or the smallest that stays stops it. -/
lemma clean_decided (hw : w.tree.WellNamed) (hd : (w.cleared rule d).resolve dir = .ok d) :
    (∃ removed trace, clean w dir rule = ⟨.ok removed, w.cleared rule d, trace⟩ ∧
      ∀ n ∈ w.tree.names d, rule.marks n = true → ¬ w.Stays dir d n) ∨
    ∃ n cause v trace, clean w dir rule = ⟨.error (.deleteFailed (dir.join ⟨n⟩) cause), v, trace⟩ ∧
      StopsAtSmallest w dir rule d n v := by
  have hwd := Workspace.resolve_of_cleared hd
  have hremovable : ∀ n ∈ markedNames rule (w.tree.names d), ¬ w.Stays dir d n →
      w.Removable dir d n := by
    intro n hn hstays
    rw [Workspace.stays_iff hw hwd (mem_markedNames.mp hn).1] at hstays
    exact not_not.mp hstays
  cases hfind : (markedNames rule (w.tree.names d)).find? fun n => w.Stays dir d n with
  | none =>
      have hnone : ∀ n ∈ markedNames rule (w.tree.names d), ¬ w.Stays dir d n := by
        simpa using List.find?_eq_none.mp hfind
      obtain ⟨trace, hclean⟩ := clean_of_removable hw.named
        (fun n hn => hremovable n hn (hnone n hn)) hd
      exact Or.inl ⟨_, trace, hclean, fun n hn hm => hnone n (mem_markedNames.mpr ⟨hn, hm⟩)⟩
  | some n =>
      obtain ⟨hn, before, after, hnames, hbefore⟩ := List.find?_eq_some_iff_append.mp hfind
      simp only [decide_eq_true_eq, Bool.not_eq_true', decide_eq_false_iff_not] at hn hbefore
      have hmem : n ∈ markedNames rule (w.tree.names d) := by
        rw [hnames]
        simp
      obtain ⟨hlisted, hmarked⟩ := mem_markedNames.mp hmem
      obtain ⟨cause, trace, hclean⟩ := clean_of_stuck hw.named hd hnames
        (fun m hm => hremovable m (mem_markedNames_of_before hnames hm) (hbefore m hm))
        ((Workspace.stays_iff hw hwd hlisted).mp hn)
      refine Or.inr ⟨n, cause, _, trace, hclean, hlisted, hmarked, hn, fun m hm hmarks hstay => ?_,
        Workspace.without_eraseNames hnames⟩
      -- a smaller one stands before `n`, where none stays
      by_contra hlt
      have hlt := (mem_before_iff_lt (w.tree.nodup_names d) hnames
        (mem_markedNames.mpr ⟨hm, hmarks⟩)).mpr (List.not_le.mp hlt)
      exact hbefore m hlt hstay

/-- **Cleaning, exactly**.  A path that does not lead to a directory is reported.
In a directory, the order of the listing does not matter; where all goes well, the
marked entries are removed in the order of their names and everything else is as it
was.  Where the path still leads there without these entries, cleaning fails exactly
if one of them stays, at the smallest, and a second cleaning has nothing to do. -/
theorem clean_exact (hw : w.tree.WellNamed) (dir : Path) (rule : Rule) :
    (∀ cause, w.resolve dir = .error cause →
      clean w dir rule = ⟨.error (.directoryUnavailable dir cause), w, []⟩) ∧
    ∀ d, w.resolve dir = .ok d →
      (∀ names : List Name, names.Perm (w.tree.names d) →
        cleanListed w dir rule names = clean w dir rule) ∧
      (∀ removed w' trace, clean w dir rule = ⟨.ok removed, w', trace⟩ →
        ∃ ns : List Name, removed = ns.map (fun n => dir.join ⟨n⟩) ∧ ns.Pairwise (· < ·) ∧
          (∀ n, n ∈ ns ↔ n ∈ w.tree.names d ∧ rule.marks n = true) ∧
          w.Without d (rule.marks · = true) w') ∧
      ((w.cleared rule d).resolve dir = .ok d →
        ((∃ e, (clean w dir rule).result = .error e) ↔
          ∃ n ∈ w.tree.names d, rule.marks n = true ∧ w.Stays dir d n) ∧
        (∀ e w' trace, clean w dir rule = ⟨.error e, w', trace⟩ →
          ∃ n cause, e = .deleteFailed (dir.join ⟨n⟩) cause ∧ StopsAtSmallest w dir rule d n w') ∧
        ∀ removed w' trace, clean w dir rule = ⟨.ok removed, w', trace⟩ →
          clean w' dir rule = ⟨.ok [], w', []⟩) := by
  refine ⟨fun cause hcause => ?_, fun d hd => ⟨fun names => cleanListed_eq_clean hw.named hd,
    fun removed w' trace h => ?_, fun hcleared => ?_⟩⟩
  · rw [clean, Workspace.list, hcause]
  · have hcourse := clean_course hw.named dir rule
    rw [h] at hcourse
    cases hcourse with
    | cleared hd' _ _ _ _ =>
        obtain rfl := Workspace.leadsOnlyTo_of_resolve hd _ hd'
        exact ⟨_, rfl, markedNames_sorted rule (w.tree.nodup_names _),
          fun n => mem_markedNames, w.without_cleared rule _⟩
  · obtain ⟨removed, trace, hclean, hnone⟩ | ⟨n, cause, v, trace, hclean, hstops⟩ :=
      clean_decided hw hcleared
    · rw [hclean]
      refine ⟨⟨?_, ?_⟩, ?_, ?_⟩
      · rintro ⟨e, h⟩
        cases h
      · rintro ⟨n, hn, hmarks, hstays⟩
        exact absurd hstays (hnone n hn hmarks)
      · intro e w' trace' h
        cases h
      · intro removed' w' trace' h
        cases h
        exact clean_cleared hcleared
    · rw [hclean]
      refine ⟨⟨fun _ => ⟨n, hstops.listed, hstops.marked, hstops.stays⟩, fun _ => ⟨_, rfl⟩⟩, ?_, ?_⟩
      · intro e w' trace' h
        cases h
        exact ⟨n, cause, rfl, hstops⟩
      · intro removed w' trace' h
        cases h

theorem clean_exact_sample :
    let o := clean Sample.workspace Sample.config.targetDir Sample.config.generated
    cleanListed Sample.workspace Sample.config.targetDir Sample.config.generated
        (Sample.workspace.tree.names [Bytes.ofString "out"]).reverse = o ∧
      clean o.workspace Sample.config.targetDir Sample.config.generated =
        ⟨.ok [], o.workspace, []⟩ := by
  obtain ⟨hlisted, _, hleads⟩ := (clean_exact Sample.built.wellNamed Sample.config.targetDir
    Sample.config.generated).2 [Bytes.ofString "out"] (by decide)
  obtain ⟨_, _, hagain⟩ := hleads Sample.cleared_resolve
  exact ⟨hlisted _ (List.reverse_perm _), hagain _ _ _ (by rw [Sample.clean_eq])⟩

/-! ### A path that is too long -/

namespace Sample

/-- A path of `k` parts, all of which stay where they are. -/
def winding (k : Nat) : Path := ⟨(List.replicate k [dot, slash]).flatten⟩

/-- A directory with one file, which is marked. -/
def single : Workspace where
  tree :=
    { entries := [([Bytes.ofString "generated_a_long_name.go"], .file (Bytes.ofString "x"))]
      nodup := by decide }
  current := []

lemma length_winding (k : Nat) : (winding k).bytes.length = k * 2 := by
  simp [winding]

lemma parts_winding (k : Nat) : (winding k).parts = List.replicate k Name.here := by
  induction k with
  | zero => rfl
  | succ k ih =>
      rw [List.replicate_succ, ← ih]
      rfl

/-- The names lead nowhere else. -/
lemma walkWith_replicate_here {α : Type} (t : FileTree)
    (follow : Location → List Name → Except FileError α) (arrive : Location → Except FileError α)
    (l : Location) (k : Nat) :
    t.walkWith follow arrive l (List.replicate k Name.here) = arrive l := by
  induction k with
  | zero => rfl
  | succ k ih => rw [List.replicate_succ, FileTree.walkWith, if_pos rfl, ih]

/-- The path leads to the current directory, whatever is there. -/
lemma resolve_winding (w : Workspace) {k : Nat} (hk : 0 < k) (hlong : k * 2 < pathLimit) :
    w.resolve (winding k) = .ok w.current := by
  have hspelled : Workspace.checkSpelling (winding k) = .ok () := by
    refine Workspace.checkSpelling_eq_ok_iff.mpr ⟨by simp [winding, dot, slash], ?_, ?_⟩
    · rw [← List.length_pos_iff, length_winding]
      omega
    · rw [length_winding]
      exact hlong
  have hstart : w.start (winding k) = w.current := by
    obtain ⟨k, rfl⟩ := Nat.exists_eq_succ_of_ne_zero hk.ne'
    rfl
  rw [Workspace.resolve_eq_directoryAt hspelled, hstart, parts_winding]
  exact walkWith_replicate_here _ _ _ _ _

lemma single_built : single.Built :=
  (Workspace.Built.empty []).putFile (.ofString "generated_a_long_name.go") (Bytes.ofString "x")
    (by decide) rfl

end Sample

/-- It is not for directories alone that cleaning stops: here no marked entry is
one, and the path leads to the same directory with and without them. -/
theorem clean_stops_at_long_path :
    Sample.single.resolve (Sample.winding 2040) = .ok [] ∧
      (Sample.single.cleared .standard []).resolve (Sample.winding 2040) = .ok [] ∧
      (¬ ∃ n ∈ Sample.single.tree.names [], Rule.standard.marks n = true ∧
        Sample.single.tree.get? [n] = some .directory) ∧
      ∃ p cause, (clean Sample.single (Sample.winding 2040) .standard).result =
        .error (.deleteFailed p cause) := by
  have hleads : ∀ w : Workspace, w.resolve (Sample.winding 2040) = .ok w.current :=
    fun w => Sample.resolve_winding w (by decide) (by decide)
  have hcleared : (Sample.single.cleared .standard []).resolve (Sample.winding 2040) = .ok [] :=
    hleads _
  refine ⟨hleads _, hcleared, by decide, ?_⟩
  obtain ⟨_, _, _, hnone⟩ | ⟨n, cause, _, _, hclean, _⟩ :=
    clean_decided Sample.single_built.wellNamed hcleared
  · have hlong : pathLimit ≤
        ((Sample.winding 2040).join ⟨Bytes.ofString "generated_a_long_name.go"⟩).bytes.length := by
      obtain ⟨middle, hbytes, _⟩ := Path.bytes_join (Sample.winding 2040)
        (show slash ∉ Bytes.ofString "generated_a_long_name.go" by decide)
      have hname : (Bytes.ofString "generated_a_long_name.go").length = 24 := by decide
      rw [hbytes, List.length_append, List.length_append, Sample.length_winding, hname, pathLimit]
      omega
    exact absurd (Or.inr hlong) (hnone _ (by decide) (by decide))
  · exact ⟨_, cause, by rw [hclean]⟩

end Vendoring
