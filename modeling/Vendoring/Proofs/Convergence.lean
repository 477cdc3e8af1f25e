/-
Runs converge: what happened in the target directory before does not matter to
a run that can succeed.

* `Tending`: cleaning the target directory, or running with whatever artifacts
  and answers, with any outcome;
* `Tended`: the workspaces that such operations lead to.  They differ from the
  one at the start only at marked entries of the directory, and all of these
  can be removed (`Tended.tend`, `Tended.history`);
* `Refilled.run_tended`: a run that succeeds in the first workspace succeeds in
  each of them, and leaves the same entries;
* `run_after_history` (**convergence**): the same for every history, and what
  the second of two runs removes.
-/
import Mathlib.Tactic
import Vendoring.Proofs.Aftermath

namespace Vendoring

/-! ### Histories of the target directory -/

/-- One operation on the target directory. -/
inductive Tending where
  | clean
  | run (fetch : Fetcher) (config : Config)

/-- The workspace after an operation on `dir`, whatever came of it. -/
def Tending.apply (dir : Path) (rule : Rule) (w : Workspace) : Tending → Workspace
  | .clean => (Vendoring.clean w dir rule).workspace
  | .run fetch config =>
    (Vendoring.run fetch { config with targetDir := dir, generated := rule } w).workspace

/-- The workspace `u` differs from `w` only at marked entries of `d`, and all
its marked entries can be removed. -/
structure Tended (dir : Path) (rule : Rule) (d : Location) (w u : Workspace) : Prop where
  current : u.current = w.current
  named : u.tree.Named
  differ : FileTree.DifferOnlyAt d rule w.tree u.tree
  removable : ∀ n ∈ markedNames rule (u.tree.names d), u.Removable dir d n

namespace Tended

variable {dir : Path} {rule : Rule} {d : Location} {w u : Workspace}

/-- All marked entries removed, the two workspaces are the same. -/
lemma cleared_same (h : Tended dir rule d w u) : (w.cleared rule d).Same (u.cleared rule d) := by
  refine ⟨h.current.symm, fun l => ?_⟩
  by_cases hl : ∃ n, rule.marks n = true ∧ l = d ++ [n]
  · obtain ⟨n, hn, rfl⟩ := hl
    rw [Workspace.get?_cleared w d hn, Workspace.get?_cleared u d hn]
  · push Not at hl
    rw [Workspace.cleared_differOnlyAt w rule d l hl, Workspace.cleared_differOnlyAt u rule d l hl,
      h.differ l hl]

/-- The path leads to `d` in every tended workspace, if no marked entry of `d`
is on the way. -/
lemma resolve (h : Tended dir rule d w u) (hd : (w.cleared rule d).resolve dir = .ok d) :
    (u.cleared rule d).resolve dir = .ok d ∧ u.resolve dir = .ok d := by
  have hu : (u.cleared rule d).resolve dir = .ok d :=
    Workspace.resolve_of_waysIn h.cleared_same.tree.waysIn h.cleared_same.current.symm hd
  exact ⟨hu, Workspace.resolve_of_cleared hu⟩

/-- Removing marked entries is tending. -/
lemma eraseNames (h : Tended dir rule d w u) {ns : List Name}
    (hns : ∀ n ∈ ns, rule.marks n = true) :
    Tended dir rule d w (u.withTree (u.tree.eraseNames d ns)) := by
  refine ⟨h.current, h.named.eraseNames d ns,
    h.differ.trans (FileTree.eraseNames_differOnlyAt hns), fun n hn => ?_⟩
  obtain ⟨hmem, hmarks⟩ := mem_markedNames.mp hn
  rw [FileTree.mem_names, Workspace.tree_withTree, FileTree.get?_eraseNames] at hmem
  split_ifs at hmem with hgone
  · cases hmem
  · obtain ⟨hadmitted, e, he, hne⟩ :=
      h.removable n (mem_markedNames.mpr ⟨FileTree.mem_names.mpr hmem, hmarks⟩)
    refine ⟨hadmitted, e, ?_, hne⟩
    rw [Workspace.tree_withTree, FileTree.get?_eraseNames, if_neg hgone, he]

/-- Filling the directory with artifacts is tending: a later cleaning recognises
what was written, and can remove it. -/
lemma refilled (h : Tended dir rule d w u) {fetch : Fetcher} {c : Config}
    (hdir : c.targetDir = dir) (hrule : c.generated = rule)
    {fetched : List (Artifact × Response)} (hrefilled : Refilled fetch c u d fetched) :
    Tended dir rule d w (u.refilled rule d fetched) := by
  subst hdir hrule
  have hbare : ∀ f ∈ fetched.map fileOf, slash ∉ f.1 :=
    List.forall_mem_map.mpr fun x hx => (hrefilled.valid.proper (hrefilled.mem_artifacts hx)).bare
  refine ⟨h.current, (h.named.eraseNames d _).putFiles d hbare,
    h.differ.trans (Workspace.refilled_differOnlyAt hrefilled.marks), fun n hn => ?_⟩
  have hmem : n ∈ (fetched.map Prod.fst).map Artifact.name :=
    ((markedNames_perm _ _).trans (Workspace.filter_names_refilled_perm hrefilled.marks
      hrefilled.nodup)).mem_iff.mp hn
  rw [List.map_map, List.mem_map] at hmem
  obtain ⟨x, hx, rfl⟩ := hmem
  exact ⟨hrefilled.admitted x hx, _, Workspace.get?_refilled_of_mem hrefilled.nodup hx, by simp⟩

/-- **One operation**: a tended workspace stays tended. -/
lemma tend (h : Tended dir rule d w u) (hd : (w.cleared rule d).resolve dir = .ok d)
    (op : Tending) : Tended dir rule d w (op.apply dir rule u) := by
  -- whatever directory the operation reports, it is `d`
  have hlead := Workspace.leadsOnlyTo_of_resolve (h.resolve hd).2
  cases op with
  | clean =>
      rw [Tending.apply]
      have hcourse := clean_course h.named dir rule
      generalize clean u dir rule = o at hcourse ⊢
      cases hcourse with
      | unlisted _ => exact h
      | stuck hd' hnames _ _ _ _ =>
          obtain rfl := hlead _ hd'
          exact h.eraseNames (marks_of_mem_before hnames)
      | cleared hd' _ _ _ _ =>
          obtain rfl := hlead _ hd'
          exact h.eraseNames fun n hn => (mem_markedNames.mp hn).2
  | run fetch config =>
      rw [Tending.apply]
      have hcourse := run_course h.named fetch { config with targetDir := dir, generated := rule }
      generalize run fetch { config with targetDir := dir, generated := rule } u = o at hcourse ⊢
      cases hcourse with
      | refused _ => exact h
      | unlisted _ _ _ => exact h
      | stuck hd' hnames _ _ _ _ =>
          obtain rfl := hlead _ hd'
          exact h.eraseNames (marks_of_mem_before hnames)
      | stopped _ hrefilled _ _ _ _ =>
          obtain rfl := hlead _ hrefilled.resolved
          exact h.refilled rfl rfl hrefilled
      | finished _ hrefilled _ _ _ =>
          obtain rfl := hlead _ hrefilled.resolved
          exact h.refilled rfl rfl hrefilled

/-- **A whole history**: a tended workspace stays tended. -/
lemma history (h : Tended dir rule d w u) (hd : (w.cleared rule d).resolve dir = .ok d)
    (ops : List Tending) : Tended dir rule d w (ops.foldl (Tending.apply dir rule) u) := by
  induction ops generalizing u with
  | nil => exact h
  | cons op ops ih => exact ih (h.tend hd op)

end Tended

/-! ### A run after a history -/

section Again

variable {fetch : Fetcher} {c : Config} {w u : Workspace} {d : Location}
  {fetched : List (Artifact × Response)}

/-- The workspace a run starts from is tended, if the run comes to writing. -/
lemma Refilled.tended (h : Refilled fetch c w d fetched) (hw : w.tree.Named) :
    Tended c.targetDir c.generated d w w :=
  ⟨rfl, hw, .refl d c.generated w.tree, h.removable⟩

/-- **The run in a tended workspace**: it succeeds as in the first one, and
leaves the same entries. -/
lemma Refilled.run_tended (h : Refilled fetch c w d fetched)
    (hartifacts : c.artifacts = fetched.map Prod.fst)
    (ht : Tended c.targetDir c.generated d w u) :
    ∃ v trace, run fetch c u =
        ⟨.ok ⟨(markedNames c.generated (u.tree.names d)).map fun n => c.targetDir.join ⟨n⟩,
          fetched.map c.recordOf⟩, v, trace⟩ ∧
      v.Same (w.refilled c.generated d fetched) := by
  obtain ⟨trace, hclean⟩ := clean_of_removable ht.named ht.removable
    (ht.resolve (h.leads (h.ne_nil hartifacts)).1).1
  obtain ⟨v, hwritten, hsame⟩ := Workspace.writeEach_same ht.cleared_same h.written
  obtain ⟨hresult, hworkspace⟩ := syncFrom_of_fetched h.answered hwritten
  rw [← hartifacts] at hresult hworkspace
  obtain ⟨trace', hrun⟩ := run_of_parts h.valid hclean hresult
  rw [show (sync fetch c (u.cleared c.generated d)).workspace = v from hworkspace] at hrun
  exact ⟨v, trace', hrun, hsame.symm⟩

/-- The marked entries of a directory filled anew are the files of the
artifacts, put in the order of their names. -/
lemma Refilled.map_markedNames (h : Refilled fetch c w d fetched) :
    (markedNames c.generated ((w.refilled c.generated d fetched).tree.names d)).map
        (fun n => c.targetDir.join ⟨n⟩) =
      ((fetched.map Prod.fst).mergeSort fun a b => a.name ≤ b.name).map c.targetPath := by
  have hnames : markedNames c.generated ((w.refilled c.generated d fetched).tree.names d) =
      ((fetched.map Prod.fst).map Artifact.name).mergeSort (· ≤ ·) :=
    mergeSort_names_eq (Workspace.filter_names_refilled_perm h.marks h.nodup)
  have hsorted : ((fetched.map Prod.fst).mergeSort fun a b => a.name ≤ b.name).map Artifact.name =
      ((fetched.map Prod.fst).map Artifact.name).mergeSort (· ≤ ·) :=
    List.map_mergeSort fun _ _ _ _ => rfl
  rw [hnames, ← hsorted, List.map_map]
  rfl

end Again

/-- **Convergence**: where a run succeeds, it succeeds after every history of
cleanings and runs in the same directory, and leaves the same entries.  Repeated
at once, it removes the files of its artifacts in the order of their names. -/
theorem run_after_history {answer : String → Except FetchError Response} {c : Config}
    {w w' : Workspace} {report : Report} {trace : Trace} (hw : w.tree.Named)
    (h : run (.constant answer) c w = ⟨.ok report, w', trace⟩) (history : List Tending) :
    (∃ report' v trace', run (.constant answer) c
        (history.foldl (Tending.apply c.targetDir c.generated) w) = ⟨.ok report', v, trace'⟩ ∧
      v.Same w') ∧
    ∃ report' v trace', run (.constant answer) c w' = ⟨.ok report', v, trace'⟩ ∧ v.Same w' ∧
      report'.removed = (c.artifacts.mergeSort fun a b => a.name ≤ b.name).map c.targetPath := by
  have hcourse := run_course hw (.constant answer) c
  rw [h] at hcourse
  cases hcourse with
  | @finished d fetched _ hartifacts hrefilled _ _ _ =>
      have hd := (hrefilled.leads (hrefilled.ne_nil hartifacts)).1
      have ht := hrefilled.tended hw
      constructor
      · obtain ⟨v, trace', hrun, hsame⟩ := hrefilled.run_tended hartifacts (ht.history hd history)
        exact ⟨_, v, trace', hrun, hsame⟩
      · obtain ⟨v, trace', hrun, hsame⟩ := hrefilled.run_tended hartifacts
          (ht.refilled rfl rfl hrefilled)
        refine ⟨_, v, trace', hrun, hsame, ?_⟩
        rw [hrefilled.map_markedNames, hartifacts]

theorem run_after_history_sample :
    ∃ report v trace, run (.constant fun _ => .ok (.ok "one")) Sample.config
        ([Tending.clean, .run Sample.failing Sample.config].foldl
          (Tending.apply Sample.config.targetDir Sample.config.generated) Sample.workspace) =
        ⟨.ok report, v, trace⟩ ∧
      v.Same
        (run (.constant fun _ => .ok (.ok "one")) Sample.config Sample.workspace).workspace := by
  have hresult : (run (.constant fun _ => .ok (.ok "one")) Sample.config Sample.workspace).result =
      .ok ⟨Sample.stale, Sample.config.artifacts.map fun a =>
        ⟨Sample.config.artifactUrl a, Sample.config.targetPath a, 200, 3⟩⟩ := by
    rw [Sample.run_result]
    decide
  exact (run_after_history Sample.built.named (show run _ Sample.config Sample.workspace = ⟨_, _, _⟩ by
    rw [← hresult]) _).1

end Vendoring
