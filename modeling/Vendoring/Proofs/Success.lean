/-
When a run succeeds.

* `PathsFit`: no path is over the limit;
* `fetched_constant_iff`: what it takes to fetch artifacts from a remote side
  that answers by the URL;
* `removable_iff`, `writeEach_cleared`: what it takes to empty the directory and
  to fill it;
* `run_ok_iff` (**the exact condition**): the configuration is accepted, the
  target path leads to a directory with and without its marked entries, none of
  these is a directory, every answer is accepted, and every local name can be a
  file's name.
-/
import Mathlib.Tactic
import Vendoring.Proofs.Aftermath

namespace Vendoring

variable {answer : String → Except FetchError Response} {c : Config} {w : Workspace}
  {d : Location}

/-! ### What is taken for granted -/

/-- No path is over the limit, neither that of an entry to be removed nor that
of a file to be written. -/
structure PathsFit (c : Config) (w : Workspace) : Prop where
  removed : ∀ d, w.resolve c.targetDir = .ok d → ∀ n ∈ w.tree.names d,
    c.generated.marks n = true → (c.targetDir.join ⟨n⟩).bytes.length < pathLimit
  written : ∀ a ∈ c.artifacts, (c.targetPath a).bytes.length < pathLimit

/-! ### The three stages -/

/-- An entry of the directory can be removed, unless it is a directory or its path
is too long. -/
lemma removable_iff {dir : Path} {n : Name} (hw : w.tree.WellNamed) (hd : w.resolve dir = .ok d)
    (hn : n ∈ w.tree.names d) :
    w.Removable dir d n ↔
      (dir.join ⟨n⟩).bytes.length < pathLimit ∧ w.tree.get? (d ++ [n]) ≠ some .directory := by
  have hadmits := Workspace.admits_iff hd (hw.named d n hn)
  obtain ⟨e, he⟩ := Option.isSome_iff_exists.mp (FileTree.mem_names.mp hn)
  rw [he, (Option.some_injective _).ne_iff]
  constructor
  · rintro ⟨hadmitted, e', he', hne⟩
    rw [he] at he'
    cases he'
    exact ⟨(hadmits.mp hadmitted).2.2, hne⟩
  · rintro ⟨hlong, hne⟩
    exact ⟨hadmits.mpr ⟨hw.nul d n hn, hw.short d n hn, hlong⟩, e, he, hne⟩

/-- The marked entries can all be removed, unless one is a directory. -/
lemma removable_of_wellNamed (hw : w.tree.WellNamed) (hpaths : PathsFit c w)
    (hd : w.resolve c.targetDir = .ok d)
    (hdirs : ∀ n, c.generated.marks n = true → w.tree.get? (d ++ [n]) ≠ some .directory) :
    ∀ n ∈ markedNames c.generated (w.tree.names d), w.Removable c.targetDir d n := by
  intro n hn
  obtain ⟨hlisted, hmarks⟩ := mem_markedNames.mp hn
  exact (removable_iff hw hd hlisted).mpr
    ⟨hpaths.removed d hd n hlisted hmarks, hdirs n hmarks⟩

/-- A remote side that answers by the URL is asked for artifacts one by one. -/
lemma fetched_constant_iff {asked : List String} {xs : List (Artifact × Response)} :
    Fetched (.constant answer) c asked xs ↔
      ∀ x ∈ xs, answer (c.artifactUrl x.1) = .ok x.2 ∧ c.policy.refusal? x.2 = none := by
  induction xs generalizing asked with
  | nil => simp [Fetched.nil]
  | cons x xs ih =>
      rw [List.forall_mem_cons, ← @ih (asked ++ [c.artifactUrl x.1])]
      constructor
      · intro h
        cases h with
        | cons hfetch hpolicy hrest => exact ⟨⟨hfetch, hpolicy⟩, hrest⟩
      · rintro ⟨⟨hfetch, hpolicy⟩, hrest⟩
        exact .cons hfetch hpolicy hrest

/-- Where each artifact has an answer that is accepted, all are fetched. -/
lemma exists_fetched
    (h : ∀ a ∈ c.artifacts, ∃ r, answer (c.artifactUrl a) = .ok r ∧ c.policy.refusal? r = none) :
    ∃ fetched : List (Artifact × Response), fetched.map Prod.fst = c.artifacts ∧
      Fetched (.constant answer) c [] fetched := by
  have : Nonempty Response := ⟨.missing⟩
  choose! reply hreply using h
  refine ⟨c.artifacts.map fun a => (a, reply a), by simp [Function.comp_def], ?_⟩
  exact fetched_constant_iff.mpr (List.forall_mem_map.mpr hreply)

/-- The emptied directory takes the files of all artifacts whose names it
admits. -/
lemma writeEach_cleared (hc : c.Valid)
    (hd : (w.cleared c.generated d).resolve c.targetDir = .ok d)
    (hadmits : ∀ a ∈ c.artifacts, c.targetDir.Admits a.name)
    {fetched : List (Artifact × Response)} (hartifacts : fetched.map Prod.fst = c.artifacts) :
    ∃ v, Workspace.writeEach c.targetDir (fetched.map fileOf) (w.cleared c.generated d) =
      .ok v := by
  have hmem : ∀ x ∈ fetched, x.1 ∈ c.artifacts := by
    intro x hx
    rw [← hartifacts]
    exact List.mem_map_of_mem hx
  refine Workspace.writeEach_of_admits hd
    (List.forall_mem_map.mpr fun x hx => hc.proper (hmem x hx))
    (List.forall_mem_map.mpr fun x hx => hadmits _ (hmem x hx))
    (List.forall_mem_map.mpr fun x hx e he => ?_)
  rw [fileOf, Workspace.get?_cleared w d (hc.marks (hmem x hx))] at he
  cases he

/-! ### The exact condition -/

/-- **The exact condition** for a run to succeed, with a remote side that
answers by the URL. -/
theorem run_ok_iff (hw : w.tree.WellNamed) (hpaths : PathsFit c w) :
    (∃ report, (run (.constant answer) c w).result = .ok report) ↔
      c.validate = .ok () ∧
      (∃ d, w.resolve c.targetDir = .ok d ∧
        (w.cleared c.generated d).resolve c.targetDir = .ok d ∧
        ∀ n, c.generated.marks n = true → w.tree.get? (d ++ [n]) ≠ some .directory) ∧
      (∀ a ∈ c.artifacts, ∃ r, answer (c.artifactUrl a) = .ok r ∧
        ((200 ≤ r.status ∧ r.status ≤ 299) ∨ c.policy = .permissive)) ∧
      ∀ a ∈ c.artifacts, a.name.length ≤ 255 ∧ 0 ∉ a.name := by
  simp only [← Response.isSuccess_iff, ← StatusPolicy.refusal?_eq_none_iff]
  constructor
  · rintro ⟨report, hok⟩
    have hcourse := run_course hw.named (.constant answer) c
    generalize run (.constant answer) c w = o at hcourse hok
    cases hcourse with
    | refused _ => cases hok
    | unlisted _ _ _ => cases hok
    | stuck _ _ _ _ _ _ => cases hok
    | stopped _ _ _ _ _ _ => cases hok
    | @finished d fetched _ hartifacts hrefilled _ _ _ =>
        have hreached := (hrefilled.leads (hrefilled.ne_nil hartifacts)).1
        refine ⟨Config.validate_eq_ok_iff.mpr hrefilled.valid,
          ⟨d, hrefilled.resolved, hreached, fun n hn hdir => ?_⟩, ?_, ?_⟩
        · have hlisted : n ∈ w.tree.names d := FileTree.mem_names.mpr (by rw [hdir]; rfl)
          obtain ⟨_, e, he, hne⟩ := hrefilled.removable n (mem_markedNames.mpr ⟨hlisted, hn⟩)
          rw [hdir] at he
          cases he
          exact hne rfl
        · rw [hartifacts]
          refine List.forall_mem_map.mpr fun x hx => ⟨x.2, ?_⟩
          exact fetched_constant_iff.mp hrefilled.answered x hx
        · rw [hartifacts]
          refine List.forall_mem_map.mpr fun x hx => ?_
          have hbare := (hrefilled.valid.proper (hrefilled.mem_artifacts hx)).bare
          obtain ⟨hnul, hshort, _⟩ :=
            (Workspace.admits_iff hrefilled.resolved hbare).mp (hrefilled.admitted x hx)
          exact ⟨hshort, hnul⟩
  · rintro ⟨hvalid, ⟨d, hd, hcleared, hdirs⟩, hanswers, hnames⟩
    have hc := Config.validate_eq_ok_iff.mp hvalid
    have hadmits : ∀ a ∈ c.artifacts, c.targetDir.Admits a.name := fun a ha =>
      (Workspace.admits_iff hd (hc.proper ha).bare).mpr
        ⟨(hnames a ha).2, (hnames a ha).1, hpaths.written a ha⟩
    obtain ⟨trace, hclean⟩ := clean_of_removable hw.named
      (removable_of_wellNamed hw hpaths hd hdirs) hcleared
    obtain ⟨fetched, hartifacts, hfetched⟩ := exists_fetched hanswers
    obtain ⟨v, hwritten⟩ := writeEach_cleared hc hcleared hadmits hartifacts
    have hsync := (syncFrom_of_fetched hfetched hwritten).1
    rw [hartifacts] at hsync
    obtain ⟨trace', hrun⟩ := run_of_parts hc hclean hsync
    exact ⟨_, by rw [hrun]⟩

namespace Sample

/-- A name of 256 bytes, which follows the convention. -/
def overlong : Config :=
  { config with
    artifacts := [⟨"b", "generated_" ++ String.ofList (List.replicate 243 'b') ++ ".go"⟩] }

lemma pathsFit {as : List Artifact}
    (h : ∀ a ∈ as, (config.targetPath a).bytes.length < pathLimit) :
    PathsFit { config with artifacts := as } workspace := by
  have hout : workspace.resolve config.targetDir = .ok [Bytes.ofString "out"] := by decide
  have hentries : ∀ n ∈ workspace.tree.names [Bytes.ofString "out"],
      (config.targetDir.join ⟨n⟩).bytes.length < pathLimit := by decide
  refine ⟨fun d hd n hn _ => ?_, h⟩
  obtain rfl := Workspace.leadsOnlyTo_of_resolve hout d hd
  exact hentries n hn

lemma cleared_resolve :
    (workspace.cleared config.generated [Bytes.ofString "out"]).resolve config.targetDir =
      .ok [Bytes.ofString "out"] := by
  rw [Workspace.cleared, markedNames, List.mergeSort_of_pairwise (by decide)]
  decide

end Sample

theorem run_ok_iff_sample :
    (∃ report, (run (.constant fun _ => .ok (.ok "one")) Sample.config
      Sample.workspace).result = .ok report) ∧
    Sample.overlong.validate = .ok () ∧
    ¬ ∃ report, (run (.constant fun _ => .ok (.ok "one")) Sample.overlong
      Sample.workspace).result = .ok report := by
  refine ⟨?_, by decide +kernel, fun h => ?_⟩
  · refine (run_ok_iff Sample.built.wellNamed (Sample.pathsFit (by decide))).mpr
      ⟨by decide, ⟨_, by decide, Sample.cleared_resolve, fun n _ hdir => ?_⟩,
        fun a _ => ⟨.ok "one", rfl, Or.inl (by decide)⟩, by decide⟩
    have hnone : ∀ n ∈ Sample.workspace.tree.names [Bytes.ofString "out"],
        Sample.workspace.tree.get? [Bytes.ofString "out", n] ≠ some .directory := by decide
    exact hnone n (FileTree.mem_names.mpr (by rw [hdir]; rfl)) hdir
  · obtain ⟨_, _, _, hnames⟩ :=
      (run_ok_iff Sample.built.wellNamed (Sample.pathsFit (by decide +kernel))).mp h
    have hlong := (hnames _ List.mem_cons_self).1
    revert hlong
    decide +kernel

end Vendoring
