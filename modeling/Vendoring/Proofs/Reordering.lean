/-
The order of the artifacts does not matter to what comes of a run.

* `Config.withArtifacts`, `Config.Valid.reordered`: a configuration with its
  artifacts in another order is accepted like the first one;
* `Refilled.reordered`: where a run gets through all artifacts, so does one that
  takes them in another order, and it leaves the same entries;
* `run_reordered` (**reordering**): both runs succeed or neither does, and where
  they do, they differ in the order of what they report at most.
-/
import Mathlib.Tactic
import Vendoring.Proofs.Success

namespace Vendoring

/-- The configuration with another list of artifacts. -/
def Config.withArtifacts (c : Config) (as : List Artifact) : Config := { c with artifacts := as }

variable {answer : String → Except FetchError Response} {c : Config} {w : Workspace}
  {d : Location} {as : List Artifact}

/-- Where no fault is found, none is found in any other order. -/
lemma Config.Valid.reordered (h : c.Valid) (hperm : as.Perm c.artifacts) :
    (c.withArtifacts as).Valid where
  ne_nil := by
    rintro rfl
    exact h.ne_nil (List.nil_perm.mp hperm)
  bare a ha := h.bare a (hperm.mem_iff.mp ha)
  accepts a ha := h.accepts a (hperm.mem_iff.mp ha)
  nodup := (hperm.map Artifact.localName).nodup_iff.mpr h.nodup

/-- **All artifacts in another order**: where a run gets through them, so does one
with the artifacts reordered.  It removes and writes the same, and leaves the same
entries. -/
lemma Refilled.reordered {fetched : List (Artifact × Response)} (hw : w.tree.Named)
    (h : Refilled (.constant answer) c w d fetched)
    (hartifacts : c.artifacts = fetched.map Prod.fst) (hperm : as.Perm c.artifacts) :
    ∃ fetched' : List (Artifact × Response), ∃ trace, fetched'.Perm fetched ∧
      run (.constant answer) (c.withArtifacts as) w =
        ⟨.ok ⟨(markedNames c.generated (w.tree.names d)).map fun n => c.targetDir.join ⟨n⟩,
          fetched'.map c.recordOf⟩, w.refilled c.generated d fetched', trace⟩ := by
  have hvalid := h.valid.reordered hperm
  have hcleared := (h.leads (h.ne_nil hartifacts)).1
  rw [hartifacts] at hperm
  -- the answers go along with their artifacts
  obtain ⟨fetched', has, hfetched'⟩ :=
    (congrFun₂ (List.eq_map_comp_perm Prod.fst) as fetched).mpr hperm
  have hanswered : Fetched (.constant answer) (c.withArtifacts as) [] fetched' := by
    refine fetched_constant_iff.mpr fun x hx => ?_
    exact fetched_constant_iff.mp h.answered x (hfetched'.mem_iff.mp hx)
  have hadmits : ∀ a ∈ as, c.targetDir.Admits a.name := by
    rw [has]
    exact List.forall_mem_map.mpr fun x hx => h.admitted x (hfetched'.mem_iff.mp hx)
  obtain ⟨trace, hclean⟩ := clean_of_removable hw h.removable hcleared
  obtain ⟨v, hwritten⟩ := writeEach_cleared hvalid hcleared hadmits has.symm
  obtain ⟨hresult, hworkspace⟩ := syncFrom_of_fetched hanswered hwritten
  obtain ⟨rfl, _⟩ := refilled_of_written hvalid h.resolved h.removable
    (has ▸ List.prefix_rfl) hanswered hwritten
  rw [← has] at hresult hworkspace
  obtain ⟨trace', hrun⟩ := run_of_parts hvalid hclean hresult
  have hsync : (sync (.constant answer) (c.withArtifacts as) (w.cleared c.generated d)).workspace =
      w.refilled c.generated d fetched' := hworkspace
  rw [hsync] at hrun
  exact ⟨fetched', trace', hfetched', hrun⟩

/-- **A run that succeeds** does so with the artifacts in any other order. -/
lemma run_ok_reordered {report : Report} (hw : w.tree.Named) (hperm : as.Perm c.artifacts)
    (h : (run (.constant answer) c w).result = .ok report) :
    ∃ report', (run (.constant answer) (c.withArtifacts as) w).result = .ok report' ∧
      (run (.constant answer) c w).workspace.Same
        (run (.constant answer) (c.withArtifacts as) w).workspace ∧
      report.removed = report'.removed ∧ report.written.Perm report'.written := by
  have hcourse := run_course hw (.constant answer) c
  generalize run (.constant answer) c w = o at hcourse h ⊢
  cases hcourse with
  | refused _ => cases h
  | unlisted _ _ _ => cases h
  | stuck _ _ _ _ _ _ => cases h
  | stopped _ _ _ _ _ _ => cases h
  | finished hartifacts hrefilled _ _ _ =>
      cases h
      obtain ⟨fetched', trace, hfetched', hrun⟩ := hrefilled.reordered hw hartifacts hperm
      rw [hrun]
      refine ⟨_, rfl, ⟨rfl, ?_⟩, rfl, (hfetched'.map c.recordOf).symm⟩
      refine FileTree.putFiles_same (hfetched'.map fileOf) ?_
      rw [Workspace.map_fst_fileOf]
      exact hrefilled.nodup

/-- **Reordering**: with a remote side that answers by the URL, a run succeeds
exactly when one with the artifacts in another order does.  The same entries then
stand at the same locations, the same paths were removed in the same order, and
the same artifacts are reported. -/
theorem run_reordered (hw : w.tree.Named) (hperm : as.Perm c.artifacts) :
    let o := run (.constant answer) c w
    let o' := run (.constant answer) (c.withArtifacts as) w
    ((∃ report, o.result = .ok report) ↔ ∃ report', o'.result = .ok report') ∧
      ∀ report report', o.result = .ok report → o'.result = .ok report' →
        o.workspace.Same o'.workspace ∧ report.removed = report'.removed ∧
          report.written.Perm report'.written := by
  refine ⟨⟨?_, ?_⟩, ?_⟩
  · rintro ⟨report, h⟩
    obtain ⟨report', h', _⟩ := run_ok_reordered hw hperm h
    exact ⟨report', h'⟩
  · rintro ⟨report', h'⟩
    obtain ⟨report, h, _⟩ := run_ok_reordered (c := c.withArtifacts as) hw hperm.symm h'
    exact ⟨report, h⟩
  · intro report report' h h'
    obtain ⟨_, h'', hsame, hremoved, hwritten⟩ := run_ok_reordered hw hperm h
    cases h'.symm.trans h''
    exact ⟨hsame, hremoved, hwritten⟩

theorem run_reordered_sample :
    ∃ report', (run (.constant fun url => .ok (.ok url))
        (Sample.config.withArtifacts Sample.config.artifacts.reverse) Sample.workspace).result =
      .ok report' := by
  have hresult : (run (.constant fun url => .ok (.ok url)) Sample.config Sample.workspace).result =
      .ok ⟨Sample.stale, Sample.config.artifacts.map fun a =>
        ⟨Sample.config.artifactUrl a, Sample.config.targetPath a, 200,
          (Bytes.ofString (Sample.config.artifactUrl a)).length⟩⟩ := by
    rw [Sample.run_result]
    decide
  exact (run_reordered Sample.built.named (List.reverse_perm _)).1.mp ⟨_, hresult⟩

end Vendoring
