/-
The plan and the run agree.

* `RunEnd`, `run_end`: what a run ends with, in every workspace, and the
  artifact it came to if one of them stopped it;
* `CameTo.planLine`: the line of that artifact;
* `plan_agrees_with_run` (**the plan holds**): it is refused when the run is, it
  lists what a run that succeeds writes, and what stops a run at an artifact
  stands on the line of this artifact.
-/
import Mathlib.Tactic
import Vendoring.Program
import Vendoring.Proofs.Aftermath

namespace Vendoring

variable {c : Config} {trace : Trace}

/-! ### What a run ends with -/

/-- What a run can end with. -/
inductive RunEnd (c : Config) (trace : Trace) : Except Failure Report → Prop
  /-- The configuration is refused. -/
  | refused {fault : ConfigError} (h : c.validate = .error fault) :
      RunEnd c trace (.error (.config fault))
  /-- The target directory is not listed. -/
  | unlisted (h : c.validate = .ok ()) {cause : FileError} :
      RunEnd c trace (.error (.directoryUnavailable c.targetDir cause))
  /-- An entry is not removed. -/
  | stuck (h : c.validate = .ok ()) {p : Path} {cause : FileError} :
      RunEnd c trace (.error (.deleteFailed p cause))
  /-- An artifact is not fetched. -/
  | unfetched (h : c.validate = .ok ()) {i : Nat} {a : Artifact} {why : String}
      (hat : CameTo c trace i a) : RunEnd c trace (.error (.transport (c.artifactUrl a) why))
  /-- An artifact is not written. -/
  | unwritten (h : c.validate = .ok ()) {i : Nat} {a : Artifact} {cause : FileError}
      (hat : CameTo c trace i a) : RunEnd c trace (.error (.writeFailed (c.targetPath a) cause))
  /-- All artifacts are written. -/
  | finished (h : c.validate = .ok ()) {removed : List Path}
      {fetched : List (Artifact × Response)} (hartifacts : c.artifacts = fetched.map Prod.fst) :
      RunEnd c trace (.ok ⟨removed, fetched.map c.recordOf⟩)

/-- **Every run ends** with one of these. -/
theorem run_end (fetch : Fetcher) (c : Config) (w : Workspace) :
    RunEnd c (run fetch c w).trace (run fetch c w).result := by
  cases run_stages c w with
  | refused h =>
      rw [run_of_refused h]
      exact .refused h
  | uncleaned h hclean _ _ =>
      rw [run_of_uncleaned h hclean]
      obtain ⟨cause, rfl⟩ | ⟨p, cause, rfl⟩ := clean_error (congrArg Outcome.result hclean)
      · exact .unlisted h
      · exact .stuck h
  | @cleaned _ v front h hclean hrequests hwritten =>
      rw [run_of_cleaned h hclean, sync]
      have hcourse := syncFrom_course fetch c [] c.artifacts v
      generalize syncFrom fetch c [] c.artifacts v = o at hcourse ⊢
      cases hcourse with
      | finished _ has _ _ _ => exact .finished h has
      | stopped _ has _ _ hstop heffects =>
          have hat : CameTo c (c.begun :: front ++ _) _ _ :=
            (cameTo_of_effects has heffects).behind hrequests hwritten
          cases hstop with
          | unanswered _ => exact .unfetched h hat
          | refused _ _ => exact .unfetched h hat
          | unwritten _ _ _ => exact .unwritten h hat

/-! ### The lines of a plan -/

/-- A plan of an accepted configuration. -/
lemma performPlan_of_valid (h : c.validate = .ok ()) (w : Workspace) :
    performPlan c w = ⟨.ok (), ("Revision: " ++ c.revision) :: c.planLines, w, []⟩ := by
  rw [performPlan, h]

/-- The line of the artifact that a run came to. -/
lemma CameTo.planLine {i : Nat} {a : Artifact} (hat : CameTo c trace i a)
    (h : c.validate = .ok ()) (w : Workspace) :
    (performPlan c w).output[i + 1]? =
      some (c.artifactUrl a ++ " -> " ++ (c.targetPath a).display) := by
  rw [performPlan_of_valid h, List.getElem?_cons_succ, Config.planLines, List.getElem?_map,
    hat.artifact]
  rfl

/-- **The plan holds**: it is refused exactly when the run is, for the same
reason.  What a run that succeeds reports as written stands behind the revision,
line by line, and a run that fails at an artifact names the URL or the path on
the line of this artifact. -/
theorem plan_agrees_with_run (fetch : Fetcher) (c : Config) (w : Workspace) :
    (∀ e, (performPlan c w).result = .error e ↔
      (run fetch c w).result = .error e ∧ ∃ fault, e = .config fault) ∧
    (∀ report, (run fetch c w).result = .ok report →
      (performPlan c w).output = ("Revision: " ++ c.revision) ::
        report.written.map fun x => x.url ++ " -> " ++ x.path.display) ∧
    (∀ url why, (run fetch c w).result = .error (.transport url why) →
      ∃ i a, CameTo c (run fetch c w).trace i a ∧ url = c.artifactUrl a ∧
        (performPlan c w).output[i + 1]? =
          some (url ++ " -> " ++ (c.targetPath a).display)) ∧
    ∀ path cause, (run fetch c w).result = .error (.writeFailed path cause) →
      ∃ i a, CameTo c (run fetch c w).trace i a ∧ path = c.targetPath a ∧
        (performPlan c w).output[i + 1]? =
          some (c.artifactUrl a ++ " -> " ++ path.display) := by
  have hend := run_end fetch c w
  generalize (run fetch c w).result = result at hend ⊢
  generalize (run fetch c w).trace = trace at hend ⊢
  cases hend with
  | @refused fault h =>
      refine ⟨fun e => ?_, by simp, by simp, by simp⟩
      rw [performPlan, h]
      constructor
      · intro he
        cases he
        exact ⟨rfl, fault, rfl⟩
      · rintro ⟨he, _⟩
        cases he
        rfl
  | unlisted h => simp [performPlan, h]
  | stuck h => simp [performPlan, h]
  | unfetched h hat =>
      refine ⟨by simp [performPlan, h], by simp, fun url why he => ?_, by simp⟩
      cases he
      exact ⟨_, _, hat, rfl, hat.planLine h w⟩
  | unwritten h hat =>
      refine ⟨by simp [performPlan, h], by simp, by simp, fun path cause he => ?_⟩
      cases he
      exact ⟨_, _, hat, rfl, hat.planLine h w⟩
  | finished h hartifacts =>
      refine ⟨by simp [performPlan, h], fun report he => ?_, by simp, by simp⟩
      cases he
      rw [performPlan_of_valid h, Config.planLines, hartifacts, List.map_map, List.map_map]
      rfl

theorem plan_agrees_with_run_sample :
    ∃ i a, CameTo Sample.config (run Sample.failing Sample.config Sample.workspace).trace i a ∧
      (performPlan Sample.config Sample.workspace).output[i + 1]? =
        some (Sample.config.artifactUrl ⟨"a", "generated_a.go"⟩ ++ " -> " ++
          (Sample.config.targetPath a).display) := by
  obtain ⟨_, _, hunfetched, _⟩ :=
    plan_agrees_with_run Sample.failing Sample.config Sample.workspace
  obtain ⟨i, a, hat, _, hline⟩ := hunfetched
    (Sample.config.artifactUrl ⟨"a", "generated_a.go"⟩) "gone" (by rw [Sample.run_result]; decide)
  exact ⟨i, a, hat, hline⟩

end Vendoring
