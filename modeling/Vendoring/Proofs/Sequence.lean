/-
Artifacts are handled one after another.

* `Passed`: the artifacts were answered, accepted and written in order, which
  leads from one workspace to another;
* `sync_sequence` (**one artifact after another**): whatever the remote side
  answers and the file tree refuses, requests and writes follow the script of
  the artifacts, up to its end or up to the first artifact that is not answered,
  not accepted or not written.  Nothing is said about names: the artifacts need
  not be valid.
-/
import Mathlib.Tactic
import Vendoring.Proofs.Sync

namespace Vendoring

/-- The artifacts are answered, accepted and written, each before the next one
is asked for, and this leads from `w` to `w'`. -/
def Passed (fetch : Fetcher) (c : Config) (as : List Artifact) (w w' : Workspace) : Prop :=
  ∃ fetched : List (Artifact × Response), fetched.map Prod.fst = as ∧
    Fetched fetch c [] fetched ∧
      Workspace.writeEach c.targetDir (fetched.map fileOf) w = .ok w'

/-- **One artifact after another**: the effects are a beginning of the script,
and all of it exactly when the result is good.  Then each record tells of the
answer to its own URL.  Otherwise there is a first artifact that stops the loop;
it is the last one asked for, and those before it are the ones written. -/
theorem sync_sequence (fetch : Fetcher) (c : Config) (w : Workspace) :
    (sync fetch c w).trace.effects <+: c.script c.artifacts ∧
    ((sync fetch c w).trace.effects = c.script c.artifacts ↔
      ∃ xs, (sync fetch c w).result = .ok xs) ∧
    (∀ xs, (sync fetch c w).result = .ok xs →
      Passed fetch c c.artifacts w (sync fetch c w).workspace ∧
      xs.length = c.artifacts.length ∧
      ∀ i a, c.artifacts[i]? = some a → ∃ r,
        fetch ((c.artifacts.take i).map c.artifactUrl) (c.artifactUrl a) = .ok r ∧
        xs[i]? = some
          ⟨c.artifactUrl a, c.targetPath a, r.status, (Bytes.ofString r.body).length⟩) ∧
    ∀ e, (sync fetch c w).result = .error e → ∃ i a, c.artifacts[i]? = some a ∧
      Passed fetch c (c.artifacts.take i) w (sync fetch c w).workspace ∧
      StopsAt fetch c ((c.artifacts.take i).map c.artifactUrl) a (sync fetch c w).workspace e ∧
      (sync fetch c w).trace.requests = (c.artifacts.take (i + 1)).map c.artifactUrl ∧
      (sync fetch c w).trace.written = (c.artifacts.take i).map c.targetPath := by
  rw [sync]
  have hcourse := syncFrom_course fetch c [] c.artifacts w
  generalize syncFrom fetch c [] c.artifacts w = o at hcourse ⊢
  cases hcourse with
  | finished fetched has hfetched hwritten heffects =>
      refine ⟨by rw [heffects], ⟨fun _ => ⟨_, rfl⟩, fun _ => heffects⟩, ?_, by simp⟩
      rintro xs hxs
      cases hxs
      refine ⟨⟨fetched, has.symm, hfetched, hwritten⟩, by simp [has], fun i a ha => ?_⟩
      rw [has, List.getElem?_map, Option.map_eq_some_iff] at ha
      obtain ⟨x, hx, rfl⟩ := ha
      refine ⟨x.2, ?_, by rw [List.getElem?_map, hx]; rfl⟩
      rw [has]
      exact hfetched.answer hx
  | @stopped fetched a rest e w' trace has hfetched hwritten hstop heffects =>
      have hcame := cameTo_of_effects has heffects
      obtain ⟨_, htake, _⟩ := artifacts_cut has
      have hscript : c.script c.artifacts = trace.effects ++
          .write (c.targetPath a) :: c.script rest := by
        rw [heffects, has, c.script_append_cons, List.append_assoc]
        rfl
      refine ⟨⟨_, hscript.symm⟩, ?_, by simp, ?_⟩
      · simp [hscript]
      · rintro e' he
        cases he
        refine ⟨_, a, hcame.artifact, ⟨fetched, htake.symm, hfetched, hwritten⟩, ?_,
          hcame.requests, hcame.written⟩
        rw [htake]
        exact hstop

namespace Sample

/-- The second of the two artifacts has a name that leads out of the target
directory. -/
def unchecked : Config :=
  { Config.standard with
    targetDir := .ofString "."
    artifacts := [⟨"b", "b.txt"⟩, ⟨"a", ".."⟩] }

/-- A remote side whose status tells how often it was asked before. -/
def counting : Fetcher := fun asked _ => .ok ⟨200 + asked.length, none, "body"⟩

/-- A tree that holds the file of the first artifact. -/
def firstWritten : FileTree :=
  FileTree.empty.insert [Bytes.ofString "b.txt"] (.file (Bytes.ofString "body"))

end Sample

theorem sync_sequence_unchecked :
    ∃ i a, Sample.unchecked.artifacts[i]? = some a ∧
      Passed Sample.counting Sample.unchecked (Sample.unchecked.artifacts.take i)
        ⟨.empty, []⟩ ⟨Sample.firstWritten, []⟩ ∧
      StopsAt Sample.counting Sample.unchecked
        ((Sample.unchecked.artifacts.take i).map Sample.unchecked.artifactUrl) a
        ⟨Sample.firstWritten, []⟩ (.writeFailed (.ofString "./..") .isDirectory) := by
  obtain ⟨_, _, _, herror⟩ := sync_sequence Sample.counting Sample.unchecked ⟨.empty, []⟩
  obtain ⟨i, a, ha, hpassed, hstop, _⟩ :=
    herror (.writeFailed (.ofString "./..") .isDirectory) (by decide)
  exact ⟨i, a, ha, hpassed, hstop⟩

end Vendoring
