/-
What a run leaves behind.

* `HoldsFirst`: the marked entries of the target directory are the files of the
  first artifacts, and its other entries are as before;
* `run_ok_holds_artifacts` (**success**): a run that succeeds leaves the files of
  all artifacts, and reports what it removed and wrote;
* `LeftBehind`, `run_error_leaves` (**failure**): the cause of a failure says how
  far the run came, entry by entry and artifact by artifact;
* `run_confined` (**confinement**): whatever comes of a run, nothing changes but
  marked entries of the directory that the target path led to at the start.
-/
import Mathlib.Tactic
import Vendoring.Proofs.Names

namespace Vendoring

variable {fetch : Fetcher} {c : Config} {w w' : Workspace} {trace : Trace} {d : Location}

/-! ### The files of the first artifacts -/

/-- The marked entries of `d` in `w'` are the files of the first `i` artifacts,
with the bodies that were fetched for them; the other entries are those of
`w`. -/
structure HoldsFirst (fetch : Fetcher) (c : Config) (w w' : Workspace) (d : Location)
    (i : Nat) : Prop where
  /-- No marked entry is missing, and there is none besides. -/
  entries : ((w'.tree.names d).filter c.generated.marks).Perm
    ((c.artifacts.take i).map Artifact.name)
  /-- Each is a regular file with the body fetched after the URLs before it. -/
  bodies : ∀ j a, j < i → c.artifacts[j]? = some a →
    ∃ r, fetch ((c.artifacts.take j).map c.artifactUrl) (c.artifactUrl a) = .ok r ∧
      w'.tree.get? (d ++ [a.name]) = some (.file (Bytes.ofString r.body))
  /-- The other entries are as they were. -/
  others : ∀ n, c.generated.marks n = false → w'.tree.get? (d ++ [n]) = w.tree.get? (d ++ [n])

/-- A directory that was filled anew holds the files of the first artifacts. -/
lemma Refilled.holdsFirst {fetched : List (Artifact × Response)}
    (h : Refilled fetch c w d fetched) :
    HoldsFirst fetch c w (w.refilled c.generated d fetched) d fetched.length := by
  refine ⟨?_, fun j a hj ha => ?_, fun n hn => ?_⟩
  · rw [h.take_length]
    exact Workspace.filter_names_refilled_perm h.marks h.nodup
  · have hx : fetched[j]? = some fetched[j] := List.getElem?_eq_getElem hj
    obtain ⟨hxa, hanswer⟩ := h.answer hx
    rw [hxa] at ha
    cases ha
    exact ⟨_, hanswer, Workspace.get?_refilled_of_mem h.nodup (List.mem_of_getElem? hx)⟩
  · exact (Workspace.refilled_differOnlyAt h.marks).unmarked hn

/-! ### A sample -/

namespace Sample

/-- The target path goes through a link.  The directory holds a marked link, a
marked file, a file whose name is no text, and another one. -/
def workspace : Workspace where
  tree :=
    { entries :=
        [([Bytes.ofString "way"], .link (.ofString "out")),
          ([Bytes.ofString "safe"], .file [1, 2]),
          ([Bytes.ofString "out", Bytes.ofString "generated_a.go"], .link (.ofString "../safe")),
          ([Bytes.ofString "out", Bytes.ofString "generated_z.go"], .file [7]),
          ([Bytes.ofString "out", Bytes.ofString "generated_" ++ 0xFF :: Bytes.ofString ".go"],
            .file [8]),
          ([Bytes.ofString "out", Bytes.ofString "notes.md"], .file [9]),
          ([Bytes.ofString "out"], .directory)]
      nodup := by decide }
  current := []

/-- The entries were made one after another, the last one of the list first. -/
lemma built : workspace.Built := by
  have hnotes := (Workspace.Built.empty []).putFile (.ofString "out/notes.md") [9] (by decide) rfl
  have hbroken := hnotes.putFile
    ⟨Bytes.ofString "out/generated_" ++ 0xFF :: Bytes.ofString ".go"⟩ [8] (by decide) rfl
  have hfile := hbroken.putFile (.ofString "out/generated_z.go") [7] (by decide) rfl
  have hlink := hfile.makeLink (.ofString "out/generated_a.go") (.ofString "../safe") (by decide)
    (by decide) rfl
  have hsafe := hlink.putFile (.ofString "safe") [1, 2] (by decide) rfl
  exact hsafe.makeLink (.ofString "way") (.ofString "out") (by decide) (by decide) rfl

/-- Two artifacts, the second of which goes where the link stands. -/
def config : Config :=
  { Config.standard with
    targetDir := .ofString "way"
    artifacts := [⟨"b", "generated_b.go"⟩, ⟨"a", "generated_a.go"⟩] }

/-- A remote side that answers the first request and the later ones
differently. -/
def changing : Fetcher := fun asked _ => .ok (.ok (if asked = [] then "one" else "two"))

/-- A remote side that is gone after the first request. -/
def failing : Fetcher := fun asked _ => if asked = [] then .ok (.ok "one") else .error ⟨"gone"⟩

/-- The marked entries, in order. -/
def stale : List Path := [.ofString "way/generated_a.go", .ofString "way/generated_z.go"]

lemma clean_eq :
    clean workspace config.targetDir config.generated =
      ⟨.ok stale, (removeEach workspace stale).workspace, (removeEach workspace stale).trace⟩ := by
  have hlist : workspace.list config.targetDir =
      .ok (workspace.tree.names [Bytes.ofString "out"]) := by decide
  -- the names are listed in order, so that nothing is left to sort
  have hmarked : markedPaths config.targetDir config.generated
      (workspace.tree.names [Bytes.ofString "out"]) = stale := by
    rw [markedPaths, List.mergeSort_of_pairwise (by decide)]
    decide
  have hends : (removeEach workspace stale).result = .ok () := by decide
  rw [clean, hlist]
  simp only [cleanListed, hmarked, hends]
  rfl

lemma run_result (fetch : Fetcher) :
    (run fetch config workspace).result =
      (sync fetch config (removeEach workspace stale).workspace).result.map (⟨stale, ·⟩) := by
  rw [run_of_cleaned (by decide) clean_eq]

end Sample

/-! ### Success -/

/-- **A run that succeeds** leaves the target path where it led, and in that
directory exactly the files of the artifacts beside the entries that are not
marked.  It reports the marked entries that were there before, and for each
artifact the size of the file that is there now. -/
theorem run_ok_holds_artifacts {report : Report} (hw : w.tree.Named)
    (h : run fetch c w = ⟨.ok report, w', trace⟩) :
    ∃ d, w.resolve c.targetDir = .ok d ∧ w'.resolve c.targetDir = .ok d ∧
      trace.requests = c.artifacts.map c.artifactUrl ∧
      HoldsFirst fetch c w w' d c.artifacts.length ∧
      report.removed.Perm
        (((w.tree.names d).filter c.generated.marks).map fun n => c.targetDir.join ⟨n⟩) ∧
      report.written.length = c.artifacts.length ∧
      ∀ i a, c.artifacts[i]? = some a → ∃ r content,
        fetch ((c.artifacts.take i).map c.artifactUrl) (c.artifactUrl a) = .ok r ∧
        content = Bytes.ofString r.body ∧
        w'.tree.get? (d ++ [a.name]) = some (.file content) ∧
        report.written[i]? =
          some ⟨c.artifactUrl a, c.targetPath a, r.status, content.length⟩ := by
  have hcourse := run_course hw fetch c
  rw [h] at hcourse
  cases hcourse with
  | @finished d fetched _ hartifacts hrefilled _ hrequests _ =>
      have hlength : c.artifacts.length = fetched.length := by rw [hartifacts, List.length_map]
      have hholds := hrefilled.holdsFirst
      rw [← hlength] at hholds
      have hd' := (hrefilled.leads (hrefilled.ne_nil hartifacts)).2
      refine ⟨d, hrefilled.resolved, hd', hrequests, hholds, (markedNames_perm _ _).map _,
        by rw [List.length_map, hlength], fun i a ha => ?_⟩
      obtain ⟨x, hx, rfl⟩ : ∃ x, fetched[i]? = some x ∧ x.1 = a := by
        rw [hartifacts, List.getElem?_map, Option.map_eq_some_iff] at ha
        exact ha
      refine ⟨x.2, _, (hrefilled.answer hx).2, rfl,
        Workspace.get?_refilled_of_mem hrefilled.nodup (List.mem_of_getElem? hx), ?_⟩
      rw [List.getElem?_map, hx]
      rfl

theorem run_ok_holds_artifacts_sample :
    ∃ d, Sample.workspace.resolve Sample.config.targetDir = .ok d ∧
      HoldsFirst Sample.changing Sample.config Sample.workspace
        (run Sample.changing Sample.config Sample.workspace).workspace d 2 := by
  have hresult : (run Sample.changing Sample.config Sample.workspace).result =
      .ok ⟨Sample.stale, Sample.config.artifacts.map fun a =>
        ⟨Sample.config.artifactUrl a, Sample.config.targetPath a, 200, 3⟩⟩ := by
    rw [Sample.run_result]
    decide
  obtain ⟨d, hd, _, _, hholds, _⟩ := run_ok_holds_artifacts Sample.built.named
    (show run Sample.changing Sample.config Sample.workspace = ⟨_, _, _⟩ by rw [← hresult])
  exact ⟨d, hd, hholds⟩

/-! ### Failure -/

/-- The run stopped at the artifact of index `i`: all marked entries of the
directory were deleted, the artifacts before `i` are there, and the one at `i`
was the last to be asked for. -/
def StoppedAt (fetch : Fetcher) (c : Config) (w w' : Workspace) (trace : Trace) (i : Nat) : Prop :=
  ∃ d, w.resolve c.targetDir = .ok d ∧
    trace.deleted.Perm
      (((w.tree.names d).filter c.generated.marks).map fun n => c.targetDir.join ⟨n⟩) ∧
    HoldsFirst fetch c w w' d i ∧
    trace.requests = (c.artifacts.take (i + 1)).map c.artifactUrl

/-- What a failed run leaves behind, by the cause of the failure. -/
def LeftBehind (fetch : Fetcher) (c : Config) (w w' : Workspace) (trace : Trace) :
    Failure → Prop
  | .config _ => w' = w ∧ trace.requests = []
  | .directoryUnavailable _ _ => w' = w ∧ trace.requests = []
  | .deleteFailed p _ => trace.requests = [] ∧ ∃ d n, w.resolve c.targetDir = .ok d ∧
      p = c.targetDir.join ⟨n⟩ ∧ n ∈ w.tree.names d ∧ c.generated.marks n = true ∧
      (∀ m, c.generated.marks m = true → m < n → w'.tree.get? (d ++ [m]) = none) ∧
      (∀ m, c.generated.marks m = true → n ≤ m →
        w'.tree.get? (d ++ [m]) = w.tree.get? (d ++ [m])) ∧
      ∀ m, c.generated.marks m = false → w'.tree.get? (d ++ [m]) = w.tree.get? (d ++ [m])
  | .transport url _ => ∃ i a, c.artifacts[i]? = some a ∧ url = c.artifactUrl a ∧
      StoppedAt fetch c w w' trace i
  | .writeFailed p _ => ∃ i a, c.artifacts[i]? = some a ∧ p = c.targetPath a ∧
      StoppedAt fetch c w w' trace i

/-- **A run that fails** leaves behind what its cause says. -/
theorem run_error_leaves {e : Failure} (hw : w.tree.Named)
    (h : run fetch c w = ⟨.error e, w', trace⟩) : LeftBehind fetch c w w' trace e := by
  have hcourse := run_course hw fetch c
  rw [h] at hcourse
  cases hcourse with
  | refused _ => exact ⟨rfl, rfl⟩
  | unlisted _ hrequests _ => exact ⟨rfl, hrequests⟩
  | @stuck d before after n _ _ hd hnames _ _ hrequests _ =>
      have hn : n ∈ markedNames c.generated (w.tree.names d) := by
        rw [hnames]
        exact List.mem_append_right _ List.mem_cons_self
      obtain ⟨hlisted, hmarked⟩ := mem_markedNames.mp hn
      refine ⟨hrequests, d, n, hd, rfl, hlisted, hmarked, fun m hm hmn => ?_, fun m hm hnm => ?_,
        fun m hm => ?_⟩
      · rw [Workspace.tree_withTree, FileTree.get?_eraseNames_before hnames hm, if_pos hmn]
      · rw [Workspace.tree_withTree, FileTree.get?_eraseNames_before hnames hm, if_neg hnm]
      · have hdiffer : FileTree.DifferOnlyAt d c.generated w.tree (w.tree.eraseNames d before) :=
          FileTree.eraseNames_differOnlyAt (marks_of_mem_before hnames)
        exact hdiffer.unmarked hm
  | @stopped d fetched a rest _ _ hartifacts hrefilled hstop hdeleted hrequests _ =>
      have hat : c.artifacts[fetched.length]? = some a := by
        rw [hartifacts, List.getElem?_append_right (by simp)]
        simp
      have hstopped : StoppedAt fetch c w (w.refilled c.generated d fetched) trace
          fetched.length := by
        refine ⟨d, hrefilled.resolved, ?_, hrefilled.holdsFirst, ?_⟩
        · rw [hdeleted]
          exact (markedNames_perm _ _).map _
        · have htake : c.artifacts.take (fetched.length + 1) = fetched.map Prod.fst ++ [a] := by
            rw [List.take_add_one, hat, hrefilled.take_length]
            rfl
          rw [hrequests, htake]
      cases hstop with
      | unanswered _ => exact ⟨_, a, hat, rfl, hstopped⟩
      | refused _ _ => exact ⟨_, a, hat, rfl, hstopped⟩
      | unwritten _ _ _ => exact ⟨_, a, hat, rfl, hstopped⟩

theorem run_error_leaves_sample :
    LeftBehind Sample.failing Sample.config Sample.workspace
      (run Sample.failing Sample.config Sample.workspace).workspace
      (run Sample.failing Sample.config Sample.workspace).trace
      (.transport (Sample.config.artifactUrl ⟨"a", "generated_a.go"⟩) "gone") := by
  have hresult : (run Sample.failing Sample.config Sample.workspace).result =
      .error (.transport (Sample.config.artifactUrl ⟨"a", "generated_a.go"⟩) "gone") := by
    rw [Sample.run_result]
    decide
  exact run_error_leaves Sample.built.named (by rw [← hresult])

/-! ### Confinement -/

/-- Each file of a directory filled anew is an entry of its own name. -/
lemma Refilled.file_of_mem {fetched : List (Artifact × Response)}
    (h : Refilled fetch c w d fetched) {p : Path}
    (hp : p ∈ (fetched.map Prod.fst).map c.targetPath) :
    ∃ d' a content, w.resolve c.targetDir = .ok d' ∧ a ∈ c.artifacts ∧ p = c.targetPath a ∧
      Name.Proper a.name ∧ c.generated.marks a.name = true ∧
      (w.refilled c.generated d fetched).tree.get? (d' ++ [a.name]) = some (.file content) := by
  rw [List.map_map, List.mem_map] at hp
  obtain ⟨x, hx, rfl⟩ := hp
  exact ⟨d, x.1, _, h.resolved, h.mem_artifacts hx, rfl, h.valid.proper (h.mem_artifacts hx),
    h.marks x hx, Workspace.get?_refilled_of_mem h.nodup hx⟩

/-- Where trees differ only at marked entries of the target directory, every
change is at one of them. -/
lemma exists_marked_of_ne {t : FileTree} (hd : w.resolve c.targetDir = .ok d)
    (hdiffer : FileTree.DifferOnlyAt d c.generated w.tree t) {l : Location}
    (hne : t.get? l ≠ w.tree.get? l) :
    ∃ d n, w.resolve c.targetDir = .ok d ∧ c.generated.marks n = true ∧ l = d ++ [n] := by
  obtain ⟨n, hn, hl⟩ := hdiffer.exists_of_ne hne
  exact ⟨d, n, hd, hn, hl⟩

/-- **Confinement**: whatever comes of a run, it changes nothing but marked
entries of the directory that the target path led to at the start.  Each file
written is one of these entries, a regular file and no link, and its name is
one name, not a way to somewhere else. -/
theorem run_confined {result : Except Failure Report} (hw : w.tree.Named)
    (h : run fetch c w = ⟨result, w', trace⟩) :
    w'.current = w.current ∧
      (∀ l, w'.tree.get? l ≠ w.tree.get? l → ∃ d n, w.resolve c.targetDir = .ok d ∧
        c.generated.marks n = true ∧ l = d ++ [n]) ∧
      ∀ p ∈ trace.written, ∃ d a content, w.resolve c.targetDir = .ok d ∧ a ∈ c.artifacts ∧
        p = c.targetPath a ∧ Name.Proper a.name ∧ c.generated.marks a.name = true ∧
        w'.tree.get? (d ++ [a.name]) = some (.file content) := by
  have hcourse := run_course hw fetch c
  rw [h] at hcourse
  cases hcourse with
  | refused _ => exact ⟨rfl, fun l hne => absurd rfl hne, by simp⟩
  | unlisted _ _ hwritten => exact ⟨rfl, fun l hne => absurd rfl hne, by simp [hwritten]⟩
  | stuck hd hnames _ _ _ hwritten =>
      exact ⟨rfl, fun l => exists_marked_of_ne hd
        (FileTree.eraseNames_differOnlyAt (marks_of_mem_before hnames)), by simp [hwritten]⟩
  | stopped _ hrefilled _ _ _ hwritten =>
      refine ⟨rfl, fun l => exists_marked_of_ne hrefilled.resolved
        (Workspace.refilled_differOnlyAt hrefilled.marks), fun p hp => ?_⟩
      rw [hwritten] at hp
      exact hrefilled.file_of_mem hp
  | finished hartifacts hrefilled _ _ hwritten =>
      refine ⟨rfl, fun l => exists_marked_of_ne hrefilled.resolved
        (Workspace.refilled_differOnlyAt hrefilled.marks), fun p hp => ?_⟩
      rw [hwritten, hartifacts] at hp
      exact hrefilled.file_of_mem hp

theorem run_confined_sample :
    (run Sample.changing Sample.config Sample.workspace).workspace.tree.get?
        [Bytes.ofString "safe"] = some (.file [1, 2]) := by
  obtain ⟨_, hchanged, _⟩ := run_confined Sample.built.named
    (show run Sample.changing Sample.config Sample.workspace = ⟨_, _, _⟩ from rfl)
  by_contra hne
  obtain ⟨d, n, hd, _, hl⟩ := hchanged [Bytes.ofString "safe"] hne
  have hout : Sample.workspace.resolve Sample.config.targetDir = .ok [Bytes.ofString "out"] := by
    decide
  rw [hout] at hd
  cases hd
  simp at hl

end Vendoring
