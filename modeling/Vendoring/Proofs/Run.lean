/-
What a whole run does, in every case.

* `Workspace.refilled`: the marked entries of a directory replaced by the files
  of some artifacts, with what is found there (`get?_refilled_of_mem`,
  `filter_names_refilled_perm`) and what stays (`refilled_differOnlyAt`);
* `Refilled`: what a run has gone through when it left such a workspace;
* `RunStages`, `run_stages` (**the stages of a run**): the configuration is
  refused, cleaning fails, or the artifacts are fetched and written in what
  cleaning leaves.  This holds whatever names there are in the tree;
* `run_of_refused`, `run_of_uncleaned`, `run_of_cleaned`: the run in each case;
* `RunCourse`, `run_course` (**the courses of a run**): the configuration is
  refused, the directory not listed, an entry not removed, an artifact not
  fetched or not written, or all is done.
-/
import Mathlib.Tactic
import Vendoring.Proofs.Clean
import Vendoring.Proofs.Sync

namespace Vendoring

/-! ### A directory filled anew -/

namespace Workspace

/-- The workspace with the files of the artifacts in place of the marked
entries of `d`. -/
def refilled (w : Workspace) (rule : Rule) (d : Location)
    (fetched : List (Artifact × Response)) : Workspace :=
  w.withTree ((w.cleared rule d).tree.putFiles d (fetched.map fileOf))

variable {w : Workspace} {rule : Rule} {d : Location} {fetched : List (Artifact × Response)}
  {n : Name}

lemma map_fst_fileOf (fetched : List (Artifact × Response)) :
    (fetched.map fileOf).map Prod.fst = (fetched.map Prod.fst).map Artifact.name := by
  rw [List.map_map, List.map_map]
  rfl

/-- Only marked entries of the directory are replaced. -/
lemma refilled_differOnlyAt (hmarks : ∀ x ∈ fetched, rule.marks x.1.name = true) :
    FileTree.DifferOnlyAt d rule w.tree (w.refilled rule d fetched).tree := by
  refine (cleared_differOnlyAt w rule d).trans (FileTree.putFiles_differOnlyAt fun n hn => ?_)
  rw [List.map_map, List.mem_map] at hn
  obtain ⟨x, hx, rfl⟩ := hn
  exact hmarks x hx

/-- The file of each artifact is found. -/
lemma get?_refilled_of_mem (hnodup : ((fetched.map Prod.fst).map Artifact.name).Nodup)
    {x : Artifact × Response} (hx : x ∈ fetched) :
    (w.refilled rule d fetched).tree.get? (d ++ [x.1.name]) =
      some (.file (Bytes.ofString x.2.body)) := by
  rw [← map_fst_fileOf] at hnodup
  exact FileTree.get?_putFiles_of_mem hnodup (List.mem_map_of_mem hx)

/-- A marked entry that is no artifact's is not there. -/
lemma get?_refilled_of_notMem (hn : rule.marks n = true)
    (hmem : n ∉ (fetched.map Prod.fst).map Artifact.name) :
    (w.refilled rule d fetched).tree.get? (d ++ [n]) = none := by
  rw [← map_fst_fileOf] at hmem
  rw [refilled, tree_withTree, FileTree.get?_putFiles_of_notMem hmem, get?_cleared w d hn]

/-- **The marked entries afterwards** are the files of the artifacts, one each. -/
lemma filter_names_refilled_perm (hmarks : ∀ x ∈ fetched, rule.marks x.1.name = true)
    (hnodup : ((fetched.map Prod.fst).map Artifact.name).Nodup) :
    (((w.refilled rule d fetched).tree.names d).filter rule.marks).Perm
      ((fetched.map Prod.fst).map Artifact.name) := by
  refine (List.perm_ext_iff_of_nodup ((FileTree.nodup_names _ d).filter _) hnodup).mpr fun n => ?_
  rw [List.mem_filter, FileTree.mem_names]
  constructor
  · rintro ⟨hsome, hn⟩
    by_contra hmem
    rw [get?_refilled_of_notMem hn hmem] at hsome
    cases hsome
  · intro hmem
    rw [List.map_map, List.mem_map] at hmem
    obtain ⟨x, hx, rfl⟩ := hmem
    refine ⟨?_, hmarks x hx⟩
    rw [Function.comp_apply, get?_refilled_of_mem hnodup hx]
    rfl

end Workspace

/-! ### The courses of a run -/

/-- What a run has gone through when the directory is filled with the files of
its first artifacts. -/
structure Refilled (fetch : Fetcher) (c : Config) (w : Workspace) (d : Location)
    (fetched : List (Artifact × Response)) : Prop where
  /-- The configuration was accepted. -/
  valid : c.Valid
  /-- The artifacts are the first ones of the list. -/
  first : fetched.map Prod.fst <+: c.artifacts
  /-- The target directory was `d`. -/
  resolved : w.resolve c.targetDir = .ok d
  /-- The marked entries were no directories, and their paths were usable. -/
  removable : ∀ n ∈ markedNames c.generated (w.tree.names d), w.Removable c.targetDir d n
  /-- The artifacts were fetched one after another. -/
  answered : Fetched fetch c [] fetched
  /-- They could be written. -/
  written : Workspace.writeEach c.targetDir (fetched.map fileOf) (w.cleared c.generated d) =
    .ok (w.refilled c.generated d fetched)
  /-- Their paths were usable. -/
  admitted : ∀ x ∈ fetched, c.targetDir.Admits x.1.name
  /-- The path led to `d` before the first write and after the last one. -/
  leads : fetched ≠ [] → (w.cleared c.generated d).resolve c.targetDir = .ok d ∧
    (w.refilled c.generated d fetched).resolve c.targetDir = .ok d

namespace Refilled

variable {fetch : Fetcher} {c : Config} {w : Workspace} {d : Location}
  {fetched : List (Artifact × Response)}

lemma mem_artifacts (h : Refilled fetch c w d fetched) {x : Artifact × Response}
    (hx : x ∈ fetched) : x.1 ∈ c.artifacts :=
  h.first.subset (List.mem_map_of_mem hx)

lemma marks (h : Refilled fetch c w d fetched) :
    ∀ x ∈ fetched, c.generated.marks x.1.name = true :=
  fun _ hx => h.valid.marks (h.mem_artifacts hx)

lemma nodup (h : Refilled fetch c w d fetched) :
    ((fetched.map Prod.fst).map Artifact.name).Nodup :=
  (h.first.map Artifact.name).sublist.nodup h.valid.nodup_names

lemma take_length (h : Refilled fetch c w d fetched) :
    c.artifacts.take fetched.length = fetched.map Prod.fst := by
  have htake := List.prefix_iff_eq_take.mp h.first
  rw [List.length_map] at htake
  exact htake.symm

/-- A run that got through all artifacts wrote some. -/
lemma ne_nil (h : Refilled fetch c w d fetched) (hartifacts : c.artifacts = fetched.map Prod.fst) :
    fetched ≠ [] := by
  rintro rfl
  exact h.valid.ne_nil hartifacts

/-- Each answer is the one to its own URL, after the URLs before. -/
lemma answer (h : Refilled fetch c w d fetched) {j : Nat} {x : Artifact × Response}
    (hx : fetched[j]? = some x) :
    c.artifacts[j]? = some x.1 ∧
      fetch ((c.artifacts.take j).map c.artifactUrl) (c.artifactUrl x.1) = .ok x.2 :=
  h.answered.answer_of_prefix h.first hx

end Refilled

/-- What a run can come to. -/
inductive RunCourse (fetch : Fetcher) (c : Config) (w : Workspace) : Outcome Report → Prop
  /-- The configuration is refused. -/
  | refused {fault : ConfigError} (h : c.validate = .error fault) :
      RunCourse fetch c w ⟨.error (.config fault), w, []⟩
  /-- The target directory is not listed. -/
  | unlisted {cause : FileError} {trace : Trace} (h : w.resolve c.targetDir = .error cause)
      (hrequests : trace.requests = []) (hwritten : trace.written = []) :
      RunCourse fetch c w ⟨.error (.directoryUnavailable c.targetDir cause), w, trace⟩
  /-- The entry `n` is not removed; those before it are. -/
  | stuck {d : Location} {before after : List Name} {n : Name} {cause : FileError}
      {trace : Trace} (hd : w.resolve c.targetDir = .ok d)
      (hnames : markedNames c.generated (w.tree.names d) = before ++ n :: after)
      (hremovable : ∀ m ∈ before, w.Removable c.targetDir d m)
      (hdeleted : trace.deleted = before.map fun m => c.targetDir.join ⟨m⟩)
      (hrequests : trace.requests = []) (hwritten : trace.written = []) :
      RunCourse fetch c w ⟨.error (.deleteFailed (c.targetDir.join ⟨n⟩) cause),
        w.withTree (w.tree.eraseNames d before), trace⟩
  /-- The artifact `a` is not fetched or not written; those before it are. -/
  | stopped {d : Location} {fetched : List (Artifact × Response)} {a : Artifact}
      {rest : List Artifact} {e : Failure} {trace : Trace}
      (hartifacts : c.artifacts = fetched.map Prod.fst ++ a :: rest)
      (h : Refilled fetch c w d fetched)
      (hstop : StopsAt fetch c ((fetched.map Prod.fst).map c.artifactUrl) a
        (w.refilled c.generated d fetched) e)
      (hdeleted : trace.deleted =
        (markedNames c.generated (w.tree.names d)).map fun n => c.targetDir.join ⟨n⟩)
      (hrequests : trace.requests = (fetched.map Prod.fst ++ [a]).map c.artifactUrl)
      (hwritten : trace.written = (fetched.map Prod.fst).map c.targetPath) :
      RunCourse fetch c w ⟨.error e, w.refilled c.generated d fetched, trace⟩
  /-- All artifacts are fetched and written. -/
  | finished {d : Location} {fetched : List (Artifact × Response)} {trace : Trace}
      (hartifacts : c.artifacts = fetched.map Prod.fst)
      (h : Refilled fetch c w d fetched)
      (hdeleted : trace.deleted =
        (markedNames c.generated (w.tree.names d)).map fun n => c.targetDir.join ⟨n⟩)
      (hrequests : trace.requests = c.artifacts.map c.artifactUrl)
      (hwritten : trace.written = c.artifacts.map c.targetPath) :
      RunCourse fetch c w
        ⟨.ok ⟨(markedNames c.generated (w.tree.names d)).map fun n => c.targetDir.join ⟨n⟩,
          fetched.map c.recordOf⟩, w.refilled c.generated d fetched, trace⟩

variable {fetch : Fetcher} {c : Config} {w : Workspace} {d : Location}

/-- After cleaning, artifacts that are all written fill the directory. -/
lemma refilled_of_written (hc : c.Valid) (hd : w.resolve c.targetDir = .ok d)
    (hremovable : ∀ n ∈ markedNames c.generated (w.tree.names d), w.Removable c.targetDir d n)
    {fetched : List (Artifact × Response)} (hfirst : fetched.map Prod.fst <+: c.artifacts)
    (hfetched : Fetched fetch c [] fetched) {v : Workspace}
    (hwritten : Workspace.writeEach c.targetDir (fetched.map fileOf) (w.cleared c.generated d) =
      .ok v) :
    v = w.refilled c.generated d fetched ∧ Refilled fetch c w d fetched := by
  have hmem : ∀ x ∈ fetched, x.1 ∈ c.artifacts :=
    fun x hx => hfirst.subset (List.mem_map_of_mem hx)
  have hlead : (w.cleared c.generated d).LeadsOnlyTo c.targetDir d :=
    (Workspace.leadsOnlyTo_of_resolve hd).of_waysIn (FileTree.eraseNames_waysIn _ _ _) rfl
  obtain ⟨rfl, hadmits, hleads⟩ := Workspace.writeEach_ok
    (Workspace.bytes_ne_nil_of_resolve hd) hlead
    (List.forall_mem_map.mpr fun x hx => hc.proper (hmem x hx))
    (List.forall_mem_map.mpr fun x hx target => by
      rw [fileOf, Workspace.get?_cleared w d (hc.marks (hmem x hx))]
      simp) hwritten
  refine ⟨rfl, hc, hfirst, hd, hremovable, hfetched, hwritten,
    fun x hx => hadmits _ (List.mem_map_of_mem hx), fun hne => hleads ?_⟩
  simpa using hne

/-! ### The stages of a run -/

/-- The first step of a run that is accepted. -/
def Config.begun (c : Config) : Action :=
  .log (.vendoring c.revision c.targetDir c.artifacts.length)

/-- A run that is refused does nothing. -/
lemma run_of_refused {fault : ConfigError} (h : c.validate = .error fault) :
    run fetch c w = ⟨.error (.config fault), w, []⟩ := by
  rw [run, h]

/-- A run that is accepted ends where cleaning fails. -/
lemma run_of_uncleaned {e : Failure} {v : Workspace} {trace : Trace} (hc : c.validate = .ok ())
    (hclean : clean w c.targetDir c.generated = ⟨.error e, v, trace⟩) :
    run fetch c w = ⟨.error e, v, c.begun :: trace⟩ := by
  simp only [run, hc, Outcome.andThen, hclean]
  rfl

/-- Behind cleaning, a run that is accepted does what fetching and writing do. -/
lemma run_of_cleaned {removed : List Path} {v : Workspace} {trace : Trace}
    (hc : c.validate = .ok ())
    (hclean : clean w c.targetDir c.generated = ⟨.ok removed, v, trace⟩) :
    run fetch c w = ⟨(sync fetch c v).result.map (⟨removed, ·⟩), (sync fetch c v).workspace,
      c.begun :: trace ++ (sync fetch c v).trace⟩ := by
  simp only [run, hc, Outcome.andThen, hclean]
  cases hsync : (sync fetch c v).result with
  | error e => rfl
  | ok xs =>
      simp only [List.append_nil]
      rfl

/-- How far a run comes before it asks for anything. -/
inductive RunStages (c : Config) (w : Workspace) : Prop
  /-- The configuration is refused. -/
  | refused {fault : ConfigError} (h : c.validate = .error fault)
  /-- It is accepted, and cleaning fails. -/
  | uncleaned {e : Failure} {v : Workspace} {trace : Trace} (h : c.validate = .ok ())
      (hclean : clean w c.targetDir c.generated = ⟨.error e, v, trace⟩)
      (hrequests : Trace.requests (c.begun :: trace) = [])
      (hwritten : Trace.written (c.begun :: trace) = [])
  /-- It is accepted, and the directory cleaned. -/
  | cleaned {removed : List Path} {v : Workspace} {trace : Trace} (h : c.validate = .ok ())
      (hclean : clean w c.targetDir c.generated = ⟨.ok removed, v, trace⟩)
      (hrequests : Trace.requests (c.begun :: trace) = [])
      (hwritten : Trace.written (c.begun :: trace) = [])

/-- **The stages of a run**: every run comes as far as one of them, and nothing is
requested or written until then. -/
lemma run_stages (c : Config) (w : Workspace) : RunStages c w := by
  cases hvalid : c.validate with
  | error fault => exact .refused hvalid
  | ok u =>
      obtain ⟨hrequests, hwritten⟩ := clean_trace w c.targetDir c.generated
      rcases hclean : clean w c.targetDir c.generated with ⟨e | removed, v, trace⟩
      · rw [hclean] at hrequests hwritten
        exact .uncleaned hvalid hclean hrequests hwritten
      · rw [hclean] at hrequests hwritten
        exact .cleaned hvalid hclean hrequests hwritten

/-- **The courses of a run**: every run takes one of them. -/
theorem run_course (hw : w.tree.Named) (fetch : Fetcher) (c : Config) :
    RunCourse fetch c w (run fetch c w) := by
  cases hv : c.validate with
  | error fault =>
      rw [run_of_refused hv]
      exact .refused hv
  | ok u =>
      have hc : c.Valid := Config.validate_eq_ok_iff.mp hv
      have hcourse := clean_course hw c.targetDir c.generated
      generalize hclean : clean w c.targetDir c.generated = o at hcourse
      cases hcourse with
      | unlisted h =>
          rw [run_of_uncleaned hv hclean]
          exact .unlisted h rfl rfl
      | stuck hd hnames hremovable hdeleted hrequests hwritten =>
          rw [run_of_uncleaned hv hclean]
          exact .stuck hd hnames hremovable hdeleted hrequests hwritten
      | @cleared d trace hd hremovable hdeleted hrequests hwritten =>
          rw [run_of_cleaned hv hclean, sync]
          have hcourse := syncFrom_course fetch c [] c.artifacts (w.cleared c.generated d)
          generalize syncFrom fetch c [] c.artifacts (w.cleared c.generated d) = o at hcourse ⊢
          cases hcourse with
          | @finished fetched _ trace' has hfetched hwritten' heffects =>
              obtain ⟨rfl, hrefilled⟩ := refilled_of_written hc hd hremovable
                (by rw [← has]) hfetched hwritten'
              obtain ⟨hreq, hdel, hwr⟩ := trace'.views_effects
              obtain ⟨hreq', hdel', hwr'⟩ := c.views_script c.artifacts
              refine .finished has hrefilled ?_ ?_ ?_
              · simp [Config.begun, hdeleted, ← hdel, heffects, hdel']
              · simp [Config.begun, hrequests, ← hreq, heffects, hreq']
              · simp [Config.begun, hwritten, ← hwr, heffects, hwr']
          | @stopped fetched a rest _ _ trace' has hfetched hwritten' hstop heffects =>
              obtain ⟨rfl, hrefilled⟩ := refilled_of_written hc hd hremovable
                ⟨a :: rest, has.symm⟩ hfetched hwritten'
              obtain ⟨hreq, hdel, hwr⟩ := trace'.views_effects
              obtain ⟨hreq', hdel', hwr'⟩ := c.views_script (fetched.map Prod.fst)
              refine .stopped has hrefilled hstop ?_ ?_ ?_
              · simp [Config.begun, hdeleted, ← hdel, heffects, hdel']
                rfl
              · simp [Config.begun, hrequests, ← hreq, heffects, hreq']
                rfl
              · simp [Config.begun, hwritten, ← hwr, heffects, hwr']
                rfl

/-- A run ends well if cleaning and then fetching and writing do. -/
lemma run_of_parts {removed : List Path} {v : Workspace} {trace : Trace} {xs : List Written}
    (hc : c.Valid) (hclean : clean w c.targetDir c.generated = ⟨.ok removed, v, trace⟩)
    (hsync : (sync fetch c v).result = .ok xs) :
    ∃ trace', run fetch c w = ⟨.ok ⟨removed, xs⟩, (sync fetch c v).workspace, trace'⟩ := by
  rw [run_of_cleaned (Config.validate_eq_ok_iff.mpr hc) hclean, hsync]
  exact ⟨_, rfl⟩

end Vendoring
