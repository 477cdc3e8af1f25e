/-
What remote documents hold does not steer a run. Of an answer, a run looks at
whether there is one, at its status and at where it points; the body is written
as it is and looked at no more.

* `Workspace.AlikeBut`: two workspaces with the same entries, but for what files
  hold at some locations; `AlikeBut.write` says that two contents written by one
  path fail alike or make a difference at the place that the path opens;
* `Workspace.Opens`: the places that some paths open.  They open the same places
  after every write (`locate_of_write`), so that it does not matter when one asks;
* `SameKind`: answers that differ at most in their bodies;
* `Agrees`: two outcomes with the same trace and, but for sizes, the same result,
  in workspaces alike but for the files written;
* `syncFrom_agrees`, `run_agrees`: one artifact after another, and whole runs;
* `exists_artifact_of_written`: nothing but files of artifacts is written;
* `run_unsteered` (**bodies do not steer**): all of this together.
-/
import Mathlib.Tactic
import Vendoring.Proofs.Aftermath

namespace Vendoring

/-! ### Workspaces alike but for some contents -/

namespace Workspace

variable {w w' v : Workspace} {differ : Location → Prop} {p : Path}

/-- The same entries, seen from the same directory, but for what files hold at
some locations. -/
structure AlikeBut (differ : Location → Prop) (w w' : Workspace) : Prop where
  current : w.current = w'.current
  tree : w.tree.AlikeBut differ w'.tree

lemma AlikeBut.refl (differ : Location → Prop) (w : Workspace) : w.AlikeBut differ w :=
  ⟨rfl, .refl differ w.tree⟩

lemma AlikeBut.locate (h : w.AlikeBut differ w') (access : FileTree.Access) (p : Path) :
    w.locate access p = w'.locate access p := by
  rw [Workspace.locate, Workspace.locate, start, start, h.current, FileTree.openAt_alike h.tree]

/-- A path opens neither the root nor a link. -/
lemma locate_place {access : FileTree.Access} {l : Location} (h : w.locate access p = .ok l) :
    l ≠ [] ∧ ∀ target, w.tree.get? l ≠ some (.link target) := by
  rw [locate] at h
  split at h
  · cases h
  · exact FileTree.openAt_place h

lemma write_of_locate {l : Location} (hl : w.locate .writing p = .ok l) (content : Bytes) :
    w.write p content =
      if w.tree.get? l = some .directory then .error .isDirectory
      else .ok (w.withTree (w.tree.insert l (.file content))) := by
  rw [write, hl]
  simp only
  split
  · next hdir => rw [if_pos hdir]
  · next hdir => rw [if_neg hdir]

/-- **Two contents by one path**: both writes fail for the same cause, or both
succeed and make a difference at the place that the path opens. -/
lemma AlikeBut.write (h : w.AlikeBut differ w') (p : Path) (content content' : Bytes) :
    (∃ cause, w.write p content = .error cause ∧ w'.write p content' = .error cause) ∨
    ∃ l v v', w.locate .writing p = .ok l ∧ w.write p content = .ok v ∧
      w'.write p content' = .ok v' ∧ v.AlikeBut (fun k => differ k ∨ k = l) v' := by
  cases hl : w.locate .writing p with
  | error cause =>
      have hl' : w'.locate .writing p = .error cause := by rw [← h.locate, hl]
      exact Or.inl ⟨cause, by rw [Workspace.write, hl], by rw [Workspace.write, hl']⟩
  | ok l =>
      have hl' : w'.locate .writing p = .ok l := by rw [← h.locate, hl]
      have hsame : w.tree.get? l = some .directory ↔ w'.tree.get? l = some .directory := by
        rcases h.tree l with heq | ⟨_, old, old', hold, hold'⟩
        · rw [heq]
        · simp [hold, hold']
      rw [write_of_locate hl, write_of_locate hl']
      by_cases hdir : w.tree.get? l = some .directory
      · exact Or.inl ⟨.isDirectory, by rw [if_pos hdir], by rw [if_pos (hsame.mp hdir)]⟩
      · exact Or.inr ⟨l, _, _, rfl, if_neg hdir, if_neg (mt hsame.mpr hdir), h.current,
          h.tree.insert (locate_place hl).1 content content'⟩

/-- **Paths open the same places** after a write: no way is opened or closed. -/
lemma locate_of_write {q : Path} {content : Bytes} {l : Location}
    {access access' : FileTree.Access} (hw : w.write p content = .ok v)
    (hl : w.locate access q = .ok l) : v.locate access' q = .ok l := by
  cases hp : w.locate .writing p with
  | error cause =>
      rw [write, hp] at hw
      cases hw
  | ok k =>
      obtain ⟨hroot, hlink⟩ := locate_place hp
      rw [write_of_locate hp] at hw
      split_ifs at hw with hdir
      cases hw
      have hfile : ∀ e, w.tree.get? k = some e → ∃ old, e = .file old := by
        intro e he
        cases e with
        | file old => exact ⟨old, rfl⟩
        | directory => exact absurd he hdir
        | link target => exact absurd he (hlink target)
      rw [locate] at hl ⊢
      split at hl
      · cases hl
      · exact FileTree.openAt_of_waysIn (FileTree.insert_waysIn w.tree hroot content)
          (FileTree.waysIn_insert hroot hfile content) hl

/-- The location is that of a file which one of the paths opens. -/
def Opens (w : Workspace) (ps : List Path) (l : Location) : Prop :=
  ∃ p ∈ ps, w.locate .writing p = .ok l

/-- What paths open, and what is opened by a path that is written to, is so
afterwards. -/
lemma opens_of_write {ps : List Path} {content : Bytes} {l k : Location}
    (hw : w.write p content = .ok v) (hl : w.locate .writing p = .ok l)
    (hk : w.Opens ps k ∨ k = l) : v.Opens (ps ++ [p]) k := by
  rcases hk with ⟨q, hq, hopen⟩ | rfl
  · exact ⟨q, List.mem_append_left _ hq, locate_of_write hw hopen⟩
  · exact ⟨p, by simp, locate_of_write hw hl⟩

end Workspace

/-! ### Answers and reports up to bodies and sizes -/

/-- The same failure, or responses that differ at most in their bodies. -/
inductive SameKind : Except FetchError Response → Except FetchError Response → Prop
  | failed (e : FetchError) : SameKind (.error e) (.error e)
  | answered (status : Nat) (redirect : Option String) (body body' : String) :
      SameKind (.ok ⟨status, redirect, body⟩) (.ok ⟨status, redirect, body'⟩)

/-- What is reported of an artifact, its size left out. -/
def Written.unsized (x : Written) : Written := { x with bytes := 0 }

/-- A report, the sizes left out. -/
def Report.unsized (r : Report) : Report := { r with written := r.written.map Written.unsized }

/-- The two outcomes have the same trace and, as far as `forget` leaves it, the
same result, in workspaces that are alike but for the files of the paths `before`
and of those written. -/
structure Agrees {α β : Type} (forget : α → β) (before : List Path) (o o' : Outcome α) :
    Prop where
  trace : o.trace = o'.trace
  result : o.result.map forget = o'.result.map forget
  workspace : o.workspace.AlikeBut (o.workspace.Opens (before ++ o.trace.written)) o'.workspace

section Agrees

variable {α β γ δ : Type} {before : List Path} {w w' : Workspace}

lemma Agrees.refl (forget : α → β) (before : List Path) (o : Outcome α) :
    Agrees forget before o o :=
  ⟨rfl, rfl, .refl _ _⟩

/-- Both stop for the same cause and have written nothing. -/
lemma agrees_of_stop (forget : α → β) (hw : w.AlikeBut (w.Opens before) w') (e : Failure)
    {trace : Trace} (hwritten : trace.written = []) :
    Agrees forget before ⟨.error e, w, trace⟩ ⟨.error e, w', trace⟩ := by
  refine ⟨rfl, rfl, ?_⟩
  rw [hwritten, List.append_nil]
  exact hw

/-- Where both have done the same before, they agree as what follows does. -/
lemma Agrees.behind {forget : α → β} {forget' : γ → δ} {front : Trace} {o o' : Outcome α}
    (h : Agrees forget (before ++ front.written) o o') {put put' : α → γ} (k : β → δ)
    (hput : ∀ a, forget' (put a) = k (forget a)) (hput' : ∀ a, forget' (put' a) = k (forget a)) :
    Agrees forget' before ⟨o.result.map put, o.workspace, front ++ o.trace⟩
      ⟨o'.result.map put', o'.workspace, front ++ o'.trace⟩ := by
  have hforget : ∀ {f : α → γ}, (∀ a, forget' (f a) = k (forget a)) →
      ∀ r : Except Failure α, (r.map f).map forget' = (r.map forget).map k := by
    intro f hf r
    cases r with
    | error e => rfl
    | ok a => exact congrArg Except.ok (hf a)
  refine ⟨by rw [h.trace], ?_, ?_⟩
  · rw [hforget hput, hforget hput', h.result]
  · rw [Trace.written_append, ← List.append_assoc]
    exact h.workspace

end Agrees

/-! ### Two runs -/

section Runs

variable {fetch fetch' : Fetcher} {c : Config}

/-- What is done for an artifact writes its file. -/
lemma Config.written_steps (c : Config) (x : Artifact × Response) :
    (c.steps x).written = [c.targetPath x.1] := by
  rw [← (c.steps x).views_effects.2.2, c.effects_steps]
  rfl

/-- **One artifact after another**: the loops agree. -/
theorem syncFrom_agrees (h : ∀ asked url, SameKind (fetch asked url) (fetch' asked url))
    (asked : List String) (as : List Artifact) {w w' : Workspace} (before : List Path)
    (hw : w.AlikeBut (w.Opens before) w') :
    Agrees (List.map Written.unsized) before (syncFrom fetch c asked as w)
      (syncFrom fetch' c asked as w') := by
  induction as generalizing asked w w' before with
  | nil => exact ⟨rfl, rfl, by simpa [syncFrom] using hw⟩
  | cons a rest ih =>
      have hkind := h asked (c.artifactUrl a)
      generalize hfetch : fetch asked (c.artifactUrl a) = given at hkind
      generalize hfetch' : fetch' asked (c.artifactUrl a) = given' at hkind
      cases hkind with
      | failed e =>
          simp only [syncFrom, hfetch, hfetch']
          exact agrees_of_stop _ hw _ rfl
      | answered status redirect body body' =>
          -- the policy does not look at the body
          have hsame : c.policy.refusal? ⟨status, redirect, body'⟩ =
              c.policy.refusal? ⟨status, redirect, body⟩ := rfl
          cases hpolicy : c.policy.refusal? ⟨status, redirect, body⟩ with
          | some why =>
              rw [hpolicy] at hsame
              simp only [syncFrom, hfetch, hfetch', hpolicy, hsame]
              exact agrees_of_stop _ hw _ rfl
          | none =>
              rw [hpolicy] at hsame
              obtain ⟨cause, hwrite, hwrite'⟩ | ⟨l, v, v', hl, hwrite, hwrite', hv⟩ :=
                hw.write (c.targetPath a) (Bytes.ofString body) (Bytes.ofString body')
              · simp only [syncFrom, hfetch, hfetch', hpolicy, hsame, hwrite, hwrite']
                refine agrees_of_stop _ hw _ ?_
                rw [← (Trace.views_effects _).2.2, Trace.effects_append, Trace.effects_append,
                  effects_warnings]
                rfl
              · rw [syncFrom_cons_written rest hfetch hpolicy hwrite,
                  syncFrom_cons_written rest hfetch' hsame hwrite']
                have hopens : v.AlikeBut
                    (v.Opens (before ++ (c.steps (a, ⟨status, redirect, body⟩)).written)) v' := by
                  rw [c.written_steps]
                  exact ⟨hv.current, hv.tree.mono fun k hk =>
                    Workspace.opens_of_write hwrite hl hk⟩
                exact (ih (asked ++ [c.artifactUrl a]) _ hopens).behind
                  (⟨c.artifactUrl a, c.targetPath a, status, 0⟩ :: ·) (fun _ => rfl) fun _ => rfl

/-- **Whole runs** agree: before anything is fetched they do the same. -/
lemma run_agrees (hkind : ∀ asked url, SameKind (fetch asked url) (fetch' asked url))
    (c : Config) (w : Workspace) : Agrees Report.unsized [] (run fetch c w) (run fetch' c w) := by
  cases run_stages c w with
  | refused h =>
      rw [run_of_refused h, run_of_refused h]
      exact .refl _ _ _
  | uncleaned h hclean _ _ =>
      rw [run_of_uncleaned h hclean, run_of_uncleaned h hclean]
      exact .refl _ _ _
  | @cleaned removed v _ h hclean _ _ =>
      rw [run_of_cleaned h hclean, run_of_cleaned h hclean]
      exact (syncFrom_agrees hkind [] c.artifacts _ (.refl _ v)).behind (Report.mk removed)
        (fun _ => rfl) fun _ => rfl

/-- What is written are the files of the first artifacts. -/
lemma syncFrom_written (fetch : Fetcher) (c : Config) (asked : List String) (as : List Artifact)
    (w : Workspace) :
    ∃ done, done <+: as ∧ (syncFrom fetch c asked as w).trace.written = done.map c.targetPath := by
  have hcourse := syncFrom_course fetch c asked as w
  generalize syncFrom fetch c asked as w = o at hcourse ⊢
  cases hcourse with
  | finished _ _ _ _ heffects =>
      refine ⟨as, List.prefix_rfl, ?_⟩
      rw [← (Trace.views_effects _).2.2, heffects, (c.views_script as).2.2]
  | stopped fetched has _ _ _ heffects =>
      refine ⟨fetched.map Prod.fst, has ▸ List.prefix_append _ _, ?_⟩
      rw [← (Trace.views_effects _).2.2, heffects, Trace.written_append, (c.views_script _).2.2]
      exact List.append_nil _

/-- A run writes nothing but files of artifacts. -/
lemma exists_artifact_of_written {w : Workspace} {p : Path}
    (hp : p ∈ (run fetch c w).trace.written) : ∃ a ∈ c.artifacts, c.targetPath a = p := by
  cases run_stages c w with
  | refused h =>
      rw [run_of_refused h] at hp
      cases hp
  | uncleaned h hclean _ hwritten =>
      rw [run_of_uncleaned h hclean, hwritten] at hp
      cases hp
  | @cleaned _ v _ h hclean _ hwritten =>
      obtain ⟨done, hdone, hfiles⟩ := syncFrom_written fetch c [] c.artifacts v
      rw [run_of_cleaned h hclean, Trace.written_append, hwritten, List.nil_append, sync, hfiles,
        List.mem_map] at hp
      obtain ⟨a, ha, rfl⟩ := hp
      exact ⟨a, hdone.subset ha, rfl⟩

/-- **Bodies do not steer** a run: with remote sides that give answers of the same
kind, the same is requested, deleted, written and logged in the same order; both
runs succeed and report the same but for sizes, or both fail for the same cause;
and the same entries stand at the same locations, with the same contents but for
the files of artifacts that were written. -/
theorem run_unsteered (h : ∀ asked url, SameKind (fetch asked url) (fetch' asked url))
    (c : Config) (w : Workspace) :
    let o := run fetch c w
    let o' := run fetch' c w
    o.trace = o'.trace ∧ o.result.map Report.unsized = o'.result.map Report.unsized ∧
      o.workspace.current = o'.workspace.current ∧
      ∀ l, o.workspace.tree.get? l = o'.workspace.tree.get? l ∨
        (∃ a ∈ c.artifacts, c.targetPath a ∈ o.trace.written ∧
          o.workspace.locate .writing (c.targetPath a) = .ok l) ∧
        ∃ content content', o.workspace.tree.get? l = some (.file content) ∧
          o'.workspace.tree.get? l = some (.file content') := by
  obtain ⟨htrace, hresult, hcurrent, htree⟩ := run_agrees h c w
  refine ⟨htrace, hresult, hcurrent, fun l => (htree l).imp_right ?_⟩
  rintro ⟨⟨p, hp, hl⟩, hfiles⟩
  obtain ⟨a, ha, rfl⟩ := exists_artifact_of_written hp
  exact ⟨⟨a, ha, hp, hl⟩, hfiles⟩

theorem run_unsteered_sample :
    let o := run (.constant fun _ => .ok (.ok "one")) Sample.config Sample.workspace
    let o' := run Sample.changing Sample.config Sample.workspace
    o.trace = o'.trace ∧ o.result.map Report.unsized = o'.result.map Report.unsized := by
  have hkind : ∀ asked url, SameKind ((Fetcher.constant fun _ => .ok (.ok "one")) asked url)
      (Sample.changing asked url) := fun _ _ => .answered 200 none _ _
  obtain ⟨htrace, hresult, _⟩ := run_unsteered hkind Sample.config Sample.workspace
  exact ⟨htrace, hresult⟩

end Runs

end Vendoring
