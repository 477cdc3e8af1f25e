/-
What fetching and writing the artifacts does, in every case.

* `Workspace.writeEach`: files written into a directory one after another;
  `writeEach_ok` says what stands there afterwards, `writeEach_of_admits` when
  nothing stops it, `writeEach_same` that the order in which entries are kept
  does not matter;
* `Fetched`: artifacts that were asked for in order and got an answer that the
  policy accepts;
* `Config.script`: each artifact requested and written before the next one;
* `CameTo`: the last artifact asked for, with those before it written;
* `StopsAt`, `syncFrom_cons`: what the loop over artifacts does with one of
  them; `Config.steps`, `syncFrom_cons_written` if it goes on;
* `SyncCourse`, `syncFrom_course` (**the courses of fetching and writing**): all
  artifacts are fetched and written, or one of them stops the loop, the ones
  before are fetched and written, and it is the last one asked for;
* `syncFrom_of_fetched`: when the first of these courses is taken.
-/
import Mathlib.Tactic
import Vendoring.Sync
import Vendoring.Proofs.Clean
import Vendoring.Proofs.Validation

namespace Vendoring

/-! ### Writing one file after another -/

namespace Workspace

variable {w w' : Workspace} {dir : Path} {d : Location} {files : List (Name × Bytes)}

/-- Writes the files below a path, up to the first failure. -/
def writeEach (dir : Path) : List (Name × Bytes) → Workspace → Except FileError Workspace
  | [], w => .ok w
  | f :: files, w =>
    match w.write (dir.join ⟨f.1⟩) f.2 with
    | .error e => .error e
    | .ok w' => writeEach dir files w'

/-- All files are written if the first one is and the others are behind it. -/
lemma writeEach_cons_eq_ok_iff {f : Name × Bytes} {v : Workspace} :
    writeEach dir (f :: files) w = .ok v ↔
      ∃ u, w.write (dir.join ⟨f.1⟩) f.2 = .ok u ∧ writeEach dir files u = .ok v := by
  rw [writeEach]
  cases w.write (dir.join ⟨f.1⟩) f.2 with
  | error e => simp
  | ok u => simp

/-- A path leads where it led when a file is put where at most a file stood:
neither a directory nor a link is lost. -/
lemma resolve_insert {n : Name} (hd : w.resolve dir = .ok d)
    (hfile : ∀ e, w.tree.get? (d ++ [n]) = some e → ∃ old, e = .file old) (content : Bytes) :
    (w.withTree (w.tree.insert (d ++ [n]) (.file content))).resolve dir = .ok d :=
  resolve_of_waysIn (FileTree.waysIn_insert (by simp) hfile content) rfl hd

/-- **Files written into a directory** that holds no links of their names: they
are put there and nothing else changes, and the path leads there as before. -/
lemma writeEach_ok (hdir : dir.bytes ≠ []) (hd : w.LeadsOnlyTo dir d)
    (hproper : ∀ f ∈ files, Name.Proper f.1)
    (hlink : ∀ f ∈ files, ∀ target, w.tree.get? (d ++ [f.1]) ≠ some (.link target))
    (h : writeEach dir files w = .ok w') :
    w' = w.withTree (w.tree.putFiles d files) ∧ (∀ f ∈ files, dir.Admits f.1) ∧
      (files ≠ [] → w.resolve dir = .ok d ∧ w'.resolve dir = .ok d) := by
  induction files generalizing w with
  | nil =>
      cases h
      exact ⟨rfl, by simp, fun hne => absurd rfl hne⟩
  | cons f files ih =>
      rw [List.forall_mem_cons] at hproper hlink
      obtain ⟨w₁, hf, h⟩ := writeEach_cons_eq_ok_iff.mp h
      have hlink₁ : ∀ d' target, w.resolve dir = .ok d' →
          w.tree.get? (d' ++ [f.1]) ≠ some (.link target) := by
        intro d' target hd'
        rw [hd d' hd']
        exact hlink.1 target
      obtain ⟨hadmits, d', hd', hnotdir, rfl⟩ :=
        (write_join_eq_ok_iff hdir hproper.1 hlink₁).mp hf
      obtain rfl := hd d' hd'
      have hd₁ : (w.withTree (w.tree.insert (d' ++ [f.1]) (.file f.2))).resolve dir =
          .ok d' := by
        refine resolve_insert hd' (fun e he => ?_) f.2
        cases e with
        | file old => exact ⟨old, rfl⟩
        | directory => exact absurd he hnotdir
        | link target => exact absurd he (hlink.1 target)
      obtain ⟨rfl, hadmits', hres⟩ := ih (leadsOnlyTo_of_resolve hd₁) hproper.2
        (fun g hg target => by
          rw [tree_withTree, FileTree.get?_insert (by simp)]
          split_ifs
          · simp
          · exact hlink.2 g hg target) h
      refine ⟨rfl, List.forall_mem_cons.mpr ⟨hadmits, hadmits'⟩, fun _ => ⟨hd', ?_⟩⟩
      cases files with
      | nil => exact hd₁
      | cons g files => exact (hres (by simp)).2

/-- **Nothing stops the writing** of files with admitted names into a directory
where at most files have these names. -/
lemma writeEach_of_admits (hd : w.resolve dir = .ok d) (hproper : ∀ f ∈ files, Name.Proper f.1)
    (hadmits : ∀ f ∈ files, dir.Admits f.1)
    (hfile : ∀ f ∈ files, ∀ e, w.tree.get? (d ++ [f.1]) = some e → ∃ old, e = .file old) :
    ∃ w', writeEach dir files w = .ok w' := by
  induction files generalizing w with
  | nil => exact ⟨w, rfl⟩
  | cons f files ih =>
      rw [List.forall_mem_cons] at hproper hadmits hfile
      have hnotdir : w.tree.get? (d ++ [f.1]) ≠ some .directory := by
        intro he
        obtain ⟨old, hold⟩ := hfile.1 _ he
        cases hold
      have hlink : ∀ d' target, w.resolve dir = .ok d' →
          w.tree.get? (d' ++ [f.1]) ≠ some (.link target) := by
        intro d' target hd' he
        rw [leadsOnlyTo_of_resolve hd d' hd'] at he
        obtain ⟨old, hold⟩ := hfile.1 _ he
        cases hold
      have hf : w.write (dir.join ⟨f.1⟩) f.2 = .ok _ :=
        (write_join_eq_ok_iff (bytes_ne_nil_of_resolve hd) hproper.1 hlink).mpr
          ⟨hadmits.1, d, hd, hnotdir, rfl⟩
      rw [writeEach, hf]
      refine ih (resolve_insert hd hfile.1 f.2) hproper.2 hadmits.2 fun g hg e he => ?_
      -- what stands at `g` is the file just written or what stood there before
      rw [tree_withTree, FileTree.get?_insert (by simp)] at he
      split_ifs at he
      · cases he
        exact ⟨f.2, rfl⟩
      · exact hfile.2 g hg e he

/-- What can be written can be written to the same entries. -/
lemma writeEach_same {v : Workspace} (hs : w.Same w') (h : writeEach dir files w = .ok v) :
    ∃ v', writeEach dir files w' = .ok v' ∧ v.Same v' := by
  induction files generalizing w w' with
  | nil =>
      cases h
      exact ⟨w', rfl, hs⟩
  | cons f files ih =>
      obtain ⟨w₁, hf, h⟩ := writeEach_cons_eq_ok_iff.mp h
      obtain ⟨w₁', hf', hs₁⟩ := write_same hs hf
      obtain ⟨v', h', hv⟩ := ih hs₁ h
      exact ⟨v', writeEach_cons_eq_ok_iff.mpr ⟨w₁', hf', h'⟩, hv⟩

end Workspace

/-! ### Fetching -/

lemma Response.isSuccess_iff {r : Response} :
    r.isSuccess = true ↔ 200 ≤ r.status ∧ r.status ≤ 299 := by
  simp [Response.isSuccess]

/-- A response is accepted if it is a success or the policy asks for none. -/
lemma StatusPolicy.refusal?_eq_none_iff {policy : StatusPolicy} {r : Response} :
    policy.refusal? r = none ↔ r.isSuccess = true ∨ policy = .permissive := by
  rw [refusal?]
  by_cases h : r.isSuccess = true ∨ policy = .permissive
  · have hpass : (r.isSuccess || policy == .permissive) = true := by simpa using h
    simp [hpass, h]
  · have hfail : (r.isSuccess || policy == .permissive) = false := by simpa using h
    simp only [hfail, h, iff_false]
    cases r.redirect <;> simp

/-- The file that an artifact and its answer make. -/
def fileOf (x : Artifact × Response) : Name × Bytes := (x.1.name, Bytes.ofString x.2.body)

/-- What is reported of an artifact and its answer. -/
def Config.recordOf (c : Config) (x : Artifact × Response) : Written :=
  ⟨c.artifactUrl x.1, c.targetPath x.1, x.2.status, (Bytes.ofString x.2.body).length⟩

/-- Writing the files of artifacts begins with the first one's target path. -/
lemma writeEach_fileOf_cons {c : Config} {x : Artifact × Response}
    {xs : List (Artifact × Response)} {w v : Workspace} :
    Workspace.writeEach c.targetDir ((x :: xs).map fileOf) w = .ok v ↔
      ∃ u, w.write (c.targetPath x.1) (Bytes.ofString x.2.body) = .ok u ∧
        Workspace.writeEach c.targetDir (xs.map fileOf) u = .ok v :=
  Workspace.writeEach_cons_eq_ok_iff

/-- The effects of fetching and writing artifacts one after another: each is
asked for below the base and the revision, and written under its local name in
the target directory. -/
def Config.script (c : Config) (as : List Artifact) : Trace :=
  as.flatMap fun a =>
    [.request (c.remoteBase ++ c.revision ++ "/" ++ a.remotePath),
      .write (c.targetDir.join (.ofString a.localName))]

/-- The script asks for all artifacts, writes all of them and deletes nothing. -/
lemma Config.views_script (c : Config) (as : List Artifact) :
    (c.script as).requests = as.map c.artifactUrl ∧ (c.script as).deleted = [] ∧
      (c.script as).written = as.map c.targetPath := by
  induction as with
  | nil => exact ⟨rfl, rfl, rfl⟩
  | cons a as ih =>
      obtain ⟨hrequests, hdeleted, hwritten⟩ := ih
      exact ⟨congrArg (c.artifactUrl a :: ·) hrequests, hdeleted,
        congrArg (c.targetPath a :: ·) hwritten⟩

lemma Config.script_append_cons (c : Config) (done : List Artifact) (a : Artifact)
    (rest : List Artifact) :
    c.script (done ++ a :: rest) =
      c.script done ++ .request (c.artifactUrl a) :: .write (c.targetPath a) :: c.script rest :=
  List.flatMap_append

/-- Where a list of artifacts is cut at one of them, this one stands behind the
others. -/
lemma artifacts_cut {as done rest : List Artifact} {a : Artifact} (h : as = done ++ a :: rest) :
    as[done.length]? = some a ∧ as.take done.length = done ∧
      as.take (done.length + 1) = done ++ [a] := by
  subst h
  refine ⟨?_, List.take_left, ?_⟩
  · rw [List.getElem?_append_right le_rfl, Nat.sub_self]
    rfl
  · rw [List.take_length_add_append]
    rfl

/-- A loop over the artifacts came to `a` at the index `i`: it was asked for last,
and those before it are the ones written. -/
structure CameTo (c : Config) (trace : Trace) (i : Nat) (a : Artifact) : Prop where
  artifact : c.artifacts[i]? = some a
  requests : trace.requests = (c.artifacts.take (i + 1)).map c.artifactUrl
  written : trace.written = (c.artifacts.take i).map c.targetPath

/-- What stops right after the request for an artifact came to it. -/
lemma cameTo_of_effects {c : Config} {trace : Trace} {done rest : List Artifact} {a : Artifact}
    (hartifacts : c.artifacts = done ++ a :: rest)
    (heffects : trace.effects = c.script done ++ [.request (c.artifactUrl a)]) :
    CameTo c trace done.length a := by
  obtain ⟨hat, htake, htake'⟩ := artifacts_cut hartifacts
  obtain ⟨hrequests, _, hwritten⟩ := trace.views_effects
  obtain ⟨hrequests', _, hwritten'⟩ := c.views_script done
  refine ⟨hat, ?_, ?_⟩
  · rw [htake', ← hrequests, heffects, Trace.requests_append, hrequests', List.map_append]
    rfl
  · rw [htake, ← hwritten, heffects, Trace.written_append, hwritten']
    exact List.append_nil _

/-- What is done before does not matter if it requests and writes nothing. -/
lemma CameTo.behind {c : Config} {trace front : Trace} {i : Nat} {a : Artifact}
    (h : CameTo c trace i a) (hrequests : front.requests = []) (hwritten : front.written = []) :
    CameTo c (front ++ trace) i a :=
  ⟨h.artifact, by rw [Trace.requests_append, hrequests, List.nil_append, h.requests],
    by rw [Trace.written_append, hwritten, List.nil_append, h.written]⟩

/-- The artifacts got these answers, asked for in order after the URLs `asked`,
and the policy accepts them. -/
inductive Fetched (fetch : Fetcher) (c : Config) :
    List String → List (Artifact × Response) → Prop
  | nil {asked : List String} : Fetched fetch c asked []
  | cons {asked : List String} {a : Artifact} {r : Response} {rest : List (Artifact × Response)}
      (hfetch : fetch asked (c.artifactUrl a) = .ok r) (hpolicy : c.policy.refusal? r = none)
      (hrest : Fetched fetch c (asked ++ [c.artifactUrl a]) rest) :
      Fetched fetch c asked ((a, r) :: rest)

section SyncFrom

variable {fetch : Fetcher} {c : Config} {asked : List String} {w w' : Workspace}

/-- Each answer is the one to its own URL, after the URLs before. -/
lemma Fetched.answer {xs : List (Artifact × Response)} (h : Fetched fetch c asked xs) {i : Nat}
    {x : Artifact × Response} (hx : xs[i]? = some x) :
    fetch (asked ++ ((xs.map Prod.fst).take i).map c.artifactUrl) (c.artifactUrl x.1) =
      .ok x.2 := by
  induction h generalizing i with
  | nil => cases hx
  | @cons asked a r rest hfetch _ _ ih =>
      cases i with
      | zero =>
          cases hx
          simpa using hfetch
      | succ i =>
          have hi := ih (i := i) hx
          rw [List.append_assoc] at hi
          exact hi

/-- The answer to each of the first artifacts of the list. -/
lemma Fetched.answer_of_prefix {xs : List (Artifact × Response)} (h : Fetched fetch c [] xs)
    (has : xs.map Prod.fst <+: c.artifacts) {i : Nat} {x : Artifact × Response}
    (hx : xs[i]? = some x) :
    c.artifacts[i]? = some x.1 ∧
      fetch ((c.artifacts.take i).map c.artifactUrl) (c.artifactUrl x.1) = .ok x.2 := by
  obtain ⟨rest, hrest⟩ := has
  have hi : i < (xs.map Prod.fst).length := by
    rw [List.length_map]
    exact (List.getElem?_eq_some_iff.mp hx).1
  rw [← hrest, List.getElem?_append_left hi, List.getElem?_map, hx,
    List.take_append_of_le_length hi.le]
  exact ⟨rfl, h.answer hx⟩

/-- What stops the loop at an artifact: no answer, an answer that the policy
refuses, or a file that cannot be written. -/
inductive StopsAt (fetch : Fetcher) (c : Config) (asked : List String) (a : Artifact)
    (w : Workspace) : Failure → Prop
  | unanswered {e : FetchError} (hfetch : fetch asked (c.artifactUrl a) = .error e) :
      StopsAt fetch c asked a w (.transport (c.artifactUrl a) e.why)
  | refused {r : Response} {why : String} (hfetch : fetch asked (c.artifactUrl a) = .ok r)
      (hpolicy : c.policy.refusal? r = some why) :
      StopsAt fetch c asked a w (.transport (c.artifactUrl a) why)
  | unwritten {r : Response} {cause : FileError}
      (hfetch : fetch asked (c.artifactUrl a) = .ok r) (hpolicy : c.policy.refusal? r = none)
      (hwrite : w.write (c.targetPath a) (Bytes.ofString r.body) = .error cause) :
      StopsAt fetch c asked a w (.writeFailed (c.targetPath a) cause)

/-- What is done for an artifact and its answer when the file is written. -/
def Config.steps (c : Config) (x : Artifact × Response) : Trace :=
  [.log (.downloading (c.artifactUrl x.1)), .request (c.artifactUrl x.1)] ++
    warnings (c.artifactUrl x.1) x.2 ++
    [.log (.writing (c.targetPath x.1)), .write (c.targetPath x.1)]

/-- A response that is not a success is announced by a log line and nothing
else. -/
lemma effects_warnings (url : String) (r : Response) : (warnings url r).effects = [] := by
  rw [warnings]
  split <;> rfl

lemma Config.effects_steps (c : Config) (x : Artifact × Response) :
    (c.steps x).effects = [.request (c.artifactUrl x.1), .write (c.targetPath x.1)] := by
  rw [steps, Trace.effects_append, Trace.effects_append, effects_warnings]
  rfl

/-- The loop goes on behind an artifact that is fetched, accepted and written. -/
lemma syncFrom_cons_written {a : Artifact} {r : Response} (rest : List Artifact)
    (hfetch : fetch asked (c.artifactUrl a) = .ok r) (hpolicy : c.policy.refusal? r = none)
    (hwrite : w.write (c.targetPath a) (Bytes.ofString r.body) = .ok w') :
    syncFrom fetch c asked (a :: rest) w =
      ⟨(syncFrom fetch c (asked ++ [c.artifactUrl a]) rest w').result.map
        (c.recordOf (a, r) :: ·),
      (syncFrom fetch c (asked ++ [c.artifactUrl a]) rest w').workspace,
      c.steps (a, r) ++ (syncFrom fetch c (asked ++ [c.artifactUrl a]) rest w').trace⟩ := by
  simp only [syncFrom, hfetch, hpolicy, hwrite, Config.steps, List.append_assoc]
  rfl

/-- **One artifact**: the loop stops there and nothing is written, or the
artifact is fetched, accepted and written. -/
lemma syncFrom_cons (fetch : Fetcher) (c : Config) (asked : List String) (a : Artifact)
    (rest : List Artifact) (w : Workspace) :
    (∃ e trace, syncFrom fetch c asked (a :: rest) w = ⟨.error e, w, trace⟩ ∧
      StopsAt fetch c asked a w e ∧ Trace.effects trace = [.request (c.artifactUrl a)]) ∨
    ∃ r w', fetch asked (c.artifactUrl a) = .ok r ∧ c.policy.refusal? r = none ∧
      w.write (c.targetPath a) (Bytes.ofString r.body) = .ok w' := by
  simp only [syncFrom]
  cases hfetch : fetch asked (c.artifactUrl a) with
  | error e => exact Or.inl ⟨_, _, rfl, .unanswered hfetch, rfl⟩
  | ok r =>
      cases hpolicy : c.policy.refusal? r with
      | some why =>
          exact Or.inl ⟨_, _, by simp only [hpolicy]; rfl, .refused hfetch hpolicy, rfl⟩
      | none =>
          cases hwrite : w.write (c.targetPath a) (Bytes.ofString r.body) with
          | error cause =>
              refine Or.inl ⟨_, _, by simp only [hpolicy, hwrite]; rfl,
                .unwritten hfetch hpolicy hwrite, ?_⟩
              rw [Trace.effects_append, Trace.effects_append, effects_warnings]
              rfl
          | ok w' => exact Or.inr ⟨r, w', rfl, hpolicy, hwrite⟩

/-! ### The courses of fetching and writing -/

/-- What fetching and writing artifacts can come to. -/
inductive SyncCourse (fetch : Fetcher) (c : Config) (asked : List String) (as : List Artifact)
    (w : Workspace) : Outcome (List Written) → Prop
  /-- All artifacts are fetched and written. -/
  | finished (fetched : List (Artifact × Response)) {w' : Workspace} {trace : Trace}
      (has : as = fetched.map Prod.fst) (hfetched : Fetched fetch c asked fetched)
      (hwritten : Workspace.writeEach c.targetDir (fetched.map fileOf) w = .ok w')
      (heffects : trace.effects = c.script as) :
      SyncCourse fetch c asked as w ⟨.ok (fetched.map c.recordOf), w', trace⟩
  /-- The artifact `a` is not fetched or not written; those before it are. -/
  | stopped (fetched : List (Artifact × Response)) {a : Artifact} {rest : List Artifact}
      {e : Failure} {w' : Workspace} {trace : Trace}
      (has : as = fetched.map Prod.fst ++ a :: rest) (hfetched : Fetched fetch c asked fetched)
      (hwritten : Workspace.writeEach c.targetDir (fetched.map fileOf) w = .ok w')
      (hstop : StopsAt fetch c (asked ++ (fetched.map Prod.fst).map c.artifactUrl) a w' e)
      (heffects : trace.effects =
        c.script (fetched.map Prod.fst) ++ [.request (c.artifactUrl a)]) :
      SyncCourse fetch c asked as w ⟨.error e, w', trace⟩

/-- **The courses of fetching and writing**: the loop takes one of them. -/
theorem syncFrom_course (fetch : Fetcher) (c : Config) (asked : List String)
    (as : List Artifact) (w : Workspace) :
    SyncCourse fetch c asked as w (syncFrom fetch c asked as w) := by
  induction as generalizing asked w with
  | nil => exact .finished [] rfl .nil rfl rfl
  | cons a rest ih =>
      obtain ⟨e, trace, hstop, hat, heffects⟩ | ⟨r, w', hfetch, hpolicy, hwrite⟩ :=
        syncFrom_cons fetch c asked a rest w
      · rw [hstop]
        exact .stopped [] rfl .nil rfl (by simpa using hat) heffects
      · rw [syncFrom_cons_written rest hfetch hpolicy hwrite]
        -- the artifact `a` stands before those that the rest of the loop has done
        have hfirst : ∀ {fetched v},
            Workspace.writeEach c.targetDir (fetched.map fileOf) w' = .ok v →
              Workspace.writeEach c.targetDir (((a, r) :: fetched).map fileOf) w = .ok v := by
          intro fetched v hv
          exact writeEach_fileOf_cons.mpr ⟨w', hwrite, hv⟩
        have hcourse := ih (asked ++ [c.artifactUrl a]) w'
        generalize syncFrom fetch c (asked ++ [c.artifactUrl a]) rest w' = o at hcourse ⊢
        cases hcourse with
        | finished fetched has hfetched hwritten heffects =>
            refine .finished ((a, r) :: fetched) (by rw [has]; rfl)
              (.cons hfetch hpolicy hfetched) (hfirst hwritten) ?_
            rw [Trace.effects_append, c.effects_steps, heffects]
            rfl
        | stopped fetched has hfetched hwritten hstop heffects =>
            refine .stopped ((a, r) :: fetched) (by rw [has]; rfl)
              (.cons hfetch hpolicy hfetched) (hfirst hwritten) (by simpa using hstop) ?_
            rw [Trace.effects_append, c.effects_steps, heffects]
            rfl

/-- Where all artifacts are fetched and written, the loop ends. -/
lemma syncFrom_of_fetched {fetched : List (Artifact × Response)}
    (hfetched : Fetched fetch c asked fetched)
    (hwritten : Workspace.writeEach c.targetDir (fetched.map fileOf) w = .ok w') :
    (syncFrom fetch c asked (fetched.map Prod.fst) w).result = .ok (fetched.map c.recordOf) ∧
      (syncFrom fetch c asked (fetched.map Prod.fst) w).workspace = w' := by
  induction hfetched generalizing w with
  | nil =>
      cases hwritten
      exact ⟨rfl, rfl⟩
  | @cons asked a r rest hfetch hpolicy _ ih =>
      obtain ⟨w₁, hwrite, hwritten⟩ := writeEach_fileOf_cons.mp hwritten
      obtain ⟨hresult, hworkspace⟩ := ih hwritten
      simp only [List.map_cons, syncFrom_cons_written _ hfetch hpolicy hwrite, hresult,
        hworkspace]
      exact ⟨rfl, trivial⟩

end SyncFrom

end Vendoring
