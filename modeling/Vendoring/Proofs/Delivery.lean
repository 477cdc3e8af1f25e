/-
The bytes that the web serves become texts in files.

* `Workspace.read_of_write`: a path that is written to reads what was written;
  `read_of_writeEach` says when later writes leave it so;
* `Delivery`, `sync_delivery`: what becomes of an artifact that was asked for and
  whose answer the policy accepts, whoever answers;
* `Http.Repeats`: a web that serves the mended bodies of another one;
* `sync_delivers` (**bodies are delivered as texts**): the file is the body with
  each maximal ill-formed subpart replaced, its size is the one reported, and a
  web that serves the files in place of the bodies makes no difference.
-/
import Mathlib.Tactic
import Vendoring.Proofs.Bodies
import Vendoring.Proofs.Canned
import Vendoring.Proofs.Policy
import Vendoring.Proofs.Repair
import Vendoring.Proofs.Sequence

namespace Vendoring

/-! ### Reading what was written -/

namespace Workspace

variable {w v : Workspace} {p q : Path} {content other : Bytes} {dir : Path}
  {files : List (Name × Bytes)}

/-- A write puts a file where the path opens one. -/
lemma exists_locate_of_write (h : w.write p content = .ok v) :
    ∃ l, w.locate .writing p = .ok l ∧ l ≠ [] ∧
      v = w.withTree (w.tree.insert l (.file content)) := by
  cases hl : w.locate .writing p with
  | error cause =>
      rw [write, hl] at h
      cases h
  | ok l =>
      rw [write_of_locate hl] at h
      split_ifs at h
      cases h
      exact ⟨l, rfl, (locate_place hl).1, rfl⟩

lemma read_eq_ok_iff :
    w.read p = .ok content ↔
      ∃ l, w.locate .reading p = .ok l ∧ w.tree.get? l = some (.file content) := by
  rw [read]
  cases hl : w.locate .reading p with
  | error cause => simp
  | ok l =>
      simp only [Except.ok.injEq, exists_eq_left']
      split <;> simp_all

/-- **What was written is read** by the same path. -/
lemma read_of_write (h : w.write p content = .ok v) : v.read p = .ok content := by
  obtain ⟨l, hl, hroot, hv⟩ := exists_locate_of_write h
  refine read_eq_ok_iff.mpr ⟨l, locate_of_write h hl, ?_⟩
  rw [hv, tree_withTree, FileTree.get?_insert hroot, if_pos rfl]

/-- A write elsewhere leaves a file as it is. -/
lemma read_of_write_elsewhere (h : w.write q other = .ok v) (hread : w.read p = .ok content)
    (hne : v.locate .writing q ≠ v.locate .writing p) : v.read p = .ok content := by
  obtain ⟨k, hk, hroot, hv⟩ := exists_locate_of_write h
  obtain ⟨l, hl, hfile⟩ := read_eq_ok_iff.mp hread
  have hkl : l ≠ k := by
    rintro rfl
    exact hne ((locate_of_write h hk).trans (locate_of_write h hl).symm)
  refine read_eq_ok_iff.mpr ⟨l, locate_of_write h hl, ?_⟩
  rw [hv, tree_withTree, FileTree.get?_insert hroot, if_neg hkl]
  exact hfile

lemma locate_of_writeEach {access : FileTree.Access} {l : Location}
    (h : writeEach dir files w = .ok v) (hl : w.locate access p = .ok l) :
    v.locate access p = .ok l := by
  induction files generalizing w with
  | nil =>
      cases h
      exact hl
  | cons f files ih =>
      obtain ⟨u, hf, h⟩ := writeEach_cons_eq_ok_iff.mp h
      exact ih h (locate_of_write hf hl)

/-- **A file stays** unless one of the files written later opens its place. -/
lemma read_of_writeEach (h : writeEach dir files w = .ok v) (hread : w.read p = .ok content)
    (hne : ∀ f ∈ files, v.locate .writing (dir.join ⟨f.1⟩) ≠ v.locate .writing p) :
    v.read p = .ok content := by
  induction files generalizing w with
  | nil =>
      cases h
      exact hread
  | cons f files ih =>
      rw [List.forall_mem_cons] at hne
      obtain ⟨u, hf, h⟩ := writeEach_cons_eq_ok_iff.mp h
      refine ih h (read_of_write_elsewhere hf hread fun heq => hne.1 ?_) hne.2
      -- both paths open at the end what they open now
      obtain ⟨k, hk, _⟩ := exists_locate_of_write hf
      have hu : u.locate .writing (dir.join ⟨f.1⟩) = .ok k := locate_of_write hf hk
      rw [locate_of_writeEach h hu, locate_of_writeEach h (heq ▸ hu)]

lemma writeEach_append_eq_ok_iff {files' : List (Name × Bytes)} :
    writeEach dir (files ++ files') w = .ok v ↔
      ∃ u, writeEach dir files w = .ok u ∧ writeEach dir files' u = .ok v := by
  induction files generalizing w with
  | nil => simp [writeEach]
  | cons f files ih =>
      rw [List.cons_append, writeEach_cons_eq_ok_iff]
      constructor
      · rintro ⟨u, hf, h⟩
        obtain ⟨u', h, h'⟩ := ih.mp h
        exact ⟨u', writeEach_cons_eq_ok_iff.mpr ⟨u, hf, h⟩, h'⟩
      · rintro ⟨u', h, h'⟩
        obtain ⟨u, hf, h⟩ := writeEach_cons_eq_ok_iff.mp h
        exact ⟨u, hf, ih.mpr ⟨u', h, h'⟩⟩

end Workspace

/-! ### What becomes of an answer -/

section Delivery

variable {fetch : Fetcher} {c : Config} {w : Workspace} {o : Outcome (List Written)} {i : Nat}
  {a : Artifact} {content : Bytes} {fetched : List (Artifact × Response)}

/-- The artifact `a` at the index `i` came to a file that holds `content`. -/
inductive Delivery (fetch : Fetcher) (c : Config) (w : Workspace) (o : Outcome (List Written))
    (i : Nat) (a : Artifact) (content : Bytes) : Prop
  /-- The file is written behind those of the artifacts before.  It can be read as
  long as no later artifact opens its place, and its size is reported. -/
  | written {before after : Workspace}
      (hbefore : Passed fetch c (c.artifacts.take i) w before)
      (hwrite : before.write (c.targetPath a) content = .ok after)
      (hafter : Passed fetch c (c.artifacts.take (i + 1)) w after)
      (hread : after.read (c.targetPath a) = .ok content)
      (hkept : (∀ b ∈ c.artifacts.drop (i + 1), o.workspace.locate .writing (c.targetPath b) ≠
          o.workspace.locate .writing (c.targetPath a)) →
        o.workspace.read (c.targetPath a) = .ok content)
      (htrace : o.trace.written[i]? = some (c.targetPath a))
      (hreport : ∀ xs, o.result = .ok xs → ∃ x, xs[i]? = some x ∧ x.url = c.artifactUrl a ∧
        x.path = c.targetPath a ∧ x.bytes = content.length)
  /-- The file cannot be written, and this is what is reported. -/
  | unwritten {cause : FileError}
      (hbefore : Passed fetch c (c.artifacts.take i) w o.workspace)
      (hwrite : o.workspace.write (c.targetPath a) content = .error cause)
      (hresult : o.result = .error (.writeFailed (c.targetPath a) cause))

lemma Fetched.of_append {asked : List String} {later : List (Artifact × Response)}
    (h : Fetched fetch c asked (fetched ++ later)) : Fetched fetch c asked fetched := by
  induction fetched generalizing asked with
  | nil => exact .nil
  | cons x fetched ih =>
      cases h with
      | cons hfetch hpolicy hrest => exact .cons hfetch hpolicy (ih hrest)

/-- An artifact that the loop got past is delivered. -/
lemma delivery_of_fetched {r : Response} {earlier later : List (Artifact × Response)}
    (hsplit : fetched = earlier ++ (a, r) :: later)
    (hfetched : Fetched fetch c [] fetched) (has : fetched.map Prod.fst <+: c.artifacts)
    (hwritten : Workspace.writeEach c.targetDir (fetched.map fileOf) w = .ok o.workspace)
    (htrace : o.trace.written = fetched.map fun x => c.targetPath x.1)
    (hresult : ∀ xs, o.result = .ok xs → xs = fetched.map c.recordOf) :
    Delivery fetch c w o earlier.length a (Bytes.ofString r.body) := by
  have hmap : fetched.map Prod.fst = earlier.map Prod.fst ++ a :: later.map Prod.fst := by
    rw [hsplit, List.map_append, List.map_cons]
  obtain ⟨rest, hrest⟩ := has
  have hcut : c.artifacts = earlier.map Prod.fst ++ a :: (later.map Prod.fst ++ rest) := by
    rw [← hrest, hmap, List.append_assoc, List.cons_append]
  obtain ⟨_, htake, htake'⟩ := artifacts_cut hcut
  rw [List.length_map] at htake htake'
  have hat : fetched[earlier.length]? = some (a, r) := by
    rw [hsplit, List.getElem?_append_right le_rfl, Nat.sub_self]
    rfl
  rw [hsplit, List.map_append, Workspace.writeEach_append_eq_ok_iff] at hwritten
  obtain ⟨before, hbefore, hwritten⟩ := hwritten
  obtain ⟨after, hwrite, hwritten⟩ := writeEach_fileOf_cons.mp hwritten
  have hread := Workspace.read_of_write hwrite
  have hafter : Workspace.writeEach c.targetDir ((earlier ++ [(a, r)]).map fileOf) w =
      .ok after := by
    rw [List.map_append, Workspace.writeEach_append_eq_ok_iff]
    exact ⟨before, hbefore, writeEach_fileOf_cons.mpr ⟨after, hwrite, rfl⟩⟩
  have hsplit' : fetched = (earlier ++ [(a, r)]) ++ later := by simp [hsplit]
  refine .written ⟨earlier, htake.symm, (hsplit ▸ hfetched).of_append, hbefore⟩ hwrite
    ⟨earlier ++ [(a, r)], ?_, (hsplit' ▸ hfetched).of_append, hafter⟩ hread
    (fun hlater => Workspace.read_of_writeEach hwritten hread fun f hf => ?_) ?_ ?_
  · rw [htake', List.map_append]
    rfl
  · obtain ⟨x, hx, rfl⟩ := List.mem_map.mp hf
    refine hlater x.1 ?_
    have hdrop : c.artifacts.drop (earlier.length + 1) = later.map Prod.fst ++ rest := by
      have hall := List.take_append_drop (earlier.length + 1) c.artifacts
      rw [htake'] at hall
      exact List.append_cancel_left (hall.trans (hcut.trans (by simp)))
    rw [hdrop]
    exact List.mem_append_left _ (List.mem_map_of_mem hx)
  · rw [htrace, List.getElem?_map, hat]
    rfl
  · intro xs hxs
    refine ⟨c.recordOf (a, r), ?_, rfl, rfl, rfl⟩
    rw [hresult xs hxs, List.getElem?_map, hat]
    rfl

/-- The answers of a loop, cut at the one to an artifact. -/
lemma Fetched.cut {r : Response} {rest : List Artifact} (hfetched : Fetched fetch c [] fetched)
    (has : c.artifacts = fetched.map Prod.fst ++ rest) (ha : c.artifacts[i]? = some a)
    (hfetch : fetch ((c.artifacts.take i).map c.artifactUrl) (c.artifactUrl a) = .ok r)
    (hi : i < fetched.length) :
    ∃ earlier later, fetched = earlier ++ (a, r) :: later ∧ earlier.length = i := by
  obtain ⟨earlier, x, later, rfl, rfl⟩ :
      ∃ earlier x later, fetched = earlier ++ x :: later ∧ earlier.length = i :=
    ⟨fetched.take i, fetched[i], fetched.drop (i + 1), by simp, by simp [hi.le]⟩
  have hcut : c.artifacts = earlier.map Prod.fst ++ x.1 :: (later.map Prod.fst ++ rest) := by
    rw [has]
    simp
  obtain ⟨hat, htake, _⟩ := artifacts_cut hcut
  rw [List.length_map] at hat htake
  have hfirst : x.1 = a := Option.some.inj (hat.symm.trans ha)
  have hanswer := hfetched.answer (i := earlier.length) (x := x) (by simp)
  have hasked : ((earlier ++ x :: later).map Prod.fst).take earlier.length =
      c.artifacts.take earlier.length := by
    rw [htake, List.map_append]
    exact List.take_left' (by simp)
  rw [hasked, List.nil_append, hfirst, hfetch] at hanswer
  refine ⟨earlier, later, ?_, rfl⟩
  rw [← hfirst, Except.ok.inj hanswer]

/-- **Every accepted answer is delivered**: what was asked for and accepted is
written, or it is the artifact that stops the loop. -/
theorem sync_delivery {r : Response} (ha : c.artifacts[i]? = some a)
    (hi : i < (sync fetch c w).trace.requests.length)
    (hfetch : fetch ((c.artifacts.take i).map c.artifactUrl) (c.artifactUrl a) = .ok r)
    (hpolicy : c.policy.refusal? r = none) :
    Delivery fetch c w (sync fetch c w) i a (Bytes.ofString r.body) := by
  rw [sync] at hi ⊢
  have hcourse := syncFrom_course fetch c [] c.artifacts w
  generalize syncFrom fetch c [] c.artifacts w = o at hcourse hi ⊢
  cases hcourse with
  | @finished fetched w' trace has hfetched hwritten heffects =>
      have hlength : i < fetched.length := by
        have := (List.getElem?_eq_some_iff.mp ha).1
        rwa [has, List.length_map] at this
      obtain ⟨earlier, later, hsplit, rfl⟩ :=
        hfetched.cut (has.trans (List.append_nil _).symm) ha hfetch hlength
      refine delivery_of_fetched hsplit hfetched (has ▸ List.prefix_rfl) hwritten ?_ ?_
      · rw [← trace.views_effects.2.2, heffects, (c.views_script _).2.2, has, List.map_map]
        rfl
      · intro xs hxs
        exact (Except.ok.inj hxs).symm
  | @stopped fetched a' rest e w' trace has hfetched hwritten hstop heffects =>
      have hcame := cameTo_of_effects has heffects
      rw [List.length_map] at hcame
      obtain ⟨_, htake, _⟩ := artifacts_cut has
      rw [List.length_map] at htake
      by_cases hlength : i < fetched.length
      · obtain ⟨earlier, later, hsplit, rfl⟩ := hfetched.cut has ha hfetch hlength
        refine delivery_of_fetched hsplit hfetched (has ▸ List.prefix_append _ _) hwritten ?_ ?_
        · rw [hcame.written, htake, List.map_map]
          rfl
        · intro xs hxs
          cases hxs
      · -- the last artifact asked for is the one that stops the loop
        obtain rfl : i = fetched.length := by
          rw [hcame.requests, List.length_map, List.length_take] at hi
          omega
        obtain rfl : a' = a := Option.some.inj (hcame.artifact.symm.trans ha)
        rw [← htake, List.nil_append] at hstop
        have hpassed : Passed fetch c (c.artifacts.take fetched.length) w w' :=
          ⟨fetched, htake.symm, hfetched, hwritten⟩
        cases hstop with
        | unanswered h =>
            rw [hfetch] at h
            cases h
        | refused h hrefusal =>
            rw [hfetch] at h
            cases h
            rw [hpolicy] at hrefusal
            cases hrefusal
        | unwritten h _ hwrite =>
            rw [hfetch] at h
            cases h
            exact .unwritten hpassed hwrite rfl

end Delivery

/-! ### Bodies from the web -/

namespace Http

/-- What a web gives that serves mended bodies, beside what another one gives. -/
inductive Repeats : Except Fault Reply → Except Fault Reply → Prop
  | failed (fault : Fault) : Repeats (.error fault) (.error fault)
  | mended {reply : Reply} {content : Bytes} (h : Utf8.Repaired reply.body content) :
      Repeats (.ok reply) (.ok { reply with body := content })

/-- A mended body reads as the body does. -/
lemma response_mended {reply : Reply} {content : Bytes} (h : Utf8.Repaired reply.body content) :
    ({ reply with body := content } : Reply).response = reply.response := by
  have hmended := Utf8.mended_lossy reply.body
  have hlossy : Utf8.lossy content = Utf8.lossy reply.body := by
    rw [← Bytes.ofString_inj, ← hmended.unique content h]
    exact (Utf8.repaired_iff.mp ((hmended.unique content h) ▸ hmended.again)).symm
  rw [Reply.response, Reply.response, hlossy]

lemma fetch_repeated {remote remote' : Remote} (h : ∀ u, Repeats (remote u) (remote' u))
    (text : String) : fetch remote' text = fetch remote text := by
  rw [fetch, fetch, exchange, exchange]
  cases hrequest : request text with
  | error e => rfl
  | ok url =>
      have hurl := h url
      simp only
      generalize remote url = given at hurl ⊢
      generalize remote' url = given' at hurl ⊢
      cases hurl with
      | failed fault => rfl
      | mended hrepaired => exact congrArg Except.ok (response_mended hrepaired)

end Http

/-- **Bodies are delivered as texts**: the file that an accepted body becomes is
the body with each maximal ill-formed subpart replaced by the three bytes of
U+FFFD.  Its size is the one reported.  If the files are served in place of the
bodies, the same is fetched, written and reported. -/
theorem sync_delivers (remote : Http.Remote) (c : Config) (w : Workspace) :
    (∀ i a reply, c.artifacts[i]? = some a →
      i < (sync (Http.fetcher remote) c w).trace.requests.length →
      Http.exchange remote (c.artifactUrl a) = .ok reply →
      c.policy.refusal? reply.response = none →
      ∃ content, Utf8.Mended reply.body content ∧
        Delivery (Http.fetcher remote) c w (sync (Http.fetcher remote) c w) i a content) ∧
    ∀ remote' : Http.Remote, (∀ u, Http.Repeats (remote u) (remote' u)) →
      sync (Http.fetcher remote') c w = sync (Http.fetcher remote) c w := by
  refine ⟨fun i a reply ha hi hexchange hpolicy => ?_, fun remote' h => ?_⟩
  · refine ⟨_, Utf8.mended_lossy reply.body, sync_delivery ha hi ?_ hpolicy⟩
    change Http.fetch remote (c.artifactUrl a) = .ok reply.response
    rw [Http.fetch, hexchange]
  · exact syncFrom_congr (fun _ a _ => Http.fetch_repeated h (c.artifactUrl a)) [] w

namespace Sample

/-- The body that is no text, mended. -/
def mended : Bytes := [0x68, 0xEF, 0xBF, 0xBD, 0x69]

lemma repaired_garbled : Utf8.Repaired garbled mended := Utf8.repaired_iff.mpr (by decide)

/-- The web with its document mended. -/
def mendedWeb : Http.Remote := fun u =>
  if u.trail = .names ["r", "b"] then .ok ⟨200, some [0xFF], mended⟩
  else .ok ⟨302, some (Bytes.ofString firstUrl), []⟩

lemma repeats_mendedWeb (u : Url) : Http.Repeats (pointingWeb u) (mendedWeb u) := by
  rw [pointingWeb, mendedWeb]
  split_ifs
  · exact .mended repaired_garbled
  · exact .mended .nil

end Sample

theorem sync_delivers_sample :
    Delivery (Http.fetcher Sample.pointingWeb) Sample.served Sample.workspace
        (sync (Http.fetcher Sample.pointingWeb) Sample.served Sample.workspace) 0
        ⟨"b", "generated_b.go"⟩ Sample.mended ∧
      sync (Http.fetcher Sample.mendedWeb) Sample.served Sample.workspace =
        sync (Http.fetcher Sample.pointingWeb) Sample.served Sample.workspace := by
  obtain ⟨hdelivers, hsame⟩ :=
    sync_delivers Sample.pointingWeb Sample.served Sample.workspace
  have hasked := requests_syncFrom_cons (Http.fetcher Sample.pointingWeb) Sample.served []
    ⟨"b", "generated_b.go"⟩ [⟨"a", "generated_a.go"⟩] Sample.workspace
  obtain ⟨content, hmended, hdelivery⟩ := hdelivers 0 ⟨"b", "generated_b.go"⟩
    ⟨200, some [0xFF], Sample.garbled⟩ rfl hasked.length_le (by decide +kernel) (by decide)
  rw [← hmended.unique Sample.mended Sample.repaired_garbled] at hdelivery
  exact ⟨hdelivery, hsame Sample.mendedWeb Sample.repeats_mendedWeb⟩

end Vendoring
