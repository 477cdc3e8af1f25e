/-
Files of one name: the last writer wins.  Fetching and writing looks neither at
the convention nor at whether a name was used before, so an artifact may overwrite
the file of an earlier one.

* `Workspace.Reaches`: the directory that names below a path stand in.  The empty
  path has one too, though it cannot be listed;
* `Workspace.write_of_reaches`, `Workspace.writeEach_of_reaches`: what one file and
  many files written below a path make of the tree;
* `FileTree.get?_putFiles_last`: of the files put under one name, the last one is
  found;
* `Artifact.HasBareName`, `Artifact.proper_name_iff`: local names that can only
  stand for entries;
* `LastWins`: the files of the first artifacts, each with the body of the last one
  of its name, beside everything else as it was;
* `sync_last_writer_wins` (**the last writer wins**): so it is when all artifacts
  are written, and so it is, for the artifacts before, when one of them fails.
-/
import Mathlib.Tactic
import Vendoring.Proofs.Delivery

namespace Vendoring

/-! ### Writing below a path -/

namespace Workspace

variable {w v : Workspace} {dir : Path} {d : Location} {n : Name} {content : Bytes}
  {files : List (Name × Bytes)}

/-- The names of the path lead to the directory `d`.  The empty path leads to the
current directory. -/
def Reaches (w : Workspace) (dir : Path) (d : Location) : Prop :=
  w.tree.directoryAt linkLimit (w.start dir) dir.parts = .ok d

instance (w : Workspace) (dir : Path) (d : Location) : Decidable (w.Reaches dir d) :=
  inferInstanceAs (Decidable (_ = _))

lemma reaches_of_resolve (h : w.resolve dir = .ok d) : w.Reaches dir d := by
  rwa [resolve_eq_directoryAt (spelled_of_resolve h)] at h

/-- A path below which a file is put leads where it led. -/
lemma Reaches.insert (hd : w.Reaches dir d)
    (hfile : ∀ e, w.tree.get? (d ++ [n]) = some e → ∃ old, e = .file old) (content : Bytes) :
    (w.withTree (w.tree.insert (d ++ [n]) (.file content))).Reaches dir d :=
  FileTree.directoryAt_of_waysIn (FileTree.waysIn_insert (by simp) hfile content) hd

/-- **One file** written below a path is put under its name in the directory that
the path leads to, where no link of that name stands. -/
lemma write_of_reaches (hd : w.Reaches dir d) (hn : Name.Proper n)
    (hlink : ∀ target, w.tree.get? (d ++ [n]) ≠ some (.link target))
    (h : w.write (dir.join ⟨n⟩) content = .ok v) :
    v = w.withTree (w.tree.insert (d ++ [n]) (.file content)) := by
  obtain ⟨l, hl, _, rfl⟩ := exists_locate_of_write h
  rw [locate, Path.ofPath_join hn, start_join w dir hn.bare] at hl
  have hlink' : ∀ d' target, w.tree.directoryAt linkLimit (w.start dir) dir.parts = .ok d' →
      w.tree.get? (d' ++ [n]) ≠ some (.link target) := by
    intro d' target hd'
    obtain rfl : d = d' := Except.ok.inj (hd.symm.trans hd')
    exact hlink target
  split at hl
  · cases hl
  · rw [FileTree.openAt_name hlink', hd, Except.bind, FileTree.placeIn] at hl
    split_ifs at hl
    cases hl
    rfl

/-- **Many files** written below a path are put into the directory that the path
leads to, one over the other where names are repeated. -/
lemma writeEach_of_reaches (hd : w.Reaches dir d) (hproper : ∀ f ∈ files, Name.Proper f.1)
    (hfile : ∀ f ∈ files, ∀ e, w.tree.get? (d ++ [f.1]) = some e → ∃ old, e = .file old)
    (h : writeEach dir files w = .ok v) : v = w.withTree (w.tree.putFiles d files) := by
  induction files generalizing w with
  | nil =>
      cases h
      rfl
  | cons f files ih =>
      rw [List.forall_mem_cons] at hproper hfile
      obtain ⟨u, hf, h⟩ := writeEach_cons_eq_ok_iff.mp h
      have hlink : ∀ target, w.tree.get? (d ++ [f.1]) ≠ some (.link target) := by
        intro target htarget
        obtain ⟨old, hold⟩ := hfile.1 _ htarget
        cases hold
      obtain rfl := write_of_reaches hd hproper.1 hlink hf
      refine ih (hd.insert hfile.1 f.2) hproper.2 (fun g hg e he => ?_) h
      -- under the name of `g` stands the file just written or what stood there before
      rw [tree_withTree, FileTree.get?_insert (by simp)] at he
      split_ifs at he
      · cases he
        exact ⟨f.2, rfl⟩
      · exact hfile.2 g hg e he

end Workspace

/-- Of the files put under one name, the last one is found. -/
lemma FileTree.get?_putFiles_last {t : FileTree} {dir : Location}
    {earlier later : List (Name × Bytes)} {f : Name × Bytes} (h : f.1 ∉ later.map Prod.fst) :
    (t.putFiles dir (earlier ++ f :: later)).get? (dir ++ [f.1]) = some (.file f.2) := by
  induction earlier generalizing t with
  | nil => rw [List.nil_append, putFiles_cons, get?_putFiles_of_notMem h,
      get?_insert (by simp), if_pos rfl]
  | cons g earlier ih => exact ih

/-! ### Bare names -/

/-- The local name can only stand for an entry of a directory. -/
def Artifact.HasBareName (a : Artifact) : Prop :=
  '/' ∉ a.localName.toList ∧ a.localName ≠ "" ∧ a.localName ≠ "." ∧ a.localName ≠ ".."

instance (a : Artifact) : Decidable a.HasBareName := inferInstanceAs (Decidable (_ ∧ _))

lemma Artifact.proper_name_iff {a : Artifact} : Name.Proper a.name ↔ a.HasBareName := by
  have hslash : slash ∈ a.name ↔ '/' ∈ a.localName.toList :=
    Bytes.mem_ofString_of_ascii (c := '/') (by decide) a.localName
  have hword : ∀ word, a.name = Bytes.ofString word ↔ a.localName = word :=
    fun word => Bytes.ofString_inj
  have hempty : a.name = [] ↔ a.localName = "" := hword ""
  have hhere : a.name = Name.here ↔ a.localName = "." := hword "."
  have hup : a.name = Name.up ↔ a.localName = ".." := hword ".."
  constructor
  · rintro ⟨hnil, hdot, hdots, hbare⟩
    exact ⟨mt hslash.mpr hbare, mt hempty.mpr hnil, mt hhere.mpr hdot, mt hup.mpr hdots⟩
  · rintro ⟨hbare, hnil, hdot, hdots⟩
    exact ⟨mt hempty.mp hnil, mt hhere.mp hdot, mt hup.mp hdots, mt hslash.mp hbare⟩

/-! ### The last writer -/

section LastWriter

variable {fetch : Fetcher} {c : Config} {w : Workspace} {d : Location}
  {fetched : List (Artifact × Response)}

/-- In `w'` stand the files of the first `k` artifacts, and everything else as
in `w`. -/
structure LastWins (fetch : Fetcher) (c : Config) (w w' : Workspace) (d : Location)
    (k : Nat) : Prop where
  /-- A file holds the body that was fetched for the last artifact of its name. -/
  bodies : ∀ i a, i < k → c.artifacts[i]? = some a →
    (∀ j b, i < j → j < k → c.artifacts[j]? = some b → b.localName ≠ a.localName) →
    ∃ r, fetch ((c.artifacts.take i).map c.artifactUrl) (c.artifactUrl a) = .ok r ∧
      w'.tree.get? (d ++ [a.name]) = some (.file (Bytes.ofString r.body))
  /-- What has none of their names is as it was, wherever it stands. -/
  others : ∀ l, (∀ a ∈ c.artifacts.take k, l ≠ d ++ [a.name]) → w'.tree.get? l = w.tree.get? l
  /-- Relative paths start where they started. -/
  current : w'.current = w.current

/-- Files put one over the other leave the last one of each name. -/
lemma lastWins_putFiles (hfetched : Fetched fetch c [] fetched)
    (has : fetched.map Prod.fst <+: c.artifacts) :
    LastWins fetch c w (w.withTree (w.tree.putFiles d (fetched.map fileOf))) d
      fetched.length := by
  refine ⟨fun i a hi ha hlast => ?_, fun l hl => ?_, rfl⟩
  · obtain ⟨hat, hanswer⟩ := hfetched.answer_of_prefix has (List.getElem?_eq_getElem hi)
    obtain rfl : fetched[i].1 = a := Option.some.inj (hat.symm.trans ha)
    refine ⟨_, hanswer, ?_⟩
    have hsplit : fetched.map fileOf =
        (fetched.take i).map fileOf ++ fileOf fetched[i] :: (fetched.drop (i + 1)).map fileOf := by
      rw [← List.map_cons, ← List.map_append, List.cons_getElem_drop_succ,
        List.take_append_drop]
    rw [Workspace.tree_withTree, hsplit]
    refine FileTree.get?_putFiles_last fun hmem => ?_
    -- a later file of the same name belongs to a later artifact of the same name
    rw [Workspace.map_fst_fileOf, List.map_map, List.mem_map] at hmem
    obtain ⟨y, hy, hname⟩ := hmem
    obtain ⟨j, hj⟩ := List.mem_iff_getElem?.mp hy
    rw [List.getElem?_drop] at hj
    have hlength := (List.getElem?_eq_some_iff.mp hj).1
    exact hlast (i + 1 + j) y.1 (by omega) hlength (hfetched.answer_of_prefix has hj).1
      (Bytes.ofString_inj.mp hname)
  · refine FileTree.get?_putFiles_of_ne fun n hn => ?_
    rw [Workspace.map_fst_fileOf, List.prefix_iff_eq_take.mp has, List.length_map,
      List.mem_map] at hn
    obtain ⟨a, ha, rfl⟩ := hn
    exact hl a ha

/-- Artifacts with bare names that are all written leave the last file of each
name. -/
lemma lastWins_of_written (hd : w.Reaches c.targetDir d)
    (hbare : ∀ a ∈ c.artifacts, a.HasBareName)
    (hfile : ∀ a ∈ c.artifacts, ∀ e, w.tree.get? (d ++ [a.name]) = some e → ∃ old, e = .file old)
    (hfetched : Fetched fetch c [] fetched) (has : fetched.map Prod.fst <+: c.artifacts)
    {v : Workspace} (hwritten : Workspace.writeEach c.targetDir (fetched.map fileOf) w = .ok v) :
    LastWins fetch c w v d fetched.length := by
  have hmem : ∀ x ∈ fetched, x.1 ∈ c.artifacts :=
    fun x hx => has.subset (List.mem_map_of_mem hx)
  obtain rfl := Workspace.writeEach_of_reaches hd
    (List.forall_mem_map.mpr fun x hx => Artifact.proper_name_iff.mpr (hbare x.1 (hmem x hx)))
    (List.forall_mem_map.mpr fun x hx => hfile x.1 (hmem x hx)) hwritten
  exact lastWins_putFiles hfetched has

/-- **The last writer wins**: where the local names are bare and nothing but files
stand under them, each file holds the body fetched for the last artifact of its
name, nothing else changes, and every artifact is reported, also one whose file is
gone again.  If an artifact stops the loop, this is so for the artifacts before
it. -/
theorem sync_last_writer_wins (fetch : Fetcher) (c : Config) (w : Workspace) (d : Location)
    (hd : w.Reaches c.targetDir d) (hbare : ∀ a ∈ c.artifacts, a.HasBareName)
    (hfile : ∀ a ∈ c.artifacts, ∀ e, w.tree.get? (d ++ [a.name]) = some e →
      ∃ old, e = .file old) :
    (∀ xs, (sync fetch c w).result = .ok xs →
      LastWins fetch c w (sync fetch c w).workspace d c.artifacts.length ∧
      xs.length = c.artifacts.length ∧
      ∀ i a, c.artifacts[i]? = some a → ∃ r,
        fetch ((c.artifacts.take i).map c.artifactUrl) (c.artifactUrl a) = .ok r ∧
        xs[i]? = some
          ⟨c.artifactUrl a, c.targetPath a, r.status, (Bytes.ofString r.body).length⟩) ∧
    ∀ e, (sync fetch c w).result = .error e → ∃ i a, c.artifacts[i]? = some a ∧
      StopsAt fetch c ((c.artifacts.take i).map c.artifactUrl) a (sync fetch c w).workspace e ∧
      (sync fetch c w).trace.requests = (c.artifacts.take (i + 1)).map c.artifactUrl ∧
      LastWins fetch c w (sync fetch c w).workspace d i := by
  rw [sync]
  have hcourse := syncFrom_course fetch c [] c.artifacts w
  generalize syncFrom fetch c [] c.artifacts w = o at hcourse ⊢
  cases hcourse with
  | finished fetched has hfetched hwritten _ =>
      have hprefix : fetched.map Prod.fst <+: c.artifacts := has ▸ List.prefix_rfl
      have hlength : c.artifacts.length = fetched.length := by rw [has, List.length_map]
      refine ⟨fun xs hxs => ?_, by simp⟩
      cases hxs
      rw [hlength]
      refine ⟨lastWins_of_written hd hbare hfile hfetched hprefix hwritten, List.length_map _,
        fun i a ha => ?_⟩
      have hi : i < fetched.length := hlength ▸ (List.getElem?_eq_some_iff.mp ha).1
      have hx : fetched[i]? = some fetched[i] := List.getElem?_eq_getElem hi
      obtain ⟨hat, hanswer⟩ := hfetched.answer_of_prefix hprefix hx
      obtain rfl : fetched[i].1 = a := Option.some.inj (hat.symm.trans ha)
      refine ⟨_, hanswer, ?_⟩
      rw [List.getElem?_map, hx]
      rfl
  | @stopped fetched a rest e w' trace has hfetched hwritten hstop heffects =>
      have hprefix : fetched.map Prod.fst <+: c.artifacts := has ▸ List.prefix_append _ _
      have hcame := cameTo_of_effects has heffects
      obtain ⟨_, htake, _⟩ := artifacts_cut has
      rw [List.length_map] at hcame htake
      refine ⟨by simp, fun e' he => ?_⟩
      cases he
      refine ⟨fetched.length, a, hcame.artifact, ?_, hcame.requests,
        lastWins_of_written hd hbare hfile hfetched hprefix hwritten⟩
      rw [htake]
      exact hstop

end LastWriter

namespace Sample

/-- Two artifacts of one name, which no convention covers and which a file has
already. -/
def doubled : Config :=
  { Config.standard with
    targetDir := .ofString "way"
    artifacts := [⟨"b", "notes.md"⟩, ⟨"a", "notes.md"⟩] }

lemma reaches_doubled : workspace.Reaches doubled.targetDir [Bytes.ofString "out"] :=
  Workspace.reaches_of_resolve (by decide)

lemma files_doubled : ∀ a ∈ doubled.artifacts, ∀ e,
    workspace.tree.get? ([Bytes.ofString "out"] ++ [a.name]) = some e → ∃ old, e = .file old := by
  have hname : ∀ a ∈ doubled.artifacts, a.name = Bytes.ofString "notes.md" := by decide
  have hnotes : workspace.tree.get? [Bytes.ofString "out", Bytes.ofString "notes.md"] =
      some (.file [9]) := by decide
  intro a ha e he
  rw [hname a ha, List.singleton_append, hnotes] at he
  cases he
  exact ⟨[9], rfl⟩

end Sample

theorem sync_last_writer_wins_sample :
    (sync Sample.changing Sample.doubled Sample.workspace).workspace.tree.get?
        [Bytes.ofString "out", Bytes.ofString "notes.md"] =
      some (.file (Bytes.ofString "two")) ∧
    (sync Sample.failing Sample.doubled Sample.workspace).workspace.tree.get?
        [Bytes.ofString "out", Bytes.ofString "notes.md"] =
      some (.file (Bytes.ofString "one")) ∧
    (sync Sample.failing Sample.doubled Sample.workspace).workspace.tree.get?
        [Bytes.ofString "out", Bytes.ofString "generated_z.go"] = some (.file [7]) := by
  obtain ⟨hdone, _⟩ := sync_last_writer_wins Sample.changing Sample.doubled Sample.workspace
    [Bytes.ofString "out"] Sample.reaches_doubled (by decide) Sample.files_doubled
  obtain ⟨_, hstopped⟩ := sync_last_writer_wins Sample.failing Sample.doubled Sample.workspace
    [Bytes.ofString "out"] Sample.reaches_doubled (by decide) Sample.files_doubled
  obtain ⟨hwins, _⟩ := hdone
    [⟨Sample.doubled.artifactUrl ⟨"b", "notes.md"⟩, .ofString "way/notes.md", 200, 3⟩,
      ⟨Sample.doubled.artifactUrl ⟨"a", "notes.md"⟩, .ofString "way/notes.md", 200, 3⟩] (by decide)
  obtain ⟨i, a, ha, _, hrequests, hwins'⟩ := hstopped
    (.transport (Sample.doubled.artifactUrl ⟨"a", "notes.md"⟩) "gone") (by decide)
  -- both artifacts were asked for, so it is the second one that failed
  obtain rfl : i = 1 := by
    have hi : i < 2 := (List.getElem?_eq_some_iff.mp ha).1
    have hasked : (sync Sample.failing Sample.doubled Sample.workspace).trace.requests.length =
        2 := by decide
    rw [hrequests, List.length_map, List.length_take] at hasked
    omega
  refine ⟨?_, ?_, ?_⟩
  · obtain ⟨r, hanswer, hfile⟩ := hwins.bodies 1 ⟨"a", "notes.md"⟩ (by decide) rfl
      (fun j b hj (hj' : j < 2) => absurd hj' (by omega))
    cases hanswer
    exact hfile
  · obtain ⟨r, hanswer, hfile⟩ := hwins'.bodies 0 ⟨"b", "notes.md"⟩ (by decide) rfl
      (fun j b hj hj' => absurd hj' (by omega))
    cases hanswer
    exact hfile
  · rw [hwins'.others _ (by decide)]
    decide

end Vendoring
