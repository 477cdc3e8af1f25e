/-
Walks in two trees. What a walk finds depends only on the entries of the tree,
not on what the files hold, and a walk that succeeds met nothing but directories
and links, so it succeeds in every tree that still has them.

* `FileTree.Same`: two trees with the same entries, in whatever order they are
  kept;
* `FileTree.AlikeBut`: two trees with the same entries, but for what files hold
  at some locations; `openAt_alike` says that paths lead to the same places;
* `FileTree.WaysIn`: the directories and links of one tree stand in another;
* `directoryAt_of_waysIn`, `openAt_of_waysIn` (**walks persist**): a directory
  that is reached, or a file that is opened, is so in every tree with the same
  directories and links.  So an entry that goes away can make a walk fail, but
  never lead it elsewhere;
* `of_openAt`: what holds of every place that no link stands at holds of the
  place a path opens;
* `openAt_name`: a path that ends with a name opens that name in the directory
  reached, unless a link stands there.
-/
import Mathlib.Tactic
import Vendoring.FileTree.Walk
import Vendoring.Proofs.Tree

namespace Vendoring

namespace FileTree

variable {t t' t'' : FileTree}

/-! ### Trees with the same entries -/

/-- The same entries at the same locations. -/
def Same (t t' : FileTree) : Prop := ∀ l, t.get? l = t'.get? l

lemma Same.refl (t : FileTree) : t.Same t := fun _ => rfl

lemma Same.symm (h : t.Same t') : t'.Same t := fun l => (h l).symm

lemma Same.insert (h : t.Same t') {l : Location} (hl : l ≠ []) (e : Entry) :
    (t.insert l e).Same (t'.insert l e) := by
  intro k
  rw [get?_insert hl, get?_insert hl, h k]

/-- The same entries at the same locations, but for what files hold at some of
them. -/
def AlikeBut (differ : Location → Prop) (t t' : FileTree) : Prop :=
  ∀ l, t.get? l = t'.get? l ∨
    differ l ∧ ∃ content content', t.get? l = some (.file content) ∧
      t'.get? l = some (.file content')

lemma AlikeBut.refl (differ : Location → Prop) (t : FileTree) : t.AlikeBut differ t :=
  fun _ => Or.inl rfl

lemma Same.alikeBut (h : t.Same t') (differ : Location → Prop) : t.AlikeBut differ t' :=
  fun l => Or.inl (h l)

section Alike

variable {differ : Location → Prop}

/-- More locations may be allowed to differ. -/
lemma AlikeBut.mono {differ' : Location → Prop} (h : t.AlikeBut differ t')
    (hle : ∀ l, differ l → differ' l) : t.AlikeBut differ' t' := by
  intro l
  rcases h l with heq | ⟨hl, hfiles⟩
  · exact Or.inl heq
  · exact Or.inr ⟨hle l hl, hfiles⟩

/-- Two files put at one location make a difference there and nowhere else. -/
lemma AlikeBut.insert (h : t.AlikeBut differ t') {l : Location} (hl : l ≠ [])
    (content content' : Bytes) :
    (t.insert l (.file content)).AlikeBut (fun k => differ k ∨ k = l)
      (t'.insert l (.file content')) := by
  intro k
  rw [get?_insert hl, get?_insert hl]
  by_cases hk : k = l
  · rw [if_pos hk, if_pos hk]
    exact Or.inr ⟨Or.inr hk, content, content', rfl, rfl⟩
  · rw [if_neg hk, if_neg hk]
    exact h.mono (fun _ => Or.inl) k

/-- A walk does not look at what files hold. -/
lemma walkWith_alike {α : Type} (h : t.AlikeBut differ t')
    (follow : Location → List Name → Except FileError α)
    (arrive : Location → Except FileError α) :
    t.walkWith follow arrive = t'.walkWith follow arrive := by
  funext here steps
  induction steps generalizing here with
  | nil => rfl
  | cons n rest ih =>
      rcases h (here ++ [n]) with heq | ⟨_, content, content', hfile, hfile'⟩
      · simp only [walkWith, heq, ih]
      · simp only [walkWith, hfile, hfile', ih]

lemma directoryAt_alike (h : t.AlikeBut differ t') (links : Nat) :
    t.directoryAt links = t'.directoryAt links := by
  induction links with
  | zero => rw [directoryAt, directoryAt, walkWith_alike h]
  | succ links ih => rw [directoryAt, directoryAt, ih, walkWith_alike h]

lemma lastAt_alike (h : t.AlikeBut differ t') (follow : Path → Except FileError Location)
    (n : Name) : t.lastAt follow n = t'.lastAt follow n := by
  funext dir
  rcases h (dir ++ [n]) with heq | ⟨_, content, content', hfile, hfile'⟩
  · rw [lastAt, lastAt, heq]
  · simp only [lastAt, hfile, hfile']

/-- Paths open the same places, whatever the files hold. -/
lemma openAt_alike (h : t.AlikeBut differ t') (access : Access) (links : Nat) :
    t.openAt access links = t'.openAt access links := by
  induction links with
  | zero =>
      funext start route
      obtain ⟨steps, ending⟩ := route
      rcases ending with _ | ⟨n, _ | _⟩
      · simp only [openAt, refuseDirectory, directoryAt_alike h]
      · simp only [openAt, walkWith_alike h, lastAt_alike h]
      · simp only [openAt, refuseDirectory, directoryAt_alike h]
  | succ links ih =>
      funext start route
      obtain ⟨steps, ending⟩ := route
      rcases ending with _ | ⟨n, _ | _⟩
      · simp only [openAt, refuseDirectory, directoryAt_alike h]
      · simp only [openAt, walkWith_alike h, lastAt_alike h, ih]
      · simp only [openAt, refuseDirectory, directoryAt_alike h]

end Alike

/-! ### Trees with the same ways -/

/-- Every directory and every link of `t` also stands in `t'`. -/
def WaysIn (t t' : FileTree) : Prop :=
  ∀ l e, t.get? l = some e → (∀ content, e ≠ .file content) → t'.get? l = some e

lemma Same.waysIn (h : t.Same t') : t.WaysIn t' := fun l _ he _ => (h l).symm.trans he

lemma WaysIn.trans (h : t.WaysIn t') (h' : t'.WaysIn t'') : t.WaysIn t'' :=
  fun l e he hfile => h' l e (h l e he hfile) hfile

/-- Taking an entry away opens no way. -/
lemma erase_waysIn (t : FileTree) {l : Location} (hl : l ≠ []) : (t.erase l).WaysIn t := by
  intro k e he _
  rw [get?_erase hl] at he
  split_ifs at he with hk
  exact he

/-- A file put where nothing or another file stood closes no way. -/
lemma waysIn_insert {l : Location} (hl : l ≠ [])
    (hfile : ∀ e, t.get? l = some e → ∃ old, e = .file old) (content : Bytes) :
    t.WaysIn (t.insert l (.file content)) := by
  intro k e he hnot
  have hk : k ≠ l := by
    rintro rfl
    obtain ⟨old, rfl⟩ := hfile e he
    exact hnot old rfl
  rw [get?_insert hl, if_neg hk]
  exact he

/-- A file that is put anywhere opens no way. -/
lemma insert_waysIn (t : FileTree) {l : Location} (hl : l ≠ []) (content : Bytes) :
    (t.insert l (.file content)).WaysIn t := by
  intro k e he hnot
  rw [get?_insert hl] at he
  split_ifs at he with hk
  · cases he
    exact absurd rfl (hnot content)
  · exact he

/-- A walk that succeeds does so in every tree with the same ways, as long as
what takes over at a link and at the end succeeds there too. -/
lemma walkWith_of_waysIn {α : Type} (h : t.WaysIn t')
    {follow follow' : Location → List Name → Except FileError α}
    {arrive arrive' : Location → Except FileError α}
    (hfollow : ∀ here rest a, follow here rest = .ok a → follow' here rest = .ok a)
    (harrive : ∀ dir a, arrive dir = .ok a → arrive' dir = .ok a)
    {steps : List Name} {here : Location} {a : α}
    (hw : t.walkWith follow arrive here steps = .ok a) :
    t'.walkWith follow' arrive' here steps = .ok a := by
  induction steps generalizing here with
  | nil => exact harrive here a hw
  | cons n rest ih =>
      rw [walkWith] at hw ⊢
      split_ifs at hw ⊢ with hhere hup hlong
      · exact ih hw
      · exact ih hw
      · cases hg : t.get? (here ++ [n]) with
        | none => simp [hg] at hw
        | some e =>
            cases e with
            | file content => simp [hg] at hw
            | directory =>
                rw [hg] at hw
                rw [h _ _ hg (by simp)]
                exact ih hw
            | link target =>
                rw [hg] at hw
                rw [h _ _ hg (by simp)]
                exact hfollow _ _ _ hw

/-- **Walks persist**: a directory that is reached is reached in every tree
that has the directories and links of the first. -/
theorem directoryAt_of_waysIn (h : t.WaysIn t') {links : Nat} {start d : Location}
    {steps : List Name} (hd : t.directoryAt links start steps = .ok d) :
    t'.directoryAt links start steps = .ok d := by
  induction links generalizing start steps d with
  | zero =>
      rw [directoryAt] at hd ⊢
      exact walkWith_of_waysIn h (fun _ _ _ hf => hf) (fun _ _ ha => ha) hd
  | succ links ih =>
      rw [directoryAt] at hd ⊢
      exact walkWith_of_waysIn h (fun _ _ _ hf => ih hf) (fun _ _ ha => ha) hd

/-! ### What a path opens -/

/-- What a walk ends with, it has from a link or from the directory reached. -/
lemma of_walkWith {α : Type} {P : α → Prop} {follow : Location → List Name → Except FileError α}
    {arrive : Location → Except FileError α}
    (hfollow : ∀ here rest a, follow here rest = .ok a → P a)
    (harrive : ∀ dir a, arrive dir = .ok a → P a) {here : Location} {steps : List Name} {a : α}
    (h : t.walkWith follow arrive here steps = .ok a) : P a := by
  induction steps generalizing here with
  | nil => exact harrive here a h
  | cons n rest ih =>
      rw [walkWith] at h
      split_ifs at h
      · exact ih h
      · exact ih h
      · split at h
        · cases h
        · cases h
        · exact ih h
        · exact hfollow _ _ _ h

lemma refuseDirectory_ne_ok {links : Nat} {start l : Location} {steps : List Name} :
    t.refuseDirectory links start steps ≠ .ok l := by
  intro h
  rw [refuseDirectory] at h
  split at h <;> cases h

/-- A place found at the end of a path is that of the last name, which is not too
long, and no link stands there, or it was found behind a link. -/
lemma of_lastAt {P : Location → Prop} {follow : Path → Except FileError Location} {n : Name}
    {dir l : Location}
    (hfollow : ∀ target, t.get? (dir ++ [n]) = some (.link target) → follow target = .ok l → P l)
    (hplace : n.length ≤ nameLimit → (∀ target, t.get? (dir ++ [n]) ≠ some (.link target)) →
      P (dir ++ [n]))
    (h : t.lastAt follow n dir = .ok l) : P l := by
  rw [lastAt] at h
  split_ifs at h with hlong
  split at h
  · next target htarget => exact hfollow target htarget h
  · next hlink =>
    cases h
    exact hplace (by omega) hlink

/-- **What a path opens** is a place where no link stands, with a name that is not
too long and that the path or the target of a link ends with. -/
lemma of_openAt {P : Location → Prop} {Q : Name → Prop}
    (hplace : ∀ dir n, Q n → n.length ≤ nameLimit →
      (∀ target, t.get? (dir ++ [n]) ≠ some (.link target)) → P (dir ++ [n]))
    (hlinks : ∀ l target n slashed, t.get? l = some (.link target) →
      (Route.ofPath target).ending = .name n slashed → Q n)
    {access : Access} {links : Nat} {start l : Location} {route : Route}
    (hroute : ∀ n slashed, route.ending = .name n slashed → Q n)
    (h : t.openAt access links start route = .ok l) : P l := by
  induction links generalizing start route l with
  | zero =>
      obtain ⟨steps, ending⟩ := route
      rcases ending with _ | ⟨n, _ | _⟩
      · rw [openAt] at h
        exact absurd h refuseDirectory_ne_ok
      · rw [openAt] at h
        refine of_walkWith (fun _ _ _ hf => by cases hf) (fun dir l hl => ?_) h
        exact of_lastAt (fun _ _ hf => by cases hf) (hplace dir n (hroute n false rfl)) hl
      · rw [openAt] at h
        exact absurd h refuseDirectory_ne_ok
  | succ links ih =>
      obtain ⟨steps, ending⟩ := route
      rcases ending with _ | ⟨n, _ | _⟩
      · rw [openAt] at h
        exact absurd h refuseDirectory_ne_ok
      · -- a link on the way keeps the ending, a link at the end brings its own
        rw [openAt] at h
        refine of_walkWith (fun here rest l hl => ?_) (fun dir l hl => ?_) h
        · refine ih (fun m slashed hm => ?_) hl
          cases hm
          exact hroute n false rfl
        · refine of_lastAt (fun target htarget hf => ?_) (hplace dir n (hroute n false rfl)) hl
          exact ih (fun m slashed => hlinks _ target m slashed htarget) hf
      · rw [openAt] at h
        exact absurd h refuseDirectory_ne_ok

/-- A path opens neither the root nor a link. -/
lemma openAt_place {access : Access} {links : Nat} {start l : Location} {route : Route}
    (h : t.openAt access links start route = .ok l) :
    l ≠ [] ∧ ∀ target, t.get? l ≠ some (.link target) :=
  of_openAt (P := fun l => l ≠ [] ∧ ∀ target, t.get? l ≠ some (.link target))
    (Q := fun _ => True) (fun _ _ _ _ hlink => ⟨by simp, hlink⟩) (fun _ _ _ _ _ _ => trivial)
    (fun _ _ _ => trivial) h

lemma lastAt_of_waysIn (h : t'.WaysIn t) (h' : t.WaysIn t')
    {follow follow' : Path → Except FileError Location}
    (hfollow : ∀ target l, follow target = .ok l → follow' target = .ok l) {n : Name}
    {dir l : Location} (hl : t.lastAt follow n dir = .ok l) :
    t'.lastAt follow' n dir = .ok l := by
  rw [lastAt] at hl ⊢
  split_ifs at hl ⊢
  split at hl
  · next target hg =>
    rw [h' _ _ hg (by simp)]
    exact hfollow target l hl
  · next hlink =>
    cases hl
    split
    · next target hg => exact absurd (h _ _ hg (by simp)) (hlink target)
    · rfl

/-- **Opening persists**: a path opens the same place in every tree with the same
directories and links, for whatever it is opened. -/
theorem openAt_of_waysIn (h : t'.WaysIn t) (h' : t.WaysIn t') {access access' : Access}
    {links : Nat} {start l : Location} {route : Route}
    (hl : t.openAt access links start route = .ok l) :
    t'.openAt access' links start route = .ok l := by
  induction links generalizing start route l with
  | zero =>
      obtain ⟨steps, ending⟩ := route
      rcases ending with _ | ⟨n, _ | _⟩
      · rw [openAt] at hl
        exact absurd hl refuseDirectory_ne_ok
      · rw [openAt] at hl ⊢
        exact walkWith_of_waysIn h' (fun _ _ _ hf => hf)
          (fun _ _ ha => lastAt_of_waysIn h h' (fun _ _ hf => hf) ha) hl
      · rw [openAt] at hl
        exact absurd hl refuseDirectory_ne_ok
  | succ links ih =>
      obtain ⟨steps, ending⟩ := route
      rcases ending with _ | ⟨n, _ | _⟩
      · rw [openAt] at hl
        exact absurd hl refuseDirectory_ne_ok
      · rw [openAt] at hl ⊢
        exact walkWith_of_waysIn h' (fun _ _ _ hf => ih hf)
          (fun _ _ ha => lastAt_of_waysIn h h' (fun _ _ hf => ih hf) ha) hl
      · rw [openAt] at hl
        exact absurd hl refuseDirectory_ne_ok

/-! ### Opening a name -/

/-- The location of the name `n` in `dir`, where no link stands. -/
def placeIn (n : Name) (dir : Location) : Except FileError Location :=
  if nameLimit < n.length then .error .nameTooLong else .ok (dir ++ [n])

lemma lastAt_eq_placeIn {follow : Path → Except FileError Location} {n : Name} {d : Location}
    (hlink : ∀ target, t.get? (d ++ [n]) ≠ some (.link target)) :
    t.lastAt follow n d = placeIn n d := by
  rw [lastAt, placeIn]
  split
  · rfl
  · split
    · next target hg => exact absurd hg (hlink target)
    · rfl

/-- Two walks along the same names agree if they agree where they are handed
on. The end that `arrive` sees is the one that the first walk reports. -/
lemma walkWith_bind {follow : Location → List Name → Except FileError Location}
    {follow' : Location → List Name → Except FileError Location}
    {arrive' next : Location → Except FileError Location} {steps : List Name} {here : Location}
    (hfollow : ∀ here' rest,
      t.walkWith follow .ok here steps = follow here' rest →
        follow' here' rest = (follow here' rest).bind next)
    (harrive : ∀ d, t.walkWith follow .ok here steps = .ok d → arrive' d = next d) :
    t.walkWith follow' arrive' here steps = (t.walkWith follow .ok here steps).bind next := by
  induction steps generalizing here with
  | nil => exact harrive here rfl
  | cons n rest ih =>
      rw [walkWith] at hfollow harrive ⊢
      rw [walkWith]
      split_ifs at hfollow harrive ⊢ with hhere hup hlong
      · exact ih hfollow harrive
      · exact ih hfollow harrive
      · rfl
      · cases hg : t.get? (here ++ [n]) with
        | none => rfl
        | some e =>
            simp only [hg] at hfollow harrive ⊢
            cases e with
            | file content => rfl
            | directory => exact ih hfollow harrive
            | link target => exact hfollow _ _ rfl

/-- A path that ends with a name opens that name in the directory reached,
unless a link stands there. -/
lemma openAt_name {access : Access} {links : Nat} {start : Location} {steps : List Name}
    {n : Name}
    (hlink : ∀ d target, t.directoryAt links start steps = .ok d →
      t.get? (d ++ [n]) ≠ some (.link target)) :
    t.openAt access links start ⟨steps, .name n false⟩ =
      (t.directoryAt links start steps).bind (placeIn n) := by
  induction links generalizing start steps with
  | zero =>
      rw [directoryAt] at hlink ⊢
      rw [openAt]
      exact walkWith_bind (fun _ _ _ => rfl) fun d hd =>
        lastAt_eq_placeIn fun target => hlink d target hd
  | succ links ih =>
      rw [directoryAt] at hlink ⊢
      rw [openAt]
      refine walkWith_bind (fun here rest hw => ih fun d target hd => ?_) fun d hd =>
        lastAt_eq_placeIn fun target => hlink d target hd
      exact hlink d target (hw.trans hd)

end FileTree

end Vendoring
