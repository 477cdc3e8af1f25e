/-
Target directories and roots.

* `Path.join_of_relative`, `Path.join_assoc` (**joining is associative**), whatever
  the three paths look like;
* `Config.rootedAt_eq`: taking a target directory from a root is joining, also if
  it is absolute;
* `Given.Rooted`, `rooted_of_parse`: a command line never names an empty root; one
  argument keeps this, and so do all of them;
* `rootedAt_composes` (**roots compose**), with what follows for the configuration
  that a command line asks for.
-/
import Mathlib.Tactic
import Vendoring.Program

namespace Vendoring

/-! ### Joining three paths -/

namespace Path

/-- What is put between a path and what is joined to it. -/
def separator (p : Path) : Bytes := if p.needsSlash then [slash] else []

lemma join_of_absolute {q : Path} (hq : q.isAbsolute = true) (p : Path) : p.join q = q := by
  rw [join, if_pos hq]

lemma join_of_relative {q : Path} (hq : q.isAbsolute = false) (p : Path) :
    p.join q = ⟨p.bytes ++ p.separator ++ q.bytes⟩ := by
  rw [join, hq, if_neg Bool.false_ne_true, separator]
  split <;> simp

/-- A path that is longer starts where it started. -/
lemma isAbsolute_append {p : Path} (hp : p.bytes ≠ []) (more : Bytes) :
    Path.isAbsolute ⟨p.bytes ++ more⟩ = p.isAbsolute := by
  obtain ⟨x, rest, hx⟩ := List.exists_cons_of_ne_nil hp
  rw [isAbsolute, isAbsolute, hx]
  rfl

lemma bytes_ne_nil_of_isAbsolute {p : Path} (hp : p.isAbsolute = true) : p.bytes ≠ [] := by
  intro h
  rw [isAbsolute, h] at hp
  cases hp

/-- A joined path is absolute if one of the two is. -/
lemma isAbsolute_join_iff {p q : Path} :
    (p.join q).isAbsolute = true ↔ p.isAbsolute = true ∨ q.isAbsolute = true := by
  by_cases hq : q.isAbsolute = true
  · simp [join_of_absolute hq, hq]
  · rw [join_of_relative (by simpa using hq), List.append_assoc]
    by_cases hp : p.bytes = []
    · have hempty : p.isAbsolute = false := by rw [isAbsolute, hp]; rfl
      have hjoin : p.separator = [] := by rw [separator, needsSlash, hp]; rfl
      rw [hp, hjoin, hempty]
      simp
    · rw [isAbsolute_append hp]
      simp [hq]

lemma bytes_join_ne_nil {p : Path} (hp : p.bytes ≠ []) (q : Path) : (p.join q).bytes ≠ [] := by
  by_cases hq : q.isAbsolute = true
  · rw [join_of_absolute hq]
    exact bytes_ne_nil_of_isAbsolute hq
  · rw [join_of_relative (by simpa using hq)]
    simp [hp]

/-- What stands in front of an empty name needs no separator. -/
lemma separator_append_nil (p : Path) : Path.separator ⟨p.bytes ++ p.separator⟩ = [] := by
  rw [separator, separator]
  split_ifs with hslash hagain hagain
  · simp [needsSlash] at hagain
  · rfl
  · rw [List.append_nil] at hagain
    exact absurd hagain hslash
  · rfl

lemma separator_append {q : Path} (hq : q.bytes ≠ []) (front : Bytes) :
    Path.separator ⟨front ++ q.bytes⟩ = q.separator := by
  rw [separator, separator, needsSlash, needsSlash, List.getLast?_append_of_ne_nil _ hq]
  simp [hq]

/-- **Joining is associative.** -/
theorem join_assoc (p q r : Path) : p.join (q.join r) = (p.join q).join r := by
  by_cases hr : r.isAbsolute = true
  · rw [join_of_absolute hr, join_of_absolute hr, join_of_absolute hr]
  by_cases hq : q.isAbsolute = true
  · have hqr : (q.join r).isAbsolute = true := isAbsolute_join_iff.mpr (Or.inl hq)
    rw [join_of_absolute hqr, join_of_absolute hq]
  -- all three parts are kept, and the separators depend on the part before
  have hqr : (q.join r).isAbsolute = false := by
    rw [Bool.eq_false_iff, Ne, isAbsolute_join_iff]
    exact not_or.mpr ⟨hq, hr⟩
  rw [join_of_relative hqr, join_of_relative (by simpa using hr),
    join_of_relative (by simpa using hr), join_of_relative (by simpa using hq)]
  by_cases hnil : q.bytes = []
  · have hjoin : q.separator = [] := by rw [separator, needsSlash, hnil]; rfl
    simp only [hnil, hjoin, List.nil_append, List.append_nil, separator_append_nil]
  · rw [separator_append hnil]
    simp only [List.append_assoc]

end Path

/-! ### Roots -/

namespace Config

/-- Taking a target directory from a root is joining the two. -/
lemma rootedAt_eq (c : Config) (root : Path) :
    c.rootedAt root = { c with targetDir := root.join c.targetDir } := by
  rw [rootedAt]
  split
  · next habsolute => rw [Path.join_of_absolute habsolute]
  · rfl

end Config

/-! ### Roots on the command line -/

lemma bind_eq_ok_iff {ε α β : Type} {x : Except ε α} {f : α → Except ε β} {b : β} :
    x >>= f = .ok b ↔ ∃ a, x = .ok a ∧ f a = .ok b := by
  cases x with
  | error e => simp [bind, Except.bind]
  | ok a => simp [bind, Except.bind]

/-- The root, if one is given, is not empty. -/
def Given.Rooted (g : Given) : Prop := ∀ p, g.root = some p → p.bytes ≠ []

section Rooted

variable {g g' : Given} {p q : Progress}

lemma Given.Rooted.accept (h : g.Rooted) {o : Valued} {value : Bytes}
    (hg : g.accept o value = .ok g') : g'.Rooted := by
  cases o with
  | root =>
      rw [Given.accept] at hg
      split_ifs at hg with htwice hempty
      cases hg
      rintro _ ⟨⟩
      simpa using hempty
  | config =>
      rw [Given.accept] at hg
      split_ifs at hg
      cases hg
      exact h
  | timeout =>
      rw [Given.accept] at hg
      split_ifs at hg
      split at hg
      · cases hg
        exact h
      · cases hg

lemma Given.Rooted.settle (h : p.given.Rooted) (hg : p.settle = .ok g) : g.Rooted := by
  rw [Progress.settle] at hg
  cases hp : p.pending with
  | nothing =>
      rw [hp] at hg
      cases hg
      exact h
  | awaiting o =>
      rw [hp] at hg
      cases hg
  | holding o value =>
      rw [hp] at hg
      exact h.accept hg

/-- **One option** keeps it. -/
lemma Given.Rooted.long (h : p.given.Rooted) {name : Bytes} {value : Option Bytes}
    (hq : p.long name value = .ok q) : q.given.Rooted := by
  rw [Progress.long] at hq
  split at hq
  · obtain ⟨g, hg, hq⟩ := bind_eq_ok_iff.mp hq
    cases value with
    | none =>
        cases hq
        exact h.settle hg
    | some v =>
        obtain ⟨g', hg', hq⟩ := bind_eq_ok_iff.mp hq
        cases hq
        exact (h.settle hg).accept hg'
  · split_ifs at hq
    · obtain ⟨g, hg, hq⟩ := bind_eq_ok_iff.mp hq
      split_ifs at hq
      cases hq
      have hrooted := h.settle hg
      exact hrooted
    · obtain ⟨g, hg, hq⟩ := bind_eq_ok_iff.mp hq
      cases hq

lemma Progress.short_ne_ok (p q : Progress) (letters : Bytes) : p.short letters ≠ .ok q := by
  intro hq
  rw [Progress.short] at hq
  split at hq
  · obtain ⟨_, _, hq⟩ := bind_eq_ok_iff.mp hq
    cases hq
  · cases hq

/-- The arguments after a command keep it. -/
lemma Given.Rooted.scanAfter {args : List Bytes} (h : p.given.Rooted)
    (hg : Vendoring.scanAfter p args = .ok g) : g.Rooted := by
  induction args generalizing p with
  | nil => exact h.settle hg
  | cons a rest ih =>
      rw [Vendoring.scanAfter] at hg
      split at hg
      · split at hg
        · exact h.settle hg
        · cases hg
      · obtain ⟨q, hq, hg⟩ := bind_eq_ok_iff.mp hg
        exact ih (h.long hq) hg
      · obtain ⟨q, hq, _⟩ := bind_eq_ok_iff.mp hg
        exact absurd hq (p.short_ne_ok q _)
      · split at hg
        · next o _ => exact ih (p := ⟨p.given, .holding o a⟩) h hg
        · cases hg

lemma Given.Rooted.override (h : g.Rooted) (h' : g'.Rooted) : (g.override g').Rooted := by
  intro p hp
  rw [Given.override, Option.or_eq_some_iff] at hp
  rcases hp with hp | ⟨_, hp⟩
  · exact h' p hp
  · exact h p hp

/-- So do those from the start of the line. -/
lemma Given.Rooted.scanBefore {args : List Bytes} {a : Arguments} (h : p.given.Rooted)
    (ha : Vendoring.scanBefore p args = .ok a) : a.options.Rooted := by
  induction args generalizing p with
  | nil =>
      obtain ⟨g, hg, ha⟩ := bind_eq_ok_iff.mp ha
      cases ha
      exact h.settle hg
  | cons b rest ih =>
      rw [Vendoring.scanBefore.eq_def] at ha
      simp only at ha
      split at ha
      · split at ha
        · obtain ⟨g, hg, ha⟩ := bind_eq_ok_iff.mp ha
          cases ha
          exact h.settle hg
        · cases ha
      · obtain ⟨q, hq, ha⟩ := bind_eq_ok_iff.mp ha
        exact ih (h.long hq) ha
      · obtain ⟨q, hq, _⟩ := bind_eq_ok_iff.mp ha
        exact absurd hq (p.short_ne_ok q _)
      · split at ha
        · next o _ => exact ih (p := ⟨p.given, .holding o b⟩) h ha
        · split at ha
          · obtain ⟨after, hafter, ha⟩ := bind_eq_ok_iff.mp ha
            obtain ⟨before, hbefore, ha⟩ := bind_eq_ok_iff.mp ha
            cases ha
            have hnone : Given.Rooted {} := fun _ hp => by cases hp
            exact (h.settle hbefore).override (Given.Rooted.scanAfter (p := {}) hnone hafter)
          · cases ha

/-- **No command line** names an empty root. -/
lemma rooted_of_parse {args : List Bytes} {a : Arguments} (h : Arguments.parse args = .ok a) :
    a.options.Rooted :=
  Given.Rooted.scanBefore (p := {}) (fun _ hp => by cases hp) h

end Rooted

/-! ### Roots compose -/

lemma isAbsolute_currentPath (w : Workspace) : w.currentPath.isAbsolute = true := rfl

/-- The target directory that a command line asks for is joined to the root. -/
lemma targetDir_of_buildConfig {w : Workspace} {options : Given} {built : Config} {trace : Trace}
    (h : buildConfig w options = .ok (built, trace)) :
    ∃ c, Config.load w options.config = .ok (c, trace) ∧
      built.targetDir = (options.root.getD w.currentPath).join c.targetDir := by
  rw [buildConfig] at h
  cases hload : Config.load w options.config with
  | error e =>
      rw [hload] at h
      cases h
  | ok loaded =>
      obtain ⟨c, trace'⟩ := loaded
      simp only [hload, Except.ok.injEq, Prod.mk.injEq] at h
      obtain ⟨rfl, rfl⟩ := h
      refine ⟨c, rfl, ?_⟩
      rw [Config.rootedAt_eq]
      split <;> rfl

/-- **Roots compose**: an artifact's path is taken from a root as the target
directory is, and two roots are taken one from the other.  Nothing but the target
directory changes, and an absolute root is taken once.  The configuration that a
command line asks for has a target directory, which is absolute unless a relative
root is given. -/
theorem rootedAt_composes :
    (∀ (c : Config) (b : Path) (x : Artifact),
      (c.rootedAt b).targetPath x = b.join (c.targetPath x)) ∧
    (∀ (c : Config) (a b : Path), (c.rootedAt a).rootedAt b = c.rootedAt (b.join a)) ∧
    (∀ (c : Config) (b : Path),
      c.rootedAt b = { c with targetDir := (c.rootedAt b).targetDir }) ∧
    (∀ (c : Config) (b : Path), b.isAbsolute = true →
      (c.rootedAt b).rootedAt b = c.rootedAt b) ∧
    ∀ args w asked built trace, Arguments.parse args = .ok asked →
      buildConfig w asked.options = .ok (built, trace) →
      built.targetDir.bytes ≠ [] ∧
        ((∀ root, asked.options.root = some root → root.isAbsolute = true) →
          built.targetDir.isAbsolute = true) := by
  have htwice : ∀ (c : Config) (a b : Path),
      (c.rootedAt a).rootedAt b = c.rootedAt (b.join a) := by
    intro c a b
    simp only [Config.rootedAt_eq, Path.join_assoc]
  refine ⟨fun c b x => ?_, htwice, fun c b => ?_, fun c b hb => ?_,
    fun args w asked built trace hparse hbuild => ?_⟩
  · rw [Config.rootedAt_eq, Config.targetPath, Config.targetPath, Path.join_assoc]
  · rw [Config.rootedAt_eq]
  · rw [htwice, Path.join_of_absolute hb]
  · have hrooted := rooted_of_parse hparse
    obtain ⟨c, _, htarget⟩ := targetDir_of_buildConfig hbuild
    rw [htarget]
    cases hroot : asked.options.root with
    | none =>
        have hcurrent := isAbsolute_currentPath w
        exact ⟨Path.bytes_join_ne_nil (Path.bytes_ne_nil_of_isAbsolute hcurrent) _,
          fun _ => Path.isAbsolute_join_iff.mpr (Or.inl hcurrent)⟩
    | some root =>
        exact ⟨Path.bytes_join_ne_nil (hrooted root hroot) _,
          fun habsolute => Path.isAbsolute_join_iff.mpr (Or.inl (habsolute root rfl))⟩

theorem rootedAt_composes_sample :
    (Config.standard.rootedAt (.ofString "/srv/")).rootedAt (.ofString "/srv/") =
        Config.standard.rootedAt (.ofString "/srv/") ∧
      ∃ built trace,
        buildConfig ⟨.empty, []⟩ { root := some (.ofString "/srv/") } = .ok (built, trace) ∧
          built.targetDir.bytes ≠ [] ∧ built.targetDir.isAbsolute = true := by
  obtain ⟨_, _, _, honce, hbuilt⟩ := rootedAt_composes
  have hparse : Arguments.parse [Bytes.ofString "--root", Bytes.ofString "/srv/"] =
      .ok ⟨none, { root := some (.ofString "/srv/") }⟩ := by decide
  obtain ⟨hne, habsolute⟩ := hbuilt _ ⟨.empty, []⟩ _ _ _ hparse rfl
  exact ⟨honce _ _ (by decide), _, _, rfl, hne, habsolute (by decide)⟩

end Vendoring
