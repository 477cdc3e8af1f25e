/-
The paths of the entries of a directory. A directory's path joined with the
bare name of an entry has one part, one component and one place in the order
of paths more than the directory's path, whatever that path looks like.

* `Name.Proper`: a name that can only stand for an entry;
* `parts_join`, `ofPath_join`: the joined path walks to the directory and ends
  with the name;
* `components_join`, `le_join_join`: the joined paths of two entries are
  ordered as the bytes of the two names;
* `Name.proper_of_marks`: a bare name that a rule marks is proper.
-/
import Mathlib.Tactic
import Vendoring.Rule
import Vendoring.FileTree.Walk

namespace Vendoring

/-- A name that can only stand for an entry: it is not empty, neither stays in
the directory nor leaves it, and has no separator. -/
structure Name.Proper (n : Name) : Prop where
  ne_nil : n ≠ []
  ne_here : n ≠ Name.here
  ne_up : n ≠ Name.up
  bare : slash ∉ n

/-! ### Cutting at separators -/

lemma splitSlashes_ne_nil (b : Bytes) : splitSlashes b ≠ [] := by
  cases b with
  | nil => simp [splitSlashes]
  | cons x rest =>
      rw [splitSlashes]
      split
      · simp
      · split <;> simp

/-- A separator divides a byte string into two that are cut on their own. -/
lemma splitSlashes_append_slash (a b : Bytes) :
    splitSlashes (a ++ slash :: b) = splitSlashes a ++ splitSlashes b := by
  induction a with
  | nil => simp [splitSlashes]
  | cons x rest ih =>
      by_cases hx : x = slash
      · simp [splitSlashes, hx, ih]
      · rw [List.cons_append, splitSlashes, splitSlashes, if_neg hx, if_neg hx, ih]
        cases hr : splitSlashes rest with
        | nil => exact absurd hr (splitSlashes_ne_nil rest)
        | cons part parts => simp

/-- The bytes of a part are bytes of the whole, and none of them is a separator. -/
lemma mem_of_mem_splitSlashes {b part : Bytes} {x : UInt8} (h : part ∈ splitSlashes b)
    (hx : x ∈ part) : x ∈ b ∧ x ≠ slash := by
  induction b generalizing part with
  | nil =>
      rw [List.mem_singleton.mp h] at hx
      cases hx
  | cons y rest ih =>
      rw [splitSlashes] at h
      split_ifs at h with hy
      · rcases List.mem_cons.mp h with rfl | hmem
        · cases hx
        · exact (ih hmem hx).imp_left (List.mem_cons_of_mem y)
      · cases hr : splitSlashes rest with
        | nil => exact absurd hr (splitSlashes_ne_nil rest)
        | cons first parts =>
            rw [hr] at h ih
            rcases List.mem_cons.mp h with rfl | hmem
            · rcases List.mem_cons.mp hx with rfl | hx
              · exact ⟨List.mem_cons_self, hy⟩
              · exact (ih List.mem_cons_self hx).imp_left (List.mem_cons_of_mem y)
            · exact (ih (List.mem_cons_of_mem _ hmem) hx).imp_left (List.mem_cons_of_mem y)

/-- Without a separator there is nothing to cut. -/
lemma splitSlashes_eq_singleton {b : Bytes} (h : slash ∉ b) : splitSlashes b = [b] := by
  induction b with
  | nil => rfl
  | cons x rest ih =>
      rw [List.mem_cons, not_or] at h
      rw [splitSlashes, if_neg (Ne.symm h.1), ih h.2]

namespace Path

variable {dir : Path} {n : Name}

lemma isAbsolute_eq_false (hn : slash ∉ n) : Path.isAbsolute ⟨n⟩ = false := by
  cases n with
  | nil => rfl
  | cons x rest =>
      rw [List.mem_cons, not_or] at hn
      simpa [isAbsolute] using Ne.symm hn.1

lemma parts_mk (hn : n ≠ []) (hs : slash ∉ n) : Path.parts ⟨n⟩ = [n] := by
  simp [parts, splitSlashes_eq_singleton hs, hn]

/-- The three ways a bare name is put behind a directory's path. -/
lemma join_cases (dir : Path) (hn : slash ∉ n) :
    (dir.bytes = [] ∧ dir.join ⟨n⟩ = ⟨n⟩) ∨
    (∃ a, dir.bytes = a ++ [slash] ∧ dir.join ⟨n⟩ = ⟨a ++ slash :: n⟩) ∨
    dir.join ⟨n⟩ = ⟨dir.bytes ++ slash :: n⟩ := by
  rw [join, isAbsolute_eq_false hn, if_neg Bool.false_ne_true]
  by_cases hslash : dir.needsSlash
  · exact Or.inr (Or.inr (if_pos hslash))
  rw [if_neg hslash]
  cases hb : dir.bytes using List.reverseRecOn with
  | nil => exact Or.inl ⟨rfl, rfl⟩
  | append_singleton a x =>
      have hx : x = slash := by
        simpa [needsSlash, hb] using hslash
      refine Or.inr (Or.inl ⟨a, by rw [hx], ?_⟩)
      rw [hx, List.append_assoc]
      rfl

/-- The joined path has the parts of the directory's path and the name. -/
lemma parts_join (hn : Name.Proper n) : (dir.join ⟨n⟩).parts = dir.parts ++ [n] := by
  have hsplit : ∀ a : Bytes, Path.parts ⟨a ++ slash :: n⟩ = Path.parts ⟨a⟩ ++ [n] := by
    intro a
    rw [← parts_mk hn.ne_nil hn.bare, parts, splitSlashes_append_slash, List.filter_append]
    rfl
  rcases join_cases dir hn.bare with ⟨hdir, hj⟩ | ⟨a, hdir, hj⟩ | hj
  · rw [hj, parts_mk hn.ne_nil hn.bare, parts, hdir]
    rfl
  · -- the separator at the end of `dir` only adds an empty part
    have hd : dir.parts = Path.parts ⟨a⟩ := by
      rw [parts, hdir, splitSlashes_append_slash, List.filter_append]
      simp [parts, splitSlashes]
    rw [hj, hsplit, hd]
  · rw [hj, hsplit]

/-- The bytes of the directory's path stand at the front of the joined one, and
nothing but a separator comes between them and the name. -/
lemma bytes_join (dir : Path) (hn : slash ∉ n) :
    ∃ middle, (dir.join ⟨n⟩).bytes = dir.bytes ++ middle ++ n ∧ ∀ b ∈ middle, b = slash := by
  rcases join_cases dir hn with ⟨h, hj⟩ | ⟨a, ha, hj⟩ | hj
  · exact ⟨[], by simp [hj, h]⟩
  · exact ⟨[], by simp [hj, ha]⟩
  · exact ⟨[slash], by simp [hj]⟩

/-- The joined path starts where the directory's path starts. -/
lemma isAbsolute_join (dir : Path) (hn : slash ∉ n) :
    (dir.join ⟨n⟩).isAbsolute = dir.isAbsolute := by
  cases hb : dir.bytes with
  | nil =>
      have hjoin : dir.join ⟨n⟩ = ⟨n⟩ := by
        simp [join, isAbsolute_eq_false hn, needsSlash, hb]
      rw [hjoin, isAbsolute_eq_false hn, isAbsolute, hb]
      rfl
  | cons x rest =>
      obtain ⟨middle, hbytes, _⟩ := bytes_join dir hn
      rw [isAbsolute, isAbsolute, hbytes, hb]
      rfl

/-- The joined path walks to the directory and ends with the name. -/
lemma ofPath_join (hn : Name.Proper n) :
    FileTree.Route.ofPath (dir.join ⟨n⟩) = ⟨dir.parts, .name n false⟩ := by
  have hlast : (dir.join ⟨n⟩).bytes.getLast? ≠ some slash := by
    obtain ⟨middle, hb, _⟩ := bytes_join dir hn.bare
    rw [hb, List.getLast?_append_of_ne_nil _ hn.ne_nil]
    intro h
    exact hn.bare (List.mem_of_getLast? h)
  have hdots : ¬ (n = Name.here ∨ n = Name.up) := not_or.mpr ⟨hn.ne_here, hn.ne_up⟩
  rw [FileTree.Route.ofPath, parts_join hn, List.getLast?_concat]
  simp [hdots, hlast]

/-! ### The order of paths -/

lemma ofPart_eq_normal (hn : Name.Proper n) : Component.ofPart n = .normal n := by
  rw [Component.ofPart, if_neg hn.ne_here, if_neg hn.ne_up]

/-- The joined path has one component more than the directory's path. -/
lemma components_join (dir : Path) (hn : Name.Proper n) :
    (dir.join ⟨n⟩).components = dir.components ++ [.normal n] := by
  rw [components, components, isAbsolute_join dir hn.bare, parts_join hn, List.map_append,
    List.map_singleton, ofPart_eq_normal hn]
  split
  · simp
  · cases hp : dir.parts.map Component.ofPart with
    | nil => simp
    | cons x rest => cases x <;> simp

lemma Component.lt_irrefl (a : Component) : Component.lt a a = false := by
  cases a <;> simp [Component.lt]

/-- A common front does not count in the order. -/
lemma Component.listLe_append_left (cs as bs : List Component) :
    Component.listLe (cs ++ as) (cs ++ bs) = Component.listLe as bs := by
  induction cs with
  | nil => rfl
  | cons c cs ih =>
      simp [Component.listLe, Component.lt_irrefl, ih]

/-- The paths of two entries of a directory are ordered as their names. -/
lemma le_join_join (dir : Path) {m : Name} (hm : Name.Proper m) (hn : Name.Proper n) :
    (dir.join ⟨m⟩).le (dir.join ⟨n⟩) = decide (m ≤ n) := by
  rw [le, components_join dir hm, components_join dir hn, Component.listLe_append_left,
    Bool.eq_iff_iff]
  simp [Component.listLe, Component.lt, List.le_iff_lt_or_eq]

end Path

/-! ### Marked names -/

/-- A name without a separator that a rule accepts is proper: the other names
have no extension. -/
lemma Name.proper_of_accepts {rule : Rule} {n : Name} (hbare : slash ∉ n)
    (h : rule.accepts n = true) : Name.Proper n := by
  have hext : (Path.extension? ⟨n⟩).isSome := by
    rw [Rule.accepts, Bool.and_eq_true, beq_iff_eq] at h
    rw [h.2]
    rfl
  refine ⟨?_, ?_, ?_, hbare⟩
  · rintro rfl
    simp [Path.extension?, Path.fileName?, Path.components, Path.parts, Path.isAbsolute,
      splitSlashes] at hext
  · rintro rfl
    revert hext
    decide
  · rintro rfl
    revert hext
    decide

lemma Name.proper_of_marks {rule : Rule} {n : Name} (hbare : slash ∉ n)
    (h : rule.marks n = true) : Name.Proper n := by
  rw [Rule.marks, Bool.and_eq_true] at h
  exact Name.proper_of_accepts hbare h.2

end Vendoring
