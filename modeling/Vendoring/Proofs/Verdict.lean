/-
The verdict on a configuration: what is accepted, and what is reported of the
rest.

* `Config.HasSeparator`, `Config.isBare_iff`: a name has a separator exactly when
  one of the two characters stands in it;
* `Config.firstFault?_eq_some_iff`: the loop over names reports the fault of the
  first name that has one, judged against the names before it;
* `Config.FaultAt`, `Config.validate_eq_error_iff`: the artifact of an index and
  the first of the three tests that it fails, and that the verdict names the
  smallest such index;
* `Config.Valid.components_targetPath`: the files of an accepted configuration
  stand directly below the target directory, however that is spelt;
* `Config.validate_verdict` (**the verdict**): all of this together.
-/
import Mathlib.Tactic
import Vendoring.Proofs.Ascii
import Vendoring.Proofs.Validation

namespace Vendoring

namespace Config

variable {c : Config}

/-! ### The first fault among names -/

/-- The name has a separator of some system. -/
def HasSeparator (name : String) : Prop := '/' ∈ name.toList ∨ '\\' ∈ name.toList

instance (name : String) : Decidable (HasSeparator name) :=
  inferInstanceAs (Decidable (_ ∨ _))

lemma isBare_iff {name : String} : isBare name = true ↔ ¬ HasSeparator name := by
  have hslash : slash ∈ Bytes.ofString name ↔ '/' ∈ name.toList :=
    Bytes.mem_ofString_of_ascii (c := '/') (by decide) name
  have hbackslash : backslash ∈ Bytes.ofString name ↔ '\\' ∈ name.toList :=
    Bytes.mem_ofString_of_ascii (c := '\\') (by decide) name
  simp [isBare, HasSeparator, hslash, hbackslash]

/-- Of the names before, only their presence counts. -/
lemma nameFault?_congr {before before' : List String} (h : ∀ m, m ∈ before ↔ m ∈ before')
    (rule : Rule) (name : String) :
    nameFault? rule before name = nameFault? rule before' name := by
  have hcontains : before.contains name = before'.contains name := by
    rw [Bool.eq_iff_iff, List.contains_iff_mem, List.contains_iff_mem, h]
  rw [nameFault?, nameFault?, hcontains]

/-- **The first fault**: the loop reports the fault of the first name that has
one.  The names it has seen are the names before that one and those it started
with. -/
lemma firstFault?_eq_some_iff {rule : Rule} {before names : List String} {e : ConfigError} :
    firstFault? rule before names = some e ↔ ∃ i name, names[i]? = some name ∧
      nameFault? rule (names.take i ++ before) name = some e ∧
      ∀ j < i, ∀ m, names[j]? = some m → nameFault? rule (names.take j ++ before) m = none := by
  induction names generalizing before with
  | nil => simp [firstFault?]
  | cons first rest ih =>
      rw [firstFault?]
      cases hf : nameFault? rule before first with
      | some e' =>
          constructor
          · intro he
            refine ⟨0, first, rfl, ?_, fun j hj => absurd hj (Nat.not_lt_zero j)⟩
            rw [List.take_zero, List.nil_append, hf]
            exact he
          · rintro ⟨i, name, hname, hfault, hbefore⟩
            cases i with
            | zero =>
                cases hname
                rw [List.take_zero, List.nil_append, hf] at hfault
                exact hfault
            | succ i =>
                have hnone := hbefore 0 i.succ_pos first rfl
                rw [List.take_zero, List.nil_append, hf] at hnone
                cases hnone
      | none =>
          -- `first` moves from the names to come to the names seen
          have hmove : ∀ (i : Nat) (m : String),
              nameFault? rule ((first :: rest).take (i + 1) ++ before) m =
                nameFault? rule (rest.take i ++ first :: before) m := by
            intro i m
            refine nameFault?_congr (fun x => ?_) rule m
            simp only [List.take_succ_cons, List.cons_append, List.mem_cons, List.mem_append]
            tauto
          rw [ih]
          constructor
          · rintro ⟨i, name, hname, hfault, hbefore⟩
            refine ⟨i + 1, name, hname, by rw [hmove, hfault], fun j hj m hm => ?_⟩
            cases j with
            | zero =>
                cases hm
                exact hf
            | succ j =>
                rw [hmove]
                exact hbefore j (by omega) m hm
          · rintro ⟨i, name, hname, hfault, hbefore⟩
            cases i with
            | zero =>
                cases hname
                rw [List.take_zero, List.nil_append, hf] at hfault
                cases hfault
            | succ i =>
                refine ⟨i, name, hname, by rw [← hmove, hfault], fun j hj m hm => ?_⟩
                rw [← hmove]
                exact hbefore (j + 1) (by omega) m hm

/-! ### The first fault among artifacts -/

/-- The name of an artifact before `i` is `name`. -/
def UsedBefore (c : Config) (i : Nat) (name : String) : Prop :=
  ∃ j b, j < i ∧ c.artifacts[j]? = some b ∧ b.localName = name

/-- The artifact of index `i` fails a test, and this is what is reported of the
first one it fails: that its name has no separator, that it follows the
convention, and that it is no other's before. -/
inductive FaultAt (c : Config) (i : Nat) : ConfigError → Prop
  | notBare {a : Artifact} (ha : c.artifacts[i]? = some a) (hsep : HasSeparator a.localName) :
      FaultAt c i (.notBare a.localName)
  | offConvention {a : Artifact} (ha : c.artifacts[i]? = some a)
      (hsep : ¬ HasSeparator a.localName) (haccepts : c.generated.accepts a.name = false) :
      FaultAt c i (.offConvention a.localName c.generated)
  | repeated {a : Artifact} (ha : c.artifacts[i]? = some a) (hsep : ¬ HasSeparator a.localName)
      (haccepts : c.generated.accepts a.name = true) (hused : UsedBefore c i a.localName) :
      FaultAt c i (.repeated a.localName)

lemma mem_take_names_iff {i : Nat} {name : String} :
    name ∈ (c.artifacts.map Artifact.localName).take i ↔ UsedBefore c i name := by
  rw [List.mem_iff_getElem?]
  constructor
  · rintro ⟨j, hj⟩
    rw [List.getElem?_take] at hj
    split_ifs at hj with hji
    rw [List.getElem?_map, Option.map_eq_some_iff] at hj
    obtain ⟨b, hb, rfl⟩ := hj
    exact ⟨j, b, hji, hb, rfl⟩
  · rintro ⟨j, b, hji, hb, rfl⟩
    refine ⟨j, ?_⟩
    rw [List.getElem?_take_of_lt hji, List.getElem?_map, hb]
    rfl

/-- What the loop finds at an index is the fault of the artifact there. -/
lemma faultAt_iff {i : Nat} {e : ConfigError} :
    FaultAt c i e ↔ ∃ name, (c.artifacts.map Artifact.localName)[i]? = some name ∧
      nameFault? c.generated ((c.artifacts.map Artifact.localName).take i) name = some e := by
  have hname : ∀ {a}, c.artifacts[i]? = some a →
      (c.artifacts.map Artifact.localName)[i]? = some a.localName := by
    intro a ha
    rw [List.getElem?_map, ha]
    rfl
  constructor
  · intro h
    cases h with
    | notBare ha hsep =>
        refine ⟨_, hname ha, ?_⟩
        have hbare := mt isBare_iff.mp (not_not_intro hsep)
        simp [nameFault?, hbare]
    | offConvention ha hsep haccepts =>
        refine ⟨_, hname ha, ?_⟩
        rw [Artifact.name] at haccepts
        simp [nameFault?, isBare_iff.mpr hsep, haccepts]
    | repeated ha hsep haccepts hused =>
        refine ⟨_, hname ha, ?_⟩
        rw [Artifact.name] at haccepts
        simp [nameFault?, isBare_iff.mpr hsep, haccepts, mem_take_names_iff, hused]
  · rintro ⟨name, hat, hfault⟩
    rw [List.getElem?_map, Option.map_eq_some_iff] at hat
    obtain ⟨a, ha, rfl⟩ := hat
    rw [nameFault?, ← Artifact.name] at hfault
    split_ifs at hfault with hbare haccepts hused
    · cases hfault
      refine .notBare ha ?_
      by_contra hsep
      simp [isBare_iff.mpr hsep] at hbare
    · cases hfault
      exact .offConvention ha (isBare_iff.mp (by simpa using hbare)) (by simpa using haccepts)
    · cases hfault
      exact .repeated ha (isBare_iff.mp (by simpa using hbare)) (by simpa using haccepts)
        (mem_take_names_iff.mp (List.contains_iff_mem.mp hused))

/-- The loop over the artifacts reports the first of them that has a fault. -/
lemma firstFault?_artifacts_iff {e : ConfigError} :
    firstFault? c.generated [] (c.artifacts.map Artifact.localName) = some e ↔
      ∃ i, FaultAt c i e ∧ ∀ j < i, ∀ e', ¬ FaultAt c j e' := by
  rw [firstFault?_eq_some_iff]
  simp only [List.append_nil]
  constructor
  · rintro ⟨i, name, hname, hfault, hbefore⟩
    refine ⟨i, faultAt_iff.mpr ⟨name, hname, hfault⟩, fun j hj e' h => ?_⟩
    obtain ⟨m, hm, hfault'⟩ := faultAt_iff.mp h
    rw [hbefore j hj m hm] at hfault'
    cases hfault'
  · rintro ⟨i, hfault, hbefore⟩
    obtain ⟨name, hname, hfault⟩ := faultAt_iff.mp hfault
    refine ⟨i, name, hname, hfault, fun j hj m hm => ?_⟩
    by_contra hne
    obtain ⟨e', he'⟩ := Option.ne_none_iff_exists'.mp hne
    exact hbefore j hj e' (faultAt_iff.mpr ⟨m, hm, he'⟩)

/-- **What is reported**: that there are no artifacts, or the fault of the first
artifact that has one. -/
lemma validate_eq_error_iff {e : ConfigError} :
    c.validate = .error e ↔ c.artifacts = [] ∧ e = .noArtifacts ∨
      ∃ i, FaultAt c i e ∧ ∀ j < i, ∀ e', ¬ FaultAt c j e' := by
  rw [← firstFault?_artifacts_iff, validate]
  by_cases hnil : c.artifacts = []
  · simp [hnil, firstFault?, eq_comm]
  · rw [if_neg (by simpa using hnil)]
    cases firstFault? c.generated [] (c.artifacts.map Artifact.localName) with
    | none => simp [hnil]
    | some e' => simp [hnil]

/-! ### Where the files of an accepted configuration go -/

/-- The file of an artifact stands directly below the target directory. -/
lemma Valid.components_targetPath (h : c.Valid) {a : Artifact} (ha : a ∈ c.artifacts) :
    (c.targetPath a).components = c.targetDir.components ++ [.normal a.name] :=
  Path.components_join c.targetDir (h.proper ha)

/-- The local name is no empty one, and neither stays in the directory nor leaves
it. -/
lemma Valid.localName_ne (h : c.Valid) {a : Artifact} (ha : a ∈ c.artifacts) :
    a.localName ≠ "" ∧ a.localName ≠ "." ∧ a.localName ≠ ".." := by
  have hproper := h.proper ha
  refine ⟨fun heq => hproper.ne_nil ?_, fun heq => hproper.ne_here ?_,
    fun heq => hproper.ne_up ?_⟩
  all_goals
    rw [Artifact.name, heq]
    decide

/-- The files of two artifacts are two. -/
lemma Valid.targetPath_ne (h : c.Valid) {i j : Nat} {a b : Artifact} (hij : i ≠ j)
    (ha : c.artifacts[i]? = some a) (hb : c.artifacts[j]? = some b) :
    (c.targetPath a).components ≠ (c.targetPath b).components := by
  intro heq
  rw [h.components_targetPath (List.mem_of_getElem? ha),
    h.components_targetPath (List.mem_of_getElem? hb)] at heq
  have hname : a.name = b.name := by simpa using heq
  refine hij ((List.getElem?_inj ?_ h.nodup_names).mp ?_)
  · rw [List.length_map]
    exact (List.getElem?_eq_some_iff.mp ha).1
  · rw [List.getElem?_map, List.getElem?_map, ha, hb]
    exact congrArg some hname

/-! ### The verdict -/

/-- **The verdict** on a configuration.  It is accepted exactly when there are
artifacts, no local name has a separator, all of them follow the convention and
no two are the same.  Otherwise the fault is that there are no artifacts, or it is
that of the first artifact which fails a test, and names the first test it fails.
The files of an accepted configuration are direct children of the target
directory, and no two of them are the same. -/
theorem validate_verdict (c : Config) :
    (c.validate = .ok () ↔
      c.artifacts ≠ [] ∧ (∀ a ∈ c.artifacts, ¬ HasSeparator a.localName) ∧
        (∀ a ∈ c.artifacts, c.generated.accepts a.name = true) ∧
        (c.artifacts.map Artifact.localName).Nodup) ∧
    (∀ e, c.validate = .error e ↔
      c.artifacts = [] ∧ e = .noArtifacts ∨
        ∃ i, FaultAt c i e ∧ ∀ j < i, ∀ e', ¬ FaultAt c j e') ∧
    ConfigError.noArtifacts.message = "no artifacts configured" ∧
    (c.validate = .ok () →
      (∀ a ∈ c.artifacts, a.localName ≠ "" ∧ a.localName ≠ "." ∧ a.localName ≠ ".." ∧
        (c.targetPath a).components = c.targetDir.components ++ [.normal a.name]) ∧
      ∀ (i j : Nat) (a b : Artifact), i ≠ j → c.artifacts[i]? = some a → c.artifacts[j]? = some b →
        (c.targetPath a).components ≠ (c.targetPath b).components) := by
  refine ⟨?_, fun e => validate_eq_error_iff, rfl, fun hok => ?_⟩
  · rw [validate_eq_ok_iff]
    constructor
    · intro h
      exact ⟨h.ne_nil, fun a ha => isBare_iff.mp (h.bare a ha), h.accepts, h.nodup⟩
    · rintro ⟨hnil, hsep, haccepts, hnodup⟩
      exact ⟨hnil, fun a ha => isBare_iff.mpr (hsep a ha), haccepts, hnodup⟩
  · have hvalid := validate_eq_ok_iff.mp hok
    refine ⟨fun a ha => ?_, fun i j a b hij ha hb => hvalid.targetPath_ne hij ha hb⟩
    obtain ⟨hempty, hhere, hup⟩ := hvalid.localName_ne ha
    exact ⟨hempty, hhere, hup, hvalid.components_targetPath ha⟩

end Config

namespace Sample

/-- The third artifact has the name of the first, and the fourth one leads out of
the target directory. -/
def muddled : Config :=
  { Config.standard with
    artifacts := [⟨"a", "generated_a.go"⟩, ⟨"b", "generated_b.go"⟩, ⟨"c", "generated_a.go"⟩,
      ⟨"d", "../generated_d.go"⟩] }

/-- The target directory is the empty path. -/
def unplaced : Config := { Config.standard with targetDir := .ofString "" }

end Sample

theorem Config.validate_verdict_sample :
    (∃ i, FaultAt Sample.muddled i (.repeated "generated_a.go") ∧
      ∀ j < i, ∀ e', ¬ FaultAt Sample.muddled j e') ∧
    ∀ a ∈ Sample.unplaced.artifacts,
      (Sample.unplaced.targetPath a).components = [.normal a.name] := by
  obtain ⟨_, hfaults, _⟩ := validate_verdict Sample.muddled
  obtain ⟨_, _, _, haccepted⟩ := validate_verdict Sample.unplaced
  constructor
  · rcases (hfaults (.repeated "generated_a.go")).mp (by decide) with ⟨hnil, _⟩ | hfault
    · cases hnil
    · exact hfault
  · intro a ha
    obtain ⟨_, _, _, hchild⟩ := (haccepted (by decide)).1 a ha
    exact hchild

end Vendoring
