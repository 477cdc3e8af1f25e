/-
What an accepted configuration promises about the names of its files.

* `Artifact.name`: the name of an artifact's file, as a directory holds it;
* `firstFault?_eq_none_iff`: no fault is found exactly when every name is bare
  and follows the convention and none is repeated;
* `Config.Valid`, `Config.validate_eq_ok_iff`: the accepted configurations;
* `Config.Valid.marks`, `Config.Valid.proper`, `Config.Valid.nodup_names`: the
  files of an accepted configuration are entries of the target directory that
  the cleaner recognises, no two of them the same.
-/
import Mathlib.Tactic
import Vendoring.Config.Validation
import Vendoring.Proofs.Ascii
import Vendoring.Proofs.EntryPath

namespace Vendoring

/-- The name of an artifact's file. -/
def Artifact.name (a : Artifact) : Name := Bytes.ofString a.localName

namespace Config

variable {c : Config}

/-! ### Faults -/

lemma nameFault?_eq_none_iff {rule : Rule} {before : List String} {name : String} :
    nameFault? rule before name = none ↔
      isBare name ∧ rule.accepts (Bytes.ofString name) ∧ name ∉ before := by
  rw [nameFault?]
  split_ifs with hbare haccepts hbefore <;> simp_all

/-- No fault is found exactly when every name is bare and accepted, and no name
stands twice, the names before included. -/
lemma firstFault?_eq_none_iff {rule : Rule} {before names : List String} :
    firstFault? rule before names = none ↔
      (∀ name ∈ names, isBare name ∧ rule.accepts (Bytes.ofString name)) ∧
        names.Nodup ∧ ∀ name ∈ names, name ∉ before := by
  induction names generalizing before with
  | nil => simp [firstFault?]
  | cons name rest ih =>
      rw [firstFault?]
      cases hf : nameFault? rule before name with
      | some e =>
          have hfault : ¬ (isBare name ∧ rule.accepts (Bytes.ofString name) ∧ name ∉ before) := by
            rw [← nameFault?_eq_none_iff, hf]
            simp
          simp only [reduceCtorEq, false_iff]
          rintro ⟨hnames, _, hbefore⟩
          have hname := hnames name List.mem_cons_self
          exact hfault ⟨hname.1, hname.2, hbefore name List.mem_cons_self⟩
      | none =>
          obtain ⟨hbare, haccepts, hbefore⟩ := nameFault?_eq_none_iff.mp hf
          rw [ih, List.forall_mem_cons, List.forall_mem_cons, List.nodup_cons]
          simp only [List.mem_cons, not_or]
          constructor
          · rintro ⟨hnames, hnodup, hrest⟩
            exact ⟨⟨⟨hbare, haccepts⟩, hnames⟩, ⟨fun h => (hrest name h).1 rfl, hnodup⟩, hbefore,
              fun m hm => (hrest m hm).2⟩
          · rintro ⟨⟨_, hnames⟩, ⟨hnot, hnodup⟩, _, hrest⟩
            refine ⟨hnames, hnodup, fun m hm => ⟨?_, hrest m hm⟩⟩
            rintro rfl
            exact hnot hm

/-! ### Accepted configurations -/

/-- There are artifacts, their names are bare and follow the convention, and no
two are the same. -/
structure Valid (c : Config) : Prop where
  ne_nil : c.artifacts ≠ []
  bare : ∀ a ∈ c.artifacts, isBare a.localName = true
  accepts : ∀ a ∈ c.artifacts, c.generated.accepts a.name = true
  nodup : (c.artifacts.map Artifact.localName).Nodup

lemma validate_eq_ok_iff : c.validate = .ok () ↔ c.Valid := by
  have hfault := @firstFault?_eq_none_iff c.generated [] (c.artifacts.map Artifact.localName)
  simp only [List.forall_mem_map, List.not_mem_nil, not_false_eq_true, implies_true,
    and_true] at hfault
  rw [validate]
  by_cases hnil : c.artifacts = []
  · simp only [hnil, List.isEmpty_nil, if_true, reduceCtorEq, false_iff]
    exact fun h => h.ne_nil hnil
  rw [if_neg (by simpa using hnil)]
  cases hf : firstFault? c.generated [] (c.artifacts.map Artifact.localName) with
  | some e =>
      simp only [reduceCtorEq, false_iff]
      intro h
      rw [hfault.mpr ⟨fun a ha => ⟨h.bare a ha, h.accepts a ha⟩, h.nodup⟩] at hf
      cases hf
  | none =>
      obtain ⟨hnames, hnodup⟩ := hfault.mp hf
      simp only [true_iff]
      exact ⟨hnil, fun a ha => (hnames a ha).1, fun a ha => (hnames a ha).2, hnodup⟩

namespace Valid

variable {a : Artifact}

lemma proper (h : c.Valid) (ha : a ∈ c.artifacts) : Name.Proper a.name := by
  have hbare := h.bare a ha
  rw [isBare, Bool.and_eq_true, Bool.not_eq_true', Bool.not_eq_true'] at hbare
  refine Name.proper_of_accepts (fun hmem => ?_) (h.accepts a ha)
  rw [Artifact.name, ← List.contains_iff_mem, hbare.1] at hmem
  cases hmem

/-- The cleaner recognises every file that is going to be written. -/
lemma marks (h : c.Valid) (ha : a ∈ c.artifacts) : c.generated.marks a.name = true := by
  rw [Rule.marks, h.accepts a ha, Artifact.name, Bytes.toString?_ofString]
  rfl

lemma nodup_names (h : c.Valid) : (c.artifacts.map Artifact.name).Nodup := by
  have hmap : c.artifacts.map Artifact.name =
      (c.artifacts.map Artifact.localName).map Bytes.ofString := by
    rw [List.map_map]
    rfl
  rw [hmap]
  exact h.nodup.map fun _ _ => Bytes.ofString_inj.mp

end Valid

end Config

end Vendoring
