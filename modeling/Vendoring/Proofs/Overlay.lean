/-
Configurations as overlays on the built-in one.

* `TextOf`, `PathOf`, `ArtifactOf`, `ArtifactsOf`, `RuleOf`, `PolicyOf`: what a
  value stands for, by the form it is written in;
* `Overlaid`: a field with the value given for it, or its default;
* `ConfigOf`: the configuration of a table, field by field;
* `decode?_eq_some_iff`: the configuration that is read is that one;
* `Admits`, `exists_configOf_iff`: a table describes a configuration exactly
  when every field accepts what is given for it;
* `Rearranged`, `Unnoticed`: changes of order and of unknown keys, which no
  field notices (`decode?_of_unnoticed`).
-/
import Mathlib.Logic.Relation
import Mathlib.Tactic
import Vendoring.Config.Decode
import Vendoring.Config.Printer

namespace Vendoring.Decode

open Toml (Value Table)

/-! ### What values stand for -/

/-- A value that stands for a text. -/
def TextOf (v : Value) (s : String) : Prop := v = .string s

/-- A value that stands for a path. -/
def PathOf (v : Value) (p : Path) : Prop := ∃ s, TextOf v s ∧ p = .ofString s

/-- A field that has the value given for it, or its default if none is. -/
inductive Overlaid {α : Type} (R : Value → α → Prop) (default : α) : Option Value → α → Prop
  | given {v : Value} {x : α} (h : R v x) : Overlaid R default (some v) x
  | absent : Overlaid R default none default

/-- A value that stands for an artifact: a table that gives both fields, or an
array that begins with them. -/
inductive ArtifactOf : Value → Artifact → Prop
  | table {t : Table} {remote name : String}
      (hremote : t.lookup "remote_path" = some (.string remote))
      (hname : t.lookup "local_name" = some (.string name)) : ArtifactOf (.table t) ⟨remote, name⟩
  | array {items : List Value} {remote name : String}
      (hremote : items[0]? = some (.string remote)) (hname : items[1]? = some (.string name)) :
      ArtifactOf (.array items) ⟨remote, name⟩

/-- A value that stands for a list of artifacts, element by element. -/
def ArtifactsOf (v : Value) (as : List Artifact) : Prop :=
  ∃ items, v = .array items ∧ List.Forall₂ ArtifactOf items as

/-- A value that stands for a naming convention: a table or an array of its
fields in order, either of which may leave fields out, or a date, which gives
none. -/
inductive RuleOf : Value → Rule → Prop
  | table {t : Table} {r : Rule}
      (hstem : Overlaid TextOf Rule.standard.stem (t.lookup "prefix") r.stem)
      (hextension : Overlaid TextOf Rule.standard.extension (t.lookup "extension") r.extension) :
      RuleOf (.table t) r
  | array {items : List Value} {r : Rule}
      (hstem : Overlaid TextOf Rule.standard.stem items[0]? r.stem)
      (hextension : Overlaid TextOf Rule.standard.extension items[1]? r.extension) :
      RuleOf (.array items) r
  | datetime (text : String) : RuleOf (.datetime text) .standard

/-- A value that stands for a policy: its word, or a table with the word as its
only key and nothing under it. -/
inductive PolicyOf : Value → StatusPolicy → Prop
  | word (p : StatusPolicy) : PolicyOf (.string p.word) p
  | overTable (p : StatusPolicy) : PolicyOf (.table [(p.word, .table [])]) p
  | overArray (p : StatusPolicy) : PolicyOf (.table [(p.word, .array [])]) p

/-- The configuration of a table: what it gives, over the built-in one. -/
structure ConfigOf (t : Table) (c : Config) : Prop where
  revision : Overlaid TextOf Config.standard.revision (t.lookup "revision") c.revision
  remoteBase : Overlaid TextOf Config.standard.remoteBase (t.lookup "remote_base_url") c.remoteBase
  targetDir : Overlaid PathOf Config.standard.targetDir (t.lookup "target_dir") c.targetDir
  artifacts : Overlaid ArtifactsOf Config.standard.artifacts (t.lookup "artifacts") c.artifacts
  generated : Overlaid RuleOf Config.standard.generated (t.lookup "generated") c.generated
  policy : Overlaid PolicyOf Config.standard.policy (t.lookup "status_policy") c.policy

/-! ### Single fields -/

lemma text_eq_some_iff {v : Value} {s : String} : text v = some s ↔ TextOf v s := by
  cases v <;> simp [text, TextOf]

lemma path_eq_some_iff {v : Value} {p : Path} :
    (text v).map Path.ofString = some p ↔ PathOf v p := by
  simp only [Option.map_eq_some_iff, text_eq_some_iff, PathOf, @eq_comm _ p]

lemma overlay_eq (t : Table) {α : Type} (key : String) (field : Value → Option α) (default : α) :
    overlay t key field default = (t.lookup key).elim (some default) field := by
  rw [overlay]
  cases t.lookup key <;> rfl

/-- A field read over its default is overlaid by what it stands for. -/
lemma elim_eq_some_iff {α : Type} {field : Value → Option α} {R : Value → α → Prop}
    (hfield : ∀ {v x}, field v = some x ↔ R v x) {default x : α} {given : Option Value} :
    given.elim (some default) field = some x ↔ Overlaid R default given x := by
  cases given with
  | none =>
      constructor
      · rintro ⟨⟩
        exact .absent
      · rintro ⟨⟩
        rfl
  | some v =>
      constructor
      · intro h
        exact .given (hfield.mp h)
      · rintro ⟨h⟩
        exact hfield.mpr h

/-- A field takes some value exactly when it accepts what is given for it. -/
lemma exists_overlaid_iff {α : Type} {R : Value → α → Prop} {default : α} {given : Option Value} :
    (∃ x, Overlaid R default given x) ↔ ∀ v, given = some v → ∃ x, R v x := by
  constructor
  · rintro ⟨x, ⟨h⟩ | _⟩ v hv
    · cases hv
      exact ⟨x, h⟩
    · cases hv
  · intro h
    cases given with
    | none => exact ⟨default, .absent⟩
    | some v =>
        obtain ⟨x, hx⟩ := h v rfl
        exact ⟨x, .given hx⟩

/-! ### Artifacts, conventions and policies -/

/-- An artifact from what is given for its two fields. -/
def artifactFrom (remote name : Option Value) : Option Artifact := do
  some ⟨← remote.bind text, ← name.bind text⟩

lemma artifact_table (t : Table) :
    artifact (.table t) = artifactFrom (t.lookup "remote_path") (t.lookup "local_name") := rfl

lemma artifact_array (items : List Value) :
    artifact (.array items) = artifactFrom items[0]? items[1]? := by
  match items with
  | [] => rfl
  | [remote] => cases remote <;> rfl
  | remote :: name :: rest => rfl

lemma artifactFrom_eq_some_iff {remote name : Option Value} {a : Artifact} :
    artifactFrom remote name = some a ↔
      remote = some (.string a.remotePath) ∧ name = some (.string a.localName) := by
  have htext : ∀ {o : Option Value} {s}, o.bind text = some s ↔ o = some (.string s) := by
    intro o s
    cases o <;> simp [text_eq_some_iff, TextOf]
  simp only [artifactFrom, Option.bind_eq_bind, Option.bind_eq_some_iff, htext]
  constructor
  · rintro ⟨remote, hremote, name, hname, ⟨⟩⟩
    exact ⟨hremote, hname⟩
  · rintro ⟨hremote, hname⟩
    exact ⟨_, hremote, _, hname, rfl⟩

lemma artifact_eq_some_iff {v : Value} {a : Artifact} : artifact v = some a ↔ ArtifactOf v a := by
  constructor
  · intro h
    cases v with
    | table t =>
        rw [artifact_table, artifactFrom_eq_some_iff] at h
        exact .table h.1 h.2
    | array items =>
        rw [artifact_array, artifactFrom_eq_some_iff] at h
        exact .array h.1 h.2
    | string | integer | float | boolean | datetime => cases h
  · rintro (⟨hremote, hname⟩ | ⟨hremote, hname⟩)
    · rw [artifact_table, artifactFrom_eq_some_iff]
      exact ⟨hremote, hname⟩
    · rw [artifact_array, artifactFrom_eq_some_iff]
      exact ⟨hremote, hname⟩

/-- Elements are read one after the other, and all of them must be artifacts. -/
lemma mapM_artifact_eq_some_iff {items : List Value} {as : List Artifact} :
    items.mapM artifact = some as ↔ List.Forall₂ ArtifactOf items as := by
  induction items generalizing as with
  | nil => simp [eq_comm]
  | cons v items ih =>
      simp only [List.mapM_cons, Option.bind_eq_bind, Option.bind_eq_some_iff, artifact_eq_some_iff,
        ih]
      constructor
      · rintro ⟨a, ha, as, has, ⟨⟩⟩
        exact .cons ha has
      · intro h
        cases h with
        | cons ha has => exact ⟨_, ha, _, has, rfl⟩

lemma artifacts_eq_some_iff {v : Value} {as : List Artifact} :
    artifacts v = some as ↔ ArtifactsOf v as := by
  cases v <;> simp [artifacts, ArtifactsOf, mapM_artifact_eq_some_iff]

/-- A naming convention from what is given for its two fields. -/
def ruleFrom (stem extension : Option Value) : Option Rule := do
  some ⟨← stem.elim (some Rule.standard.stem) text,
    ← extension.elim (some Rule.standard.extension) text⟩

lemma rule_table (t : Table) :
    rule (.table t) = ruleFrom (t.lookup "prefix") (t.lookup "extension") := by
  rw [rule, overlay_eq, overlay_eq]
  rfl

lemma rule_array (items : List Value) : rule (.array items) = ruleFrom items[0]? items[1]? := by
  match items with
  | [] => rfl
  | [stem] => rfl
  | stem :: extension :: rest => rfl

lemma ruleFrom_eq_some_iff {stem extension : Option Value} {r : Rule} :
    ruleFrom stem extension = some r ↔ Overlaid TextOf Rule.standard.stem stem r.stem ∧
      Overlaid TextOf Rule.standard.extension extension r.extension := by
  simp only [ruleFrom, Option.bind_eq_bind, Option.bind_eq_some_iff,
    elim_eq_some_iff text_eq_some_iff]
  constructor
  · rintro ⟨stem, hstem, extension, hextension, ⟨⟩⟩
    exact ⟨hstem, hextension⟩
  · rintro ⟨hstem, hextension⟩
    exact ⟨_, hstem, _, hextension, rfl⟩

lemma rule_eq_some_iff {v : Value} {r : Rule} : rule v = some r ↔ RuleOf v r := by
  constructor
  · intro h
    cases v with
    | table t =>
        rw [rule_table, ruleFrom_eq_some_iff] at h
        exact .table h.1 h.2
    | array items =>
        rw [rule_array, ruleFrom_eq_some_iff] at h
        exact .array h.1 h.2
    | datetime text =>
        cases h
        exact .datetime text
    | string | integer | float | boolean => cases h
  · rintro (⟨hstem, hextension⟩ | ⟨hstem, hextension⟩ | _)
    · rw [rule_table, ruleFrom_eq_some_iff]
      exact ⟨hstem, hextension⟩
    · rw [rule_array, ruleFrom_eq_some_iff]
      exact ⟨hstem, hextension⟩
    · rfl

lemma policyName_eq_some_iff {s : String} {p : StatusPolicy} :
    policyName s = some p ↔ s = p.word := by
  constructor
  · intro h
    unfold policyName at h
    split at h
    · cases h
      rfl
    · cases h
      rfl
    · cases h
  · rintro rfl
    cases p <;> rfl

lemma policy_eq_some_iff {v : Value} {p : StatusPolicy} : policy v = some p ↔ PolicyOf v p := by
  constructor
  · intro h
    unfold policy at h
    split at h
    · obtain rfl := policyName_eq_some_iff.mp h
      exact .word p
    · obtain rfl := policyName_eq_some_iff.mp h
      exact .overTable p
    · obtain rfl := policyName_eq_some_iff.mp h
      exact .overArray p
    · cases h
  · rintro (_ | _ | _) <;> exact policyName_eq_some_iff.mpr rfl

/-! ### The whole configuration -/

/-- The configuration that is read is the one the table describes. -/
lemma decode?_eq_some_iff {t : Table} {c : Config} : Config.decode? t = some c ↔ ConfigOf t c := by
  simp only [Config.decode?, overlay_eq, Option.bind_eq_bind, Option.bind_eq_some_iff,
    elim_eq_some_iff text_eq_some_iff, elim_eq_some_iff path_eq_some_iff,
    elim_eq_some_iff artifacts_eq_some_iff, elim_eq_some_iff rule_eq_some_iff,
    elim_eq_some_iff policy_eq_some_iff]
  constructor
  · rintro ⟨_, hrevision, _, hremote, _, htarget, _, hartifacts, _, hgenerated, _, hpolicy, ⟨⟩⟩
    exact ⟨hrevision, hremote, htarget, hartifacts, hgenerated, hpolicy⟩
  · rintro ⟨hrevision, hremote, htarget, hartifacts, hgenerated, hpolicy⟩
    exact ⟨_, hrevision, _, hremote, _, htarget, _, hartifacts, _, hgenerated, _, hpolicy, rfl⟩

/-- The keys of the fields that are spelt as texts. -/
def textKeys : List String := ["revision", "remote_base_url", "target_dir"]

/-- Whether the field of a key accepts a value. A key of no field accepts every
value. -/
structure Admits (key : String) (v : Value) : Prop where
  text : key ∈ textKeys → ∃ s, TextOf v s
  artifacts : key = "artifacts" → ∃ as, ArtifactsOf v as
  rule : key = "generated" → ∃ r, RuleOf v r
  policy : key = "status_policy" → ∃ p, PolicyOf v p

/-- A table describes a configuration exactly when every field accepts what is
given for it. -/
lemma exists_configOf_iff {t : Table} :
    (∃ c, ConfigOf t c) ↔ ∀ key v, t.lookup key = some v → Admits key v := by
  constructor
  · rintro ⟨c, h⟩ key v hv
    refine ⟨fun hkey => ?_, ?_, ?_, ?_⟩
    · simp only [textKeys, List.mem_cons, List.not_mem_nil, or_false] at hkey
      rcases hkey with rfl | rfl | rfl
      · exact exists_overlaid_iff.mp ⟨_, h.revision⟩ v hv
      · exact exists_overlaid_iff.mp ⟨_, h.remoteBase⟩ v hv
      · obtain ⟨_, s, hs, _⟩ := exists_overlaid_iff.mp ⟨_, h.targetDir⟩ v hv
        exact ⟨s, hs⟩
    · rintro rfl
      exact exists_overlaid_iff.mp ⟨_, h.artifacts⟩ v hv
    · rintro rfl
      exact exists_overlaid_iff.mp ⟨_, h.generated⟩ v hv
    · rintro rfl
      exact exists_overlaid_iff.mp ⟨_, h.policy⟩ v hv
  · intro h
    obtain ⟨revision, hrevision⟩ := exists_overlaid_iff.mpr fun v hv =>
      (h "revision" v hv).text (by decide)
    obtain ⟨remote, hremote⟩ := exists_overlaid_iff.mpr fun v hv =>
      (h "remote_base_url" v hv).text (by decide)
    have hpath : ∀ v, t.lookup "target_dir" = some v → ∃ p, PathOf v p := by
      intro v hv
      obtain ⟨s, hs⟩ := (h "target_dir" v hv).text (by decide)
      exact ⟨_, s, hs, rfl⟩
    obtain ⟨target, htarget⟩ := exists_overlaid_iff.mpr hpath
    obtain ⟨artifacts, hartifacts⟩ := exists_overlaid_iff.mpr fun v hv =>
      (h "artifacts" v hv).artifacts rfl
    obtain ⟨rule, hrule⟩ := exists_overlaid_iff.mpr fun v hv => (h "generated" v hv).rule rfl
    obtain ⟨policy, hpolicy⟩ := exists_overlaid_iff.mpr fun v hv =>
      (h "status_policy" v hv).policy rfl
    exact ⟨⟨revision, remote, target, artifacts, rule, policy⟩, hrevision, hremote, htarget,
      hartifacts, hrule, hpolicy⟩

/-! ### Changes of one entry -/

lemma lookup_insert {s t : Table} {key k : String} (h : key ≠ k) (v : Value) :
    (s ++ (k, v) :: t).lookup key = (s ++ t).lookup key := by
  have hbeq : (key == k) = false := beq_eq_false_iff_ne.mpr h
  simp only [List.lookup_append, List.lookup_cons, hbeq]

/-- Whatever is asked of the value of a key, replacing one entry by another
with the same answer makes no difference. -/
lemma lookup_replace {β : Type} (ask : Option Value → β) {key k : String} {v v' : Value}
    (h : key = k → ask (some v) = ask (some v')) (s t : Table) :
    ask ((s ++ (k, v) :: t).lookup key) = ask ((s ++ (k, v') :: t).lookup key) := by
  simp only [List.lookup_append, List.lookup_cons]
  by_cases hkey : key = k
  · have hbeq : (key == k) = true := beq_iff_eq.mpr hkey
    cases s.lookup key with
    | none => simpa only [hbeq, Option.none_or] using h hkey
    | some x => rfl
  · have hbeq : (key == k) = false := beq_eq_false_iff_ne.mpr hkey
    simp only [hbeq]

@[inherit_doc lookup_replace]
lemma getElem?_replace {β : Type} (ask : Option Value → β) {v v' : Value}
    (h : ask (some v) = ask (some v')) (xs ys : List Value) (i : Nat) :
    ask (xs ++ v :: ys)[i]? = ask (xs ++ v' :: ys)[i]? := by
  rcases Nat.lt_trichotomy i xs.length with hi | hi | hi
  · rw [List.getElem?_append_left hi, List.getElem?_append_left hi]
  · subst hi
    simpa only [List.getElem?_append_right le_rfl, Nat.sub_self, List.getElem?_cons_zero] using h
  · obtain ⟨j, rfl⟩ := Nat.exists_eq_add_of_lt hi
    have hj : xs.length + j + 1 - xs.length = j + 1 := by omega
    rw [List.getElem?_append_right (by omega), List.getElem?_append_right (by omega), hj,
      List.getElem?_cons_succ, List.getElem?_cons_succ]

/-- The order of different keys does not matter. -/
lemma lookup_perm {s t : Table} (h : s.Perm t) (hkeys : (s.map Prod.fst).Nodup) (key : String) :
    s.lookup key = t.lookup key := by
  induction h with
  | nil => rfl
  | cons x _ ih =>
      rw [List.map_cons, List.nodup_cons] at hkeys
      rw [List.lookup_cons, List.lookup_cons, ih hkeys.2]
  | swap x y l =>
      obtain ⟨kx, vx⟩ := x
      obtain ⟨ky, vy⟩ := y
      have hne : ky ≠ kx := by
        simp only [List.map_cons, List.nodup_cons, List.mem_cons, not_or] at hkeys
        exact hkeys.1.1
      simp only [List.lookup_cons]
      by_cases hx : key = kx
      · subst hx
        rw [beq_self_eq_true, beq_eq_false_iff_ne.mpr hne.symm]
      · rw [beq_eq_false_iff_ne.mpr hx]
  | trans h₁ _ ih₁ ih₂ => exact (ih₁ hkeys).trans (ih₂ ((h₁.map Prod.fst).nodup_iff.mp hkeys))

/-! ### What a change leaves alone -/

/-- The keys that the fields of a configuration have. -/
def configKeys : List String :=
  ["revision", "remote_base_url", "target_dir", "artifacts", "generated", "status_policy"]

/-- The keys that the fields of a naming convention have. -/
def ruleKeys : List String := ["prefix", "extension"]

/-- The keys that the fields of an artifact have. -/
def artifactKeys : List String := ["remote_path", "local_name"]

lemma decode?_eq_of_lookup {t t' : Table}
    (h : ∀ key ∈ configKeys, t.lookup key = t'.lookup key) :
    Config.decode? t = Config.decode? t' := by
  simp only [configKeys, List.forall_mem_cons] at h
  obtain ⟨hrevision, hremote, htarget, hartifacts, hgenerated, hpolicy, -⟩ := h
  simp only [Config.decode?, overlay_eq, hrevision, hremote, htarget, hartifacts, hgenerated,
    hpolicy]

lemma rule_eq_of_lookup {t t' : Table} (h : ∀ key ∈ ruleKeys, t.lookup key = t'.lookup key) :
    rule (.table t) = rule (.table t') := by
  simp only [ruleKeys, List.forall_mem_cons] at h
  rw [rule_table, rule_table, h.1, h.2.1]

lemma artifact_eq_of_lookup {t t' : Table}
    (h : ∀ key ∈ artifactKeys, t.lookup key = t'.lookup key) :
    artifact (.table t) = artifact (.table t') := by
  simp only [artifactKeys, List.forall_mem_cons] at h
  rw [artifact_table, artifact_table, h.1, h.2.1]

/-- Two values that the field of a key reads alike. -/
structure AlikeAt (key : String) (v v' : Value) : Prop where
  text : key ∈ textKeys → Decode.text v = Decode.text v'
  artifacts : key = "artifacts" → Decode.artifacts v = Decode.artifacts v'
  rule : key = "generated" → Decode.rule v = Decode.rule v'
  policy : key = "status_policy" → Decode.policy v = Decode.policy v'

lemma overlay_replace {α : Type} (field : Value → Option α) {key k : String} {v v' : Value}
    (h : key = k → field v = field v') (default : α) (s t : Table) :
    overlay (s ++ (k, v) :: t) key field default =
      overlay (s ++ (k, v') :: t) key field default := by
  rw [overlay_eq, overlay_eq]
  exact lookup_replace (fun given => given.elim (some default) field) h s t

/-- A value may be replaced by one that its field reads alike. -/
lemma decode?_replace {key : String} {v v' : Value} (h : AlikeAt key v v') (s t : Table) :
    Config.decode? (s ++ (key, v) :: t) = Config.decode? (s ++ (key, v') :: t) := by
  have htext : ∀ k ∈ textKeys, k = key → Decode.text v = Decode.text v' :=
    fun k hmem hk => h.text (hk ▸ hmem)
  have hrevision := overlay_replace Decode.text (htext "revision" (by decide))
    Config.standard.revision s t
  have hremote := overlay_replace Decode.text (htext "remote_base_url" (by decide))
    Config.standard.remoteBase s t
  have htarget := overlay_replace (fun v => (Decode.text v).map Path.ofString)
    (fun hk => congrArg _ (htext "target_dir" (by decide) hk)) Config.standard.targetDir s t
  have hartifacts := overlay_replace Decode.artifacts (fun hk => h.artifacts hk.symm)
    Config.standard.artifacts s t
  have hgenerated := overlay_replace Decode.rule (fun hk => h.rule hk.symm)
    Config.standard.generated s t
  have hpolicy := overlay_replace Decode.policy (fun hk => h.policy hk.symm)
    Config.standard.policy s t
  simp only [Config.decode?, hrevision, hremote, htarget, hartifacts, hgenerated, hpolicy]

/-! ### Order of keys -/

/-- One change of order: the keys of some table, however deep it lies. A table
has each of its keys once. -/
inductive Rearranged : Value → Value → Prop
  | table {s t : Table} (hkeys : (s.map Prod.fst).Nodup) (h : s.Perm t) :
      Rearranged (.table s) (.table t)
  | inTable {v v' : Value} (h : Rearranged v v') (s : Table) (key : String) (t : Table) :
      Rearranged (.table (s ++ (key, v) :: t)) (.table (s ++ (key, v') :: t))
  | inArray {v v' : Value} (h : Rearranged v v') (xs ys : List Value) :
      Rearranged (.array (xs ++ v :: ys)) (.array (xs ++ v' :: ys))

/-- Values that have nothing under them. -/
def isHollow : Value → Bool
  | .table [] => true
  | .array [] => true
  | _ => false

/-- Two values that every field reads alike, also inside another value. -/
structure Alike (v v' : Value) : Prop where
  text : Decode.text v = Decode.text v'
  artifact : Decode.artifact v = Decode.artifact v'
  artifacts : Decode.artifacts v = Decode.artifacts v'
  rule : Decode.rule v = Decode.rule v'
  policy : Decode.policy v = Decode.policy v'
  isHollow : Decode.isHollow v = Decode.isHollow v'

lemma Alike.at {v v' : Value} (h : Alike v v') (key : String) : AlikeAt key v v' :=
  ⟨fun _ => h.text, fun _ => h.artifacts, fun _ => h.rule, fun _ => h.policy⟩

lemma policy_singleton_eq_some_iff {s : String} {v : Value} {p : StatusPolicy} :
    policy (.table [(s, v)]) = some p ↔ s = p.word ∧ isHollow v = true := by
  rw [policy_eq_some_iff]
  constructor
  · rintro (_ | _ | _) <;> exact ⟨rfl, rfl⟩
  · rintro ⟨rfl, hv⟩
    unfold isHollow at hv
    split at hv
    · exact .overTable p
    · exact .overArray p
    · cases hv

lemma policy_table_eq_none {t : Table} (h : t.length ≠ 1) : policy (.table t) = none := by
  refine Option.eq_none_iff_forall_ne_some.mpr fun p hp => ?_
  cases policy_eq_some_iff.mp hp <;> exact h rfl

lemma policy_perm {s t : Table} (h : s.Perm t) : policy (.table s) = policy (.table t) := by
  by_cases hlength : s.length = 1
  · obtain ⟨x, rfl⟩ := List.length_eq_one_iff.mp hlength
    rw [List.perm_singleton.mp h.symm]
  · rw [policy_table_eq_none hlength, policy_table_eq_none (h.length_eq ▸ hlength)]

lemma policy_replace {v v' : Value} (h : isHollow v = isHollow v') (s : Table) (key : String)
    (t : Table) :
    policy (.table (s ++ (key, v) :: t)) = policy (.table (s ++ (key, v') :: t)) := by
  by_cases hlength : (s ++ (key, v) :: t).length = 1
  · -- the entry stands alone, so its key may name a policy
    have hs : s = [] := List.eq_nil_of_length_eq_zero (by simp at hlength; omega)
    have ht : t = [] := List.eq_nil_of_length_eq_zero (by simp at hlength; omega)
    subst hs ht
    refine Option.ext fun p => ?_
    rw [List.nil_append, List.nil_append, policy_singleton_eq_some_iff,
      policy_singleton_eq_some_iff, h]
  · have hlength' : (s ++ (key, v') :: t).length ≠ 1 := by simpa using hlength
    rw [policy_table_eq_none hlength, policy_table_eq_none hlength']

/-- An artifact depends on the texts of its fields only. -/
lemma artifactFrom_congr {remote remote' name name' : Option Value}
    (hremote : remote.map text = remote'.map text) (hname : name.map text = name'.map text) :
    artifactFrom remote name = artifactFrom remote' name' := by
  have hbind : ∀ o : Option Value, o.bind text = (o.map text).bind id := by
    intro o
    cases o <;> rfl
  simp only [artifactFrom, hbind, hremote, hname]

/-- A naming convention depends on the texts of its fields only. -/
lemma ruleFrom_congr {stem stem' extension extension' : Option Value}
    (hstem : stem.map text = stem'.map text)
    (hextension : extension.map text = extension'.map text) :
    ruleFrom stem extension = ruleFrom stem' extension' := by
  have helim : ∀ (o : Option Value) d, o.elim (some d) text = (o.map text).getD (some d) := by
    intro o d
    cases o <;> rfl
  simp only [ruleFrom, helim, hstem, hextension]

lemma Alike.inTable {v v' : Value} (h : Alike v v') (s : Table) (key : String) (t : Table) :
    Alike (.table (s ++ (key, v) :: t)) (.table (s ++ (key, v') :: t)) := by
  have htext : ∀ name, ((s ++ (key, v) :: t).lookup name).map Decode.text =
      ((s ++ (key, v') :: t).lookup name).map Decode.text :=
    fun name => lookup_replace (Option.map Decode.text) (fun _ => congrArg some h.text) s t
  refine ⟨rfl, ?_, rfl, ?_, policy_replace h.isHollow s key t, by cases s <;> rfl⟩
  · rw [artifact_table, artifact_table, artifactFrom_congr (htext _) (htext _)]
  · rw [rule_table, rule_table, ruleFrom_congr (htext _) (htext _)]

/-- An element may be replaced by one that is read as the same artifact. -/
lemma artifacts_replace {v v' : Value} (h : artifact v = artifact v') (xs ys : List Value) :
    artifacts (.array (xs ++ v :: ys)) = artifacts (.array (xs ++ v' :: ys)) := by
  simp only [artifacts, List.mapM_append, List.mapM_cons, h]

lemma Alike.inArray {v v' : Value} (h : Alike v v') (xs ys : List Value) :
    Alike (.array (xs ++ v :: ys)) (.array (xs ++ v' :: ys)) := by
  have htext : ∀ i : Nat, (xs ++ v :: ys)[i]?.map Decode.text =
      (xs ++ v' :: ys)[i]?.map Decode.text :=
    getElem?_replace (Option.map Decode.text) (congrArg some h.text) xs ys
  refine ⟨rfl, ?_, artifacts_replace h.artifact xs ys, ?_, rfl, by cases xs <;> rfl⟩
  · rw [artifact_array, artifact_array, artifactFrom_congr (htext _) (htext _)]
  · rw [rule_array, rule_array, ruleFrom_congr (htext _) (htext _)]

/-- A change of order is not noticed by any field, however deep it lies. -/
lemma alike_of_rearranged {v v' : Value} (h : Rearranged v v') : Alike v v' := by
  induction h with
  | @table s t hkeys h =>
      have hlookup := lookup_perm h hkeys
      have hnil : isHollow (.table s) = isHollow (.table t) := by
        cases s with
        | nil => rw [h.nil_eq]
        | cons x s =>
            cases t with
            | nil => exact absurd h.symm.nil_eq (List.cons_ne_nil x s).symm
            | cons y t => rfl
      exact ⟨rfl, artifact_eq_of_lookup fun key _ => hlookup key, rfl,
        rule_eq_of_lookup fun key _ => hlookup key, policy_perm h, hnil⟩
  | inTable _ s key t ih => exact ih.inTable s key t
  | inArray _ xs ys ih => exact ih.inArray xs ys

/-! ### Changes that go unnoticed -/

/-- One change that no field notices: of the order of some table's keys, or of
a key that its table does not know. -/
inductive Unnoticed : Table → Table → Prop
  | order {t t' : Table} (h : Rearranged (.table t) (.table t')) : Unnoticed t t'
  | key {key : String} (h : key ∉ configKeys) (v : Value) (s t : Table) :
      Unnoticed (s ++ t) (s ++ (key, v) :: t)
  | ruleKey {key : String} (h : key ∉ ruleKeys) (v : Value) (s t before after : Table) :
      Unnoticed (before ++ ("generated", .table (s ++ t)) :: after)
        (before ++ ("generated", .table (s ++ (key, v) :: t)) :: after)
  | artifactKey {key : String} (h : key ∉ artifactKeys) (v : Value) (s t : Table)
      (xs ys : List Value) (before after : Table) :
      Unnoticed (before ++ ("artifacts", .array (xs ++ .table (s ++ t) :: ys)) :: after)
        (before ++ ("artifacts", .array (xs ++ .table (s ++ (key, v) :: t) :: ys)) :: after)

lemma lookup_insert_of_notMem {keys : List String} {k : String} (h : k ∉ keys) (v : Value)
    (s t : Table) : ∀ key ∈ keys, (s ++ t).lookup key = (s ++ (k, v) :: t).lookup key :=
  fun _ hkey => (lookup_insert (ne_of_mem_of_not_mem hkey h) v).symm

lemma decode?_of_unnoticed {t t' : Table} (h : Unnoticed t t') :
    Config.decode? t = Config.decode? t' := by
  cases h with
  | order h =>
      cases h with
      | table hkeys h => exact decode?_eq_of_lookup fun key _ => lookup_perm h hkeys key
      | inTable h s key t => exact decode?_replace ((alike_of_rearranged h).at key) s t
  | key h v s t => exact decode?_eq_of_lookup (lookup_insert_of_notMem h v s t)
  | ruleKey h v s t before after =>
      have hrule := rule_eq_of_lookup (lookup_insert_of_notMem h v s t)
      exact decode?_replace ⟨by simp [textKeys], by simp, fun _ => hrule, by simp⟩ before after
  | artifactKey h v s t xs ys before after =>
      have hartifact := artifact_eq_of_lookup (lookup_insert_of_notMem h v s t)
      have hartifacts := artifacts_replace hartifact xs ys
      exact decode?_replace ⟨by simp [textKeys], fun _ => hartifacts, by simp, by simp⟩ before after

/-- Any number of such changes, made or undone, leave the configuration as it
is. -/
lemma decode?_of_eqvGen {t t' : Table} (h : Relation.EqvGen Unnoticed t t') :
    Config.decode? t = Config.decode? t' := by
  induction h with
  | rel t t' h => exact decode?_of_unnoticed h
  | refl t => rfl
  | symm t t' _ ih => exact ih.symm
  | trans t t' t'' _ _ ih ih' => exact ih.trans ih'

/-! ### The result -/

/-- **Configurations are overlays on the built-in one.** A table is read as
the configuration that has, field by field, what the table gives and the
built-in value otherwise. It is read at all exactly when the field of every
key that is there accepts its value. The order of keys in any table and keys
that a table does not know change nothing. -/
theorem decode_overlays (t : Table) :
    (∀ c, Config.decode? t = some c ↔ ConfigOf t c) ∧
    ((∃ c, Config.decode? t = some c) ↔ ∀ key v, t.lookup key = some v → Admits key v) ∧
    ∀ t', Relation.EqvGen Unnoticed t t' → Config.decode? t' = Config.decode? t := by
  refine ⟨fun c => decode?_eq_some_iff, ?_, fun t' h => (decode?_of_eqvGen h).symm⟩
  rw [← exists_configOf_iff]
  exact exists_congr fun c => decode?_eq_some_iff

namespace Sample

/-- The convention gives one field, the artifacts come in both forms, and the
policy is spelt as a table. -/
def plain : Table :=
  [("generated", .table [("prefix", .string "p_")]),
   ("artifacts", .array
     [.array [.string "a", .string "p_a.go"],
      .table [("remote_path", .string "b"), ("local_name", .string "p_b.go")]]),
   ("status_policy", .table [("permissive", .array [])])]

/-- The same with unknown keys, and with the keys of two tables in another
order. -/
def crowded : Table :=
  [("comment", .boolean true),
   ("status_policy", .table [("permissive", .array [])]),
   ("generated", .table [("suffix", .integer 1), ("prefix", .string "p_")]),
   ("artifacts", .array
     [.array [.string "a", .string "p_a.go"],
      .table [("local_name", .string "p_b.go"), ("remote_path", .string "b")]])]

end Sample

/-- A table in four steps from another, and the configuration of both. -/
theorem decode_overlays_sample :
    Relation.EqvGen Unnoticed Sample.plain Sample.crowded ∧
    Config.decode? Sample.crowded = some { Config.standard with
      artifacts := [⟨"a", "p_a.go"⟩, ⟨"b", "p_b.go"⟩]
      generated := ⟨"p_", "go"⟩
      policy := .permissive } := by
  have hsuffix : "suffix" ∉ ruleKeys := by decide
  have hcomment : "comment" ∉ configKeys := by decide
  have hchange : Relation.EqvGen Unnoticed Sample.plain Sample.crowded := by
    refine .trans _ _ _ (.rel _ _ (.ruleKey hsuffix (.integer 1) [] _ [] _)) ?_
    refine .trans _ _ _ (.rel _ _ (.order (.inTable (.inArray (.table (by decide)
      (List.Perm.swap _ _ [])) [_] []) [_] "artifacts" [_]))) ?_
    refine .trans _ _ _ (.rel _ _ (.order (.table (by decide)
      (@List.perm_append_comm _ [_, _] [_])))) ?_
    exact .rel _ _ (.key hcomment (.boolean true) [] _)
  refine ⟨hchange, ?_⟩
  rw [(decode_overlays Sample.plain).2.2 Sample.crowded hchange]
  decide

end Vendoring.Decode
