/-
A configuration survives being written out and loaded.

* `Artifact.Written`, `Rule.Written`, `Config.Written`: the documents of a
  configuration, whose strings may be spelt in any way;
* `Config.entries`, `Config.Written.leads`: the entries that such a document leads
  to, artifact after artifact (`leads_artifacts`);
* `Config.configOf_entries`: these give every field of the configuration;
* `Config.written_document`: what is written is such a document;
* `load_written` (**nothing is lost**): every such document is loaded as exactly the
  configuration.
-/
import Mathlib.Tactic
import Vendoring.Proofs.Ascii
import Vendoring.Proofs.Lines
import Vendoring.Proofs.Overlay

namespace Vendoring

open Toml (Entries Leads TextLine withElements)

/-! ### Documents of a configuration -/

/-- An artifact as an element of the list, its strings spelt in some way. -/
inductive Artifact.Written (a : Artifact) : List Char → Prop
  | mk {remote name : List Char} (hremote : TextLine "remote_path" a.remotePath remote)
      (hname : TextLine "local_name" a.localName name) :
      Written a ("\n[[artifacts]]\n".toList ++ remote ++ name)

/-- A naming convention as a table. -/
inductive Rule.Written (r : Rule) : List Char → Prop
  | mk {stem extension : List Char} (hstem : TextLine "prefix" r.stem stem)
      (hextension : TextLine "extension" r.extension extension) :
      Written r ("\n[generated]\n".toList ++ stem ++ extension)

/-- A configuration as a document, its target directory spelt `target`: the plain
fields, the naming convention, and the artifacts in order.  That there are none is
said before the first table. -/
inductive Config.Written (c : Config) (target : String) : List Char → Prop
  | mk {revision remote dir policy rule : List Char} {elements : List (List Char)}
      (hrevision : TextLine "revision" c.revision revision)
      (hremote : TextLine "remote_base_url" c.remoteBase remote)
      (hdir : TextLine "target_dir" target dir)
      (hpolicy : TextLine "status_policy" c.policy.word policy)
      (hrule : c.generated.Written rule)
      (helements : List.Forall₂ Artifact.Written c.artifacts elements) :
      Written c target (revision ++ remote ++ dir ++ policy ++
        (if c.artifacts = [] then "artifacts = []\n".toList else []) ++ rule ++ elements.flatten)

/-- The entries that the document of an artifact leads to. -/
def Artifact.entries (a : Artifact) : Entries :=
  [("remote_path", .value (.string a.remotePath)), ("local_name", .value (.string a.localName))]

/-- The entries that the document of a naming convention leads to. -/
def Rule.entries (r : Rule) : Entries :=
  [("prefix", .value (.string r.stem)), ("extension", .value (.string r.extension))]

namespace Config

/-- The entries that stand before the first table. -/
def settings (c : Config) (target : String) : Entries :=
  [("revision", .value (.string c.revision)), ("remote_base_url", .value (.string c.remoteBase)),
    ("target_dir", .value (.string target)), ("status_policy", .value (.string c.policy.word))] ++
    if c.artifacts = [] then [("artifacts", .value (.array []))] else []

/-- The entries that a document leads to. -/
def entries (c : Config) (target : String) : Entries :=
  withElements "artifacts"
    (c.settings target ++ [("generated", .table .header c.generated.entries)])
    (c.artifacts.map Artifact.entries)

end Config

/-! ### What they lead to -/

/-- One further artifact. -/
lemma Artifact.Written.leads {a : Artifact} {x : List Char} (h : a.Written x) {es : Entries}
    (hes : es.lookup "artifacts" = none) (t : List String) (els : List Entries) :
    Leads ⟨t, withElements "artifacts" es els⟩ x
      ⟨["artifacts"], withElements "artifacts" es (els ++ [a.entries])⟩ := by
  obtain ⟨hremote, hname⟩ := h
  have hword : Toml.IsWord "artifacts" := by decide
  have hheader : Leads ⟨t, withElements "artifacts" es els⟩ "\n[[artifacts]]\n".toList
      ⟨["artifacts"], withElements "artifacts" es (els ++ [[]])⟩ :=
    Toml.leads_elementLine hword (Toml.openElement?_withElements hes els)
  have hfirst := Toml.leads_textLine (by decide) hremote
    (Toml.assign?_withElements hes els [] rfl (.string a.remotePath))
  have hsecond := Toml.leads_textLine (by decide) hname
    (Toml.assign?_withElements hes els [("remote_path", .value (.string a.remotePath))] rfl
      (.string a.localName))
  exact (hheader.append hfirst).append hsecond

/-- The artifacts, one after the other: those read so far stay in front. -/
lemma leads_artifacts {as : List Artifact} {xs : List (List Char)}
    (h : List.Forall₂ Artifact.Written as xs) {es : Entries}
    (hes : es.lookup "artifacts" = none) (t : List String) (els : List Entries) :
    ∃ t', Leads ⟨t, withElements "artifacts" es els⟩ xs.flatten
      ⟨t', withElements "artifacts" es (els ++ as.map Artifact.entries)⟩ := by
  induction h generalizing t els with
  | nil =>
      rw [List.map_nil, List.append_nil]
      exact ⟨t, .nil _⟩
  | @cons a x as xs ha _ ih =>
      obtain ⟨t', hrest⟩ := ih ["artifacts"] (els ++ [a.entries])
      refine ⟨t', ?_⟩
      rw [List.append_assoc] at hrest
      exact (ha.leads hes t els).append hrest

/-- The naming convention. -/
lemma Rule.Written.leads {r : Rule} {x : List Char} (h : r.Written x) {es : Entries}
    (hes : es.lookup "generated" = none) (t : List String) :
    Leads ⟨t, es⟩ x ⟨["generated"], es ++ [("generated", .table .header r.entries)]⟩ := by
  obtain ⟨hstem, hextension⟩ := h
  have hword : Toml.IsWord "generated" := by decide
  have hheader : Leads ⟨t, es⟩ "\n[generated]\n".toList
      ⟨["generated"], es ++ [("generated", .table .header [])]⟩ :=
    Toml.leads_tableLine hword (Toml.openTable?_new hes)
  have hfirst := Toml.leads_textLine (by decide) hstem
    (Toml.assign?_table hes [] rfl (.string r.stem))
  have hsecond := Toml.leads_textLine (by decide) hextension
    (Toml.assign?_table hes [("prefix", .value (.string r.stem))] rfl (.string r.extension))
  exact (hheader.append hfirst).append hsecond

/-- A plain field, which no line before has given. -/
lemma leads_plain {word s : String} {x : List Char} (hx : TextLine word s x)
    (hword : Toml.IsWord word) (es : Entries) (hes : es.lookup word = none) :
    Leads ⟨[], es⟩ x ⟨[], es ++ [(word, .value (.string s))]⟩ :=
  Toml.leads_textLine hword hx (Toml.assign?_root hes _)

/-- That there are no artifacts. -/
lemma leads_noArtifacts {es : Entries} (hes : es.lookup "artifacts" = none) :
    Leads ⟨[], es⟩ "artifacts = []\n".toList
      ⟨[], es ++ [("artifacts", .value (.array []))]⟩ := by
  have hword : Toml.IsWord "artifacts" := by decide
  have hvalue : ∀ rest, Toml.value (Toml.skipBlanks (" []".toList ++ '\n' :: rest)) =
      some (.array [], '\n' :: rest) := fun _ => rfl
  exact Toml.leads_setting hword hvalue (Toml.assign?_root hes _)

namespace Config

variable {c : Config} {target : String} {x : List Char}

lemma lookup_settings_generated (c : Config) (target : String) :
    (c.settings target).lookup "generated" = none := by
  rw [settings]
  split_ifs <;> rfl

/-- The plain fields, in their order. -/
lemma leads_settings {revision remote dir policy : List Char}
    (hrevision : TextLine "revision" c.revision revision)
    (hremote : TextLine "remote_base_url" c.remoteBase remote)
    (hdir : TextLine "target_dir" target dir)
    (hpolicy : TextLine "status_policy" c.policy.word policy) :
    Leads ⟨[], []⟩ (revision ++ remote ++ dir ++ policy ++
      if c.artifacts = [] then "artifacts = []\n".toList else []) ⟨[], c.settings target⟩ := by
  have hplain := (((leads_plain hrevision (by decide) [] rfl).append
    (leads_plain hremote (by decide) _ rfl)).append
    (leads_plain hdir (by decide) _ rfl)).append (leads_plain hpolicy (by decide) _ rfl)
  refine hplain.append ?_
  rw [settings]
  split_ifs
  · exact leads_noArtifacts rfl
  · exact .nil _

/-- The whole document.  Without artifacts its last lines are those of the naming
convention, and with some their list is a new key. -/
lemma Written.leads (h : c.Written target x) : ∃ t, Leads ⟨[], []⟩ x ⟨t, c.entries target⟩ := by
  obtain ⟨hrevision, hremote, hdir, hpolicy, hrule, helements⟩ := h
  have hhead := (leads_settings hrevision hremote hdir hpolicy).append
    (hrule.leads (lookup_settings_generated c target) [])
  by_cases hnil : c.artifacts = []
  · rw [hnil] at helements
    cases helements
    refine ⟨["generated"], ?_⟩
    rw [List.flatten_nil, List.append_nil, entries, hnil]
    rw [hnil] at hhead
    exact hhead
  · have hartifacts : (c.settings target ++
        [("generated", Toml.Node.table .header c.generated.entries)]).lookup "artifacts" =
          none := by
      rw [settings, if_neg hnil]
      rfl
    obtain ⟨t, htail⟩ := leads_artifacts helements hartifacts ["generated"] []
    exact ⟨t, hhead.append htail⟩

/-- The elements give the artifacts in their order. -/
lemma artifactsOf_entries (as : List Artifact) :
    Decode.ArtifactsOf (Toml.Node.tables (as.map Artifact.entries)).seal as := by
  refine ⟨Toml.sealTables (as.map Artifact.entries), by rw [Toml.Node.seal], ?_⟩
  induction as with
  | nil => exact .nil
  | cons a as ih => exact .cons (.table rfl rfl) ih

/-- The list of artifacts, whether it is said to be empty or has elements. -/
lemma exists_lookup_artifacts (c : Config) (target : String) :
    ∃ n, (c.entries target).lookup "artifacts" = some n ∧
      Decode.ArtifactsOf n.seal c.artifacts := by
  by_cases hnil : c.artifacts = []
  · refine ⟨.value (.array []), ?_, ?_⟩
    · refine Toml.lookup_withElements ?_ _ _
      rw [settings, if_pos hnil]
      rfl
    · rw [hnil]
      exact ⟨[], by rw [Toml.Node.seal], .nil⟩
  · refine ⟨.tables (c.artifacts.map Artifact.entries), ?_, artifactsOf_entries c.artifacts⟩
    rw [entries, withElements, if_neg (by simpa using hnil)]
    refine Toml.lookup_snoc ?_ _
    rw [settings, if_neg hnil]
    rfl

/-- The entries give every field of the configuration. -/
lemma configOf_entries (htarget : c.targetDir = .ofString target) :
    Decode.ConfigOf (Toml.sealEntries (c.entries target)) c := by
  have hseal : ∀ {word : String} {n : Toml.Node}, (c.entries target).lookup word = some n →
      (Toml.sealEntries (c.entries target)).lookup word = some n.seal := by
    intro word n h
    rw [Toml.lookup_sealEntries, h]
    rfl
  have hplain : ∀ {word s : String},
      (c.settings target ++ [("generated", Toml.Node.table .header c.generated.entries)]).lookup
        word = some (.value (.string s)) →
      (Toml.sealEntries (c.entries target)).lookup word = some (.string s) := by
    intro word s h
    rw [hseal (Toml.lookup_withElements h _ _), Toml.Node.seal]
  refine ⟨?_, ?_, ?_, ?_, ?_, ?_⟩
  · rw [hplain (s := c.revision) rfl]
    exact .given rfl
  · rw [hplain (s := c.remoteBase) rfl]
    exact .given rfl
  · rw [hplain (s := target) rfl]
    exact .given ⟨target, rfl, htarget⟩
  · obtain ⟨n, hlookup, hartifacts⟩ := exists_lookup_artifacts c target
    rw [hseal hlookup]
    exact .given hartifacts
  · rw [hseal (Toml.lookup_withElements (Toml.lookup_snoc (lookup_settings_generated c target) _)
      _ _), Toml.Node.seal]
    exact .given (.table (.given rfl) (.given rfl))
  · rw [hplain (s := c.policy.word) rfl]
    exact .given (.word c.policy)

/-- A document does not begin with a byte order mark. -/
lemma Written.skipMark_eq (h : c.Written target x) : Toml.skipMark x = x := by
  obtain ⟨⟨body, -, rfl⟩, -⟩ := h
  rfl

/-- A document of a configuration is read as exactly this configuration. -/
lemma Written.ofText?_eq {text : String} (h : c.Written target text.toList)
    (htarget : c.targetDir = .ofString target) : ofText? text = some c := by
  obtain ⟨t, hleads⟩ := h.leads
  rw [ofText?, Toml.parse?]
  simp only [h.skipMark_eq, hleads.lines_eq, Option.map_some, Option.bind_some]
  exact Decode.decode?_eq_some_iff.mpr (configOf_entries htarget)

end Config

/-! ### What is written -/

lemma Toml.textLine_spelling (word value : String) :
    TextLine word value (Toml.textLine word value).toList := by
  refine ⟨value.toList.flatMap Toml.escaped, Toml.escaped_textSpelling _, ?_⟩
  simp [Toml.textLine, Toml.settingLine, Toml.quoted]

lemma Artifact.written_document (a : Artifact) : a.Written a.document.toList := by
  rw [Artifact.document, String.toList_append, String.toList_append]
  exact .mk (Toml.textLine_spelling _ _) (Toml.textLine_spelling _ _)

lemma Rule.written_document (r : Rule) : r.Written r.document.toList := by
  rw [Rule.document, String.toList_append, String.toList_append]
  exact .mk (Toml.textLine_spelling _ _) (Toml.textLine_spelling _ _)

/-- What is written is one of the documents of the configuration. -/
lemma Config.written_document (c : Config) (target : String) :
    c.Written target (c.document target).toList := by
  have helements : List.Forall₂ Artifact.Written c.artifacts
      (c.artifacts.map fun a => a.document.toList) :=
    List.forall₂_map_right_iff.mpr (List.forall₂_same.mpr fun a _ => a.written_document)
  have hnone : (if c.artifacts.isEmpty then Toml.settingLine "artifacts" "[]" else "").toList =
      if c.artifacts = [] then "artifacts = []\n".toList else [] := by
    cases c.artifacts <;> rfl
  simp only [Config.document, String.toList_append, String.toList_join, hnone, List.flatMap_map]
  rw [List.flatMap_def]
  exact .mk (Toml.textLine_spelling _ _) (Toml.textLine_spelling _ _)
    (Toml.textLine_spelling _ _) (Toml.textLine_spelling _ _) c.generated.written_document
    helements

/-! ### The round trip -/

/-- **Nothing is lost**: a configuration whose target directory is text is loaded
unchanged from every document that spells out its fields, in particular from the one
that is written for it. -/
theorem load_written (c : Config) (target : String)
    (htarget : Bytes.toString? c.targetDir.bytes = some target) :
    c.Written target (c.document target).toList ∧
    ∀ text : String, c.Written target text.toList →
      ∀ (w : Workspace) (path : Path), w.read path = .ok (Bytes.ofString text) →
        Config.load w (some path) = .ok (c, [.log (.loadedConfig path c)]) := by
  refine ⟨c.written_document target, fun text hwritten w path hread => ?_⟩
  have hdir : c.targetDir = .ofString target :=
    congrArg Path.mk (Bytes.toString?_eq_some_iff.mp htarget)
  have htext : w.readText path = .ok text := by
    rw [Workspace.readText, hread]
    simp only [Bytes.toString?_ofString]
  rw [Config.load]
  simp only [htext, hwritten.ofText?_eq hdir]

namespace Sample

/-- Strings of quotes, backslashes, line ends, other control characters and nothing,
and words that look like lines of a document. -/
def awkward : Config where
  revision := "\"\\u0041\"\n[generated]\n"
  remoteBase := "\x00\x1f\x7f\t\r"
  targetDir := .ofString "größe/\"\"\""
  artifacts := [⟨"", "artifacts = []"⟩, ⟨"]]\\", ""⟩, ⟨"", "artifacts = []"⟩]
  generated := ⟨"", "\u0301"⟩
  policy := .permissive

/-- The same without artifacts. -/
def idle : Config := { awkward with artifacts := [] }

/-- A directory with one file, which holds a text. -/
def holding (text : String) : Workspace where
  tree := ⟨[([Bytes.ofString "vendor.toml"], .file (Bytes.ofString text))], by simp⟩
  current := []

lemma read_holding (text : String) :
    (holding text).read (.ofString "vendor.toml") = .ok (Bytes.ofString text) := rfl

end Sample

theorem load_written_sample :
    Config.load (Sample.holding (Sample.awkward.document "größe/\"\"\""))
      (some (.ofString "vendor.toml")) =
      .ok (Sample.awkward, [.log (.loadedConfig (.ofString "vendor.toml") Sample.awkward)]) ∧
    Config.load (Sample.holding (Sample.idle.document "größe/\"\"\""))
      (some (.ofString "vendor.toml")) =
      .ok (Sample.idle, [.log (.loadedConfig (.ofString "vendor.toml") Sample.idle)]) := by
  obtain ⟨hawkward, hload⟩ :=
    load_written Sample.awkward "größe/\"\"\"" (Bytes.toString?_ofString _)
  obtain ⟨hidle, hload'⟩ := load_written Sample.idle "größe/\"\"\"" (Bytes.toString?_ofString _)
  exact ⟨hload _ hawkward _ _ (Sample.read_holding _), hload' _ hidle _ _ (Sample.read_holding _)⟩

end Vendoring
