/-
What a command line leaves alone.

* `LineCourse`, `perform_course`: a line is misused, its configuration is not
  loaded, or its command is carried out;
* `carryOut_refused`: a command that ends with a refused configuration has done
  nothing, whatever the remote side is;
* `Workspace.Built.perform`: what a line leaves is built from an empty tree, as
  what it found was;
* `clean_confined`: cleaning changes marked entries of the target directory only;
* `perform_restraint` (**restraint**): a line that ends early touches nothing,
  planning never does, and cleaning asks for nothing and stays in the target
  directory.
-/
import Mathlib.Tactic
import Vendoring.Program
import Vendoring.Proofs.Plan

namespace Vendoring

variable {fetch : Option Nat → Fetcher} {args : List Bytes} {w : Workspace} {c : Config}

/-! ### The courses of a line -/

/-- Loading a configuration does nothing but log. -/
lemma buildConfig_effects {options : Given} {loaded : Trace}
    (h : buildConfig w options = .ok (c, loaded)) : loaded.effects = [] := by
  rw [buildConfig] at h
  cases hload : Config.load w options.config with
  | error e => simp [hload] at h
  | ok found =>
      obtain ⟨c₀, trace⟩ := found
      simp only [hload, Except.ok.injEq, Prod.mk.injEq] at h
      obtain ⟨_, rfl⟩ := h
      cases hpath : options.config with
      | none =>
          simp only [hpath, Config.load, Except.ok.injEq, Prod.mk.injEq] at hload
          rw [← hload.2]
          rfl
      | some path =>
          simp only [hpath, Config.load] at hload
          split at hload
          · cases hload
          · split at hload
            · cases hload
            · cases hload
              rfl

/-- What a command line can come to. -/
inductive LineCourse (fetch : Option Nat → Fetcher) (args : List Bytes) (w : Workspace) :
    Performed ProgramError → Prop
  /-- The arguments make no sense, or ask for help. -/
  | misused {e : UsageError} (h : Arguments.parse args = .error e) :
      LineCourse fetch args w ⟨.error (.usage e), [], w, []⟩
  /-- The configuration is not read or not decoded. -/
  | unloaded {a : Arguments} {e : LoadError} (ha : Arguments.parse args = .ok a)
      (h : buildConfig w a.options = .error e) :
      LineCourse fetch args w ⟨.error (.load e), [], w, []⟩
  /-- The command is carried out; what went before is logged only. -/
  | carried {a : Arguments} {c : Config} {loaded : Trace} {p : Performed Failure}
      (ha : Arguments.parse args = .ok a) (hc : buildConfig w a.options = .ok (c, loaded))
      (hloaded : loaded.effects = [])
      (hp : p = carryOut (a.command.getD .sync) (fetch a.options.timeout) c w) :
      LineCourse fetch args w
        ⟨p.result.mapError .failure, p.output, p.workspace, loaded ++ p.trace⟩

/-- **The courses of a line**: every line takes one of them. -/
theorem perform_course (fetch : Option Nat → Fetcher) (args : List Bytes) (w : Workspace) :
    LineCourse fetch args w (perform fetch args w) := by
  rw [perform]
  cases ha : Arguments.parse args with
  | error e => exact .misused ha
  | ok a =>
      cases hc : buildConfig w a.options with
      | error e =>
          simp only [hc]
          exact .unloaded ha hc
      | ok built =>
          obtain ⟨c, loaded⟩ := built
          simp only [hc]
          exact .carried ha hc (buildConfig_effects hc) rfl

/-! ### Commands -/

section Printing

variable {α : Type} (before : List String) (after : α → List String) (o : Outcome α)

@[simp] lemma printing_workspace : (printing before after o).workspace = o.workspace := by
  rw [printing]
  cases o.result <;> rfl

@[simp] lemma printing_trace : (printing before after o).trace = o.trace := by
  rw [printing]
  cases o.result <;> rfl

lemma printing_eq_error_iff {e : Failure} :
    (printing before after o).result = .error e ↔ o.result = .error e := by
  rw [printing]
  cases ho : o.result <;> simp

end Printing

/-- A command that ends with a refused configuration has printed at most a
heading, and would end so with every other remote side. -/
lemma carryOut_refused {command : Command} {remote : Fetcher} {fault : ConfigError}
    (h : (carryOut command remote c w).result = .error (.config fault)) :
    ∃ output, ∀ remote',
      carryOut command remote' c w = ⟨.error (.config fault), output, w, []⟩ := by
  cases command with
  | sync =>
      have hrun : (run remote c w).result = .error (.config fault) :=
        (printing_eq_error_iff _ _ _).mp h
      have hend := run_end remote c w
      rw [hrun] at hend
      cases hend with
      | refused hv =>
          refine ⟨["Downloading LSP protocol files for " ++ c.revision], fun remote' => ?_⟩
          simp only [carryOut, performSync, run, hv, printing]
  | clean =>
      -- cleaning does not look at the artifacts, so it cannot refuse them
      have hclean := clean_error ((printing_eq_error_iff _ _ _).mp h)
      obtain ⟨_, he⟩ | ⟨_, _, he⟩ := hclean <;> cases he
  | plan =>
      cases hv : c.validate with
      | error e =>
          simp only [carryOut, performPlan, hv, Except.error.injEq, Failure.config.injEq] at h
          refine ⟨[], fun remote' => ?_⟩
          simp only [carryOut, performPlan, hv, h]
      | ok u => simp [carryOut, performPlan, hv] at h

/-- Planning does nothing. -/
lemma performPlan_idle (c : Config) (w : Workspace) :
    (performPlan c w).workspace = w ∧ (performPlan c w).trace = [] := by
  rw [performPlan]
  split <;> exact ⟨rfl, rfl⟩

/-- A command leaves a workspace that comes from an empty tree as well. -/
lemma Workspace.Built.carryOut (h : w.Built) (command : Command) (remote : Fetcher)
    (c : Config) : (Vendoring.carryOut command remote c w).workspace.Built := by
  cases command with
  | sync =>
      rw [Vendoring.carryOut, performSync, printing_workspace]
      exact h.run remote c
  | clean =>
      rw [Vendoring.carryOut, performClean, printing_workspace]
      exact h.clean c.targetDir c.generated
  | plan =>
      rw [Vendoring.carryOut, (performPlan_idle c w).1]
      exact h

/-- **Every line** leaves such a workspace, so that the next one finds names that a
file system has. -/
theorem Workspace.Built.perform (h : w.Built) (fetch : Option Nat → Fetcher)
    (args : List Bytes) : (Vendoring.perform fetch args w).workspace.Built := by
  have hcourse := perform_course fetch args w
  generalize Vendoring.perform fetch args w = line at hcourse ⊢
  cases hcourse with
  | misused _ => exact h
  | unloaded _ _ => exact h
  | carried _ _ _ hp =>
      rw [hp]
      exact h.carryOut _ _ _

/-- **Cleaning is confined**: whatever comes of it, only marked entries of the
directory that the target path leads to are changed. -/
lemma clean_confined (hw : w.tree.Named) (c : Config) :
    (clean w c.targetDir c.generated).workspace.current = w.current ∧
      ∀ l, (clean w c.targetDir c.generated).workspace.tree.get? l ≠ w.tree.get? l →
        ∃ d n, w.resolve c.targetDir = .ok d ∧ c.generated.marks n = true ∧ l = d ++ [n] := by
  have hcourse := clean_course hw c.targetDir c.generated
  generalize clean w c.targetDir c.generated = o at hcourse ⊢
  cases hcourse with
  | unlisted _ => exact ⟨rfl, fun l hne => absurd rfl hne⟩
  | stuck hd hnames _ _ _ _ =>
      exact ⟨rfl, fun l => exists_marked_of_ne hd
        (FileTree.eraseNames_differOnlyAt (marks_of_mem_before hnames))⟩
  | cleared hd _ _ _ _ =>
      exact ⟨rfl, fun l => exists_marked_of_ne hd (Workspace.cleared_differOnlyAt _ _ _)⟩

/-! ### Whole lines -/

/-- Why a line can end before anything is done: help or a usage error, a
configuration that is not read or not decoded, or one that is refused. -/
def ProgramError.Early : ProgramError → Prop
  | .usage _ => True
  | .load _ => True
  | .failure f => ∃ fault, f = .config fault

/-- The line requests nothing, and no other remote side makes a difference to
it. -/
def AsksNothing (fetch : Option Nat → Fetcher) (args : List Bytes) (w : Workspace) : Prop :=
  (perform fetch args w).trace.requests = [] ∧
    ∀ fetch', perform fetch' args w = perform fetch args w

lemma requests_eq_nil {trace : Trace} (h : trace.effects = []) : trace.requests = [] := by
  rw [← trace.views_effects.1, h]
  rfl

/-- A line whose command never looks at the remote side asks for nothing. -/
lemma asksNothing_of_carryOut {a : Arguments} (ha : Arguments.parse args = .ok a)
    (hsame : ∀ c loaded, buildConfig w a.options = .ok (c, loaded) → ∃ p : Performed Failure,
      p.trace.requests = [] ∧ ∀ remote, carryOut (a.command.getD .sync) remote c w = p) :
    AsksNothing fetch args w := by
  cases hc : buildConfig w a.options with
  | error e => simp [AsksNothing, perform, ha, hc]
  | ok built =>
      obtain ⟨c, loaded⟩ := built
      obtain ⟨p, hrequests, hp⟩ := hsame c loaded hc
      have hloaded := requests_eq_nil (buildConfig_effects hc)
      simp [AsksNothing, perform, ha, hc, hp, hrequests, hloaded]

/-- A line that ends early is idle. -/
lemma idle_of_early {e : ProgramError} (h : (perform fetch args w).result = .error e)
    (he : e.Early) : (perform fetch args w).workspace = w ∧ AsksNothing fetch args w := by
  have hcourse := perform_course fetch args w
  generalize hline : perform fetch args w = line at hcourse h
  cases hcourse with
  | misused hargs => exact ⟨rfl, by simp [AsksNothing, perform, hargs]⟩
  | unloaded ha hc => exact ⟨rfl, by simp [AsksNothing, perform, ha, hc]⟩
  | @carried a c loaded p ha hc _ hp =>
      cases hresult : p.result with
      | ok u =>
          rw [hresult] at h
          cases h
      | error f =>
          rw [hresult] at h
          cases h
          obtain ⟨fault, rfl⟩ := he
          rw [hp] at hresult
          obtain ⟨output, hrefused⟩ := carryOut_refused hresult
          refine ⟨by rw [hp, hrefused], asksNothing_of_carryOut ha fun c' loaded' hc' => ?_⟩
          rw [hc] at hc'
          cases hc'
          exact ⟨_, rfl, hrefused⟩

/-- **Restraint**: a line that ends with help, a usage error, or a configuration
that is not read, not decoded or refused, leaves the workspace as it was and asks
for nothing. A plan does so in every case. Cleaning asks for nothing, and what
it changes are marked entries of the directory that the target path leads to. -/
theorem perform_restraint (hw : w.tree.Named) (fetch : Option Nat → Fetcher)
    (args : List Bytes) :
    (∀ e, (perform fetch args w).result = .error e → e.Early →
      (perform fetch args w).workspace = w ∧ AsksNothing fetch args w) ∧
    ∀ a, Arguments.parse args = .ok a →
      (a.command = some .plan →
        (perform fetch args w).workspace = w ∧ AsksNothing fetch args w) ∧
      (a.command = some .clean → AsksNothing fetch args w ∧
        (perform fetch args w).workspace.current = w.current ∧
        ∀ l, (perform fetch args w).workspace.tree.get? l ≠ w.tree.get? l →
          ∃ c loaded d n, buildConfig w a.options = .ok (c, loaded) ∧
            w.resolve c.targetDir = .ok d ∧ c.generated.marks n = true ∧ l = d ++ [n]) := by
  refine ⟨fun e h he => idle_of_early h he, fun a ha => ⟨fun hplan => ?_, fun hclean => ?_⟩⟩
  · refine ⟨?_, asksNothing_of_carryOut ha fun c loaded _ => ⟨performPlan c w, ?_, ?_⟩⟩
    · cases hc : buildConfig w a.options with
      | error e => simp [perform, ha, hc]
      | ok built => simp [perform, ha, hc, hplan, carryOut, performPlan_idle]
    · rw [(performPlan_idle c w).2, Trace.requests_nil]
    · simp [hplan, carryOut]
  · refine ⟨asksNothing_of_carryOut ha fun c loaded _ => ⟨performClean c w, ?_, ?_⟩, ?_⟩
    · rw [performClean, printing_trace]
      exact (clean_trace w c.targetDir c.generated).1
    · simp [hclean, carryOut]
    · cases hc : buildConfig w a.options with
      | error e =>
          have hidle : (perform fetch args w).workspace = w := by simp [perform, ha, hc]
          rw [hidle]
          exact ⟨rfl, fun l hne => absurd rfl hne⟩
      | ok built =>
          obtain ⟨c, loaded⟩ := built
          have hcleaned : (perform fetch args w).workspace =
              (clean w c.targetDir c.generated).workspace := by
            simp [perform, ha, hc, hclean, carryOut, performClean]
          obtain ⟨hcurrent, hchanged⟩ := clean_confined hw c
          rw [hcleaned]
          refine ⟨hcurrent, fun l hne => ?_⟩
          obtain ⟨d, n, hd, hn, hl⟩ := hchanged l hne
          exact ⟨c, loaded, d, n, rfl, hd, hn, hl⟩

namespace Sample

/-- A command line. -/
def line (words : List String) : List Bytes := words.map Bytes.ofString

/-- Cleaning, with options on both sides of the command. -/
def cleaning : List Bytes := line ["--permissive", "clean", "--root", "way", "--timeout-secs=7"]

/-- The same with a number of seconds that is none. -/
def misspelt : List Bytes := line ["clean", "--root", "way", "--timeout-secs", "0"]

/-- The root is a link to the directory that holds the target directory. -/
def home : Workspace where
  tree :=
    { entries :=
        [([Bytes.ofString "way"], .link (.ofString "out")),
          ([Bytes.ofString "out", Bytes.ofString "lib"], .link (.ofString "../store")),
          ([Bytes.ofString "out"], .directory),
          ([Bytes.ofString "store", Bytes.ofString "languageserver"], .link (.ofString ".")),
          ([Bytes.ofString "store", Bytes.ofString "internal"], .link (.ofString ".")),
          ([Bytes.ofString "store", Bytes.ofString "protocol", Bytes.ofString "generated_a.go"],
            .link (.ofString "../../safe")),
          ([Bytes.ofString "store", Bytes.ofString "protocol"], .directory),
          ([Bytes.ofString "store"], .directory),
          ([Bytes.ofString "safe"], .file [1, 2])]
      nodup := by decide }
  current := []

/-- The entries were made one after another, those of a directory after it. -/
lemma home_built : home.Built := by
  have hsafe := (Workspace.Built.empty []).putFile (.ofString "safe") [1, 2] (by decide) rfl
  have hstale := hsafe.makeLink (.ofString "store/protocol/generated_a.go")
    (.ofString "../../safe") (by decide) (by decide) rfl
  have hinternal := hstale.makeLink (.ofString "store/internal") (.ofString ".") (by decide)
    (by decide) rfl
  have hserver := hinternal.makeLink (.ofString "store/languageserver") (.ofString ".")
    (by decide) (by decide) rfl
  have hlib := hserver.makeLink (.ofString "out/lib") (.ofString "../store") (by decide)
    (by decide) rfl
  exact hlib.makeLink (.ofString "way") (.ofString "out") (by decide) (by decide) rfl

/-- The target directory of the line. -/
def store : Location := [Bytes.ofString "store", Bytes.ofString "protocol"]

/-- What the line asks for. -/
def cleaningArguments : Arguments :=
  ⟨some .clean, { root := some (.ofString "way"), timeout := some 7, permissive := true }⟩

/-- The configuration of the line. -/
def cleaningConfig : Config :=
  { Config.standard.rootedAt (.ofString "way") with policy := .permissive }

end Sample

theorem perform_restraint_sample :
    (perform (fun _ => Sample.changing) Sample.misspelt Sample.home).workspace = Sample.home ∧
      AsksNothing (fun _ => Sample.changing) Sample.cleaning Sample.home ∧
      (perform (fun _ => Sample.changing) Sample.cleaning Sample.home).workspace.tree.get?
        [Bytes.ofString "safe"] = some (.file [1, 2]) := by
  have hnamed : Sample.home.tree.Named := Sample.home_built.named
  obtain ⟨hearly, _⟩ := perform_restraint hnamed (fun _ => Sample.changing) Sample.misspelt
  obtain ⟨_, hlines⟩ := perform_restraint hnamed (fun _ => Sample.changing) Sample.cleaning
  have hparse : Arguments.parse Sample.cleaning = .ok Sample.cleaningArguments := by decide
  obtain ⟨hasks, _, hchanged⟩ := (hlines _ hparse).2 rfl
  refine ⟨(hearly (.usage .valueValidation) (by decide) trivial).1, hasks, ?_⟩
  by_contra hne
  obtain ⟨c, loaded, d, n, hc, hd, _, hl⟩ := hchanged [Bytes.ofString "safe"] hne
  have hbuilt : buildConfig Sample.home Sample.cleaningArguments.options =
      .ok (Sample.cleaningConfig, []) := by decide
  have hstore : Sample.home.resolve Sample.cleaningConfig.targetDir = .ok Sample.store := by decide
  rw [hbuilt] at hc
  cases hc
  rw [hstore] at hd
  cases hd
  simp [Sample.store] at hl

end Vendoring
