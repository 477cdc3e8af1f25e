/-
The log tells what was done.

* `Tells`: what a log tells of, by the messages and levels of its events;
* `Config.passing`: the artifacts whose answers pass the policy, read off the
  answers to what was requested; `Config.account`: the events of such an artifact;
* `removeEach_kept`, `clean_kept`, `begun_kept`: removals, each with its event
  behind it, up to where cleaning is over;
* `Recorded`, `syncFrom_recorded`, `run_keeps`: requests and writes, each with its
  event in front, in the loop over the artifacts and in every run, also where it
  stops;
* `run_recorded` (**the log is a faithful record**) of what is removed, requested
  and written.
-/
import Mathlib.Tactic
import Vendoring.Log
import Vendoring.Proofs.Policy

namespace Vendoring

/-! ### Events -/

namespace Trace

variable (s t : Trace)

@[simp] lemma events_nil : events [] = [] := rfl

@[simp] lemma events_append : events (s ++ t) = events s ++ events t := List.filterMap_append

@[simp] lemma events_log (e : Event) : events (.log e :: t) = e :: events t := rfl

@[simp] lemma events_request (url : String) : events (.request url :: t) = events t := rfl

@[simp] lemma events_delete (p : Path) : events (.delete p :: t) = events t := rfl

@[simp] lemma events_write (p : Path) : events (.write p :: t) = events t := rfl

end Trace

/-! ### Removals -/

/-- The loop over paths logs what it removes, and removing just that comes to the
same. -/
lemma removeEach_kept (w : Workspace) (ps : List Path) :
    (removeEach w ps).trace.events = (removeEach w ps).trace.deleted.map .deleted ∧
      (removeEach w (removeEach w ps).trace.deleted).result = .ok () ∧
        (removeEach w (removeEach w ps).trace.deleted).workspace = (removeEach w ps).workspace := by
  induction ps generalizing w with
  | nil => exact ⟨rfl, rfl, rfl⟩
  | cons p rest ih =>
      rw [removeEach]
      cases hp : w.remove p with
      | error cause => exact ⟨rfl, rfl, rfl⟩
      | ok w' =>
          obtain ⟨hevents, hresult, hworkspace⟩ := ih w'
          simp only [Trace.events_delete, Trace.events_log, Trace.deleted_delete,
            Trace.deleted_log, List.map_cons, hevents, removeEach, hp]
          exact ⟨trivial, hresult, hworkspace⟩

/-- So does cleaning. -/
lemma clean_kept (w : Workspace) (dir : Path) (rule : Rule) :
    (clean w dir rule).trace.events = (clean w dir rule).trace.deleted.map .deleted ∧
      (removeEach w (clean w dir rule).trace.deleted).result = .ok () ∧
        (removeEach w (clean w dir rule).trace.deleted).workspace =
          (clean w dir rule).workspace := by
  rw [clean]
  split
  · exact ⟨rfl, rfl, rfl⟩
  · exact removeEach_kept w _

/-! ### Requests and writes -/

namespace Config

/-- The response of an artifact, if there is one and the policy accepts it. -/
def accepted? (c : Config) : Artifact × Except FetchError Response → Option (Artifact × Response)
  | (a, .ok r) => if c.policy.refusal? r = none then some (a, r) else none
  | (_, .error _) => none

/-- The artifacts whose answers pass the policy, with their responses.  The answers
are those to the first artifacts, in order. -/
def passing (c : Config) (as : List Artifact) (answers : List (Except FetchError Response)) :
    List (Artifact × Response) :=
  (as.zip answers).filterMap c.accepted?

/-- The warning for an artifact's response. -/
def warning (c : Config) (x : Artifact × Response) : Event :=
  .nonSuccess (c.artifactUrl x.1) x.2.status x.2.redirect

/-- What is logged of an artifact whose response passes the policy: a warning
stands in the middle unless the status is a success. -/
def account (c : Config) (x : Artifact × Response) : List Event :=
  .downloading (c.artifactUrl x.1) ::
    (if x.2.isSuccess then [] else [c.warning x]) ++
    [.writing (c.targetPath x.1)]

/-- The event that a run begins with, if its configuration is valid. -/
def opening (c : Config) : List Event :=
  match c.validate with
  | .ok () => [.vendoring c.revision c.targetDir c.artifacts.length]
  | .error _ => []

end Config

/-- The path whose file could not be written, if this is the failure. -/
def unwritten {α : Type} : Except Failure α → List Path
  | .error (.writeFailed path _) => [path]
  | _ => []

lemma unwritten_map {α β : Type} (f : α → β) (result : Except Failure α) :
    unwritten (result.map f) = unwritten result := by
  cases result with
  | error e => cases e <;> rfl
  | ok x => rfl

section Recorded

variable {fetch : Fetcher} {c : Config} {asked : List String} {a : Artifact} {as : List Artifact}
  {r : Response} {w : Workspace}

lemma Config.passing_cons_ok (answers : List (Except FetchError Response))
    (hpolicy : c.policy.refusal? r = none) :
    c.passing (a :: as) (.ok r :: answers) = (a, r) :: c.passing as answers := by
  rw [passing, List.zip_cons_cons, List.filterMap_cons, accepted?, if_pos hpolicy]
  rfl

lemma Config.passing_nil (c : Config) (as : List Artifact) : c.passing as [] = [] := by
  rw [passing, List.zip_nil_right, List.filterMap_nil]

lemma Config.passing_refused {answer : Except FetchError Response}
    (h : c.accepted? (a, answer) = none) : c.passing (a :: as) [answer] = [] := by
  rw [passing, List.zip_cons_cons, List.filterMap_cons, h, List.zip_nil_right]
  rfl

/-- What is done for an artifact and its answer before the file is written. -/
def Config.readied (c : Config) (x : Artifact × Response) : Trace :=
  [.log (.downloading (c.artifactUrl x.1)), .request (c.artifactUrl x.1)] ++
    warnings (c.artifactUrl x.1) x.2 ++ [.log (.writing (c.targetPath x.1))]

lemma Config.steps_eq (c : Config) (x : Artifact × Response) :
    c.steps x = c.readied x ++ [.write (c.targetPath x.1)] := by
  rw [steps, readied, List.append_assoc _ [_] [_]]
  rfl

/-- Before the file is written, there is a request and the account. -/
lemma Config.views_readied (c : Config) (x : Artifact × Response) :
    (c.readied x).requests = [c.artifactUrl x.1] ∧ (c.readied x).deleted = [] ∧
      (c.readied x).written = [] ∧ (c.readied x).events = c.account x := by
  obtain ⟨hrequests, hdeleted, hwritten⟩ := (warnings (c.artifactUrl x.1) x.2).views_effects
  rw [effects_warnings] at hrequests hdeleted hwritten
  simp only [readied, Trace.requests_append, Trace.deleted_append, Trace.written_append,
    Trace.events_append, ← hrequests, ← hdeleted, ← hwritten]
  refine ⟨rfl, rfl, rfl, ?_⟩
  rw [account, warnings]
  split <;> rfl

/-- The log of an outcome: behind the events `opening` and those of the paths
`removed`, it tells of the artifacts `passed`, whose answers pass the policy. -/
structure Recorded {α : Type} (fetch : Fetcher) (c : Config) (asked : List String)
    (as : List Artifact) (opening : List Event) (removed : List Path) (w : Workspace)
    (o : Outcome α) (passed : List (Artifact × Response)) : Prop where
  eq : passed = c.passing as (fetch.replies asked o.trace.requests)
  deleted : o.trace.deleted = removed
  requests : o.trace.requests <+: as.map c.artifactUrl
  first : passed.map (fun x => c.artifactUrl x.1) <+: o.trace.requests
  last : o.trace.requests.length ≤ passed.length + 1
  /-- Behind the accounts, there is at most a request that came to nothing. -/
  events : o.trace.events = opening ++ (removed.map .deleted ++
    passed.flatMap c.account ++ (o.trace.requests.drop passed.length).map .downloading)
  written : passed.map (fun x => c.targetPath x.1) = o.trace.written ++ unwritten o.result
  gone : (removeEach w removed).result = .ok ()
  workspace : Workspace.writeEach c.targetDir ((passed.take o.trace.written.length).map fileOf)
    (removeEach w removed).workspace = .ok o.workspace

/-- Where nothing is done, nothing is logged. -/
lemma recorded_idle {α : Type} {result : Except Failure α} (h : unwritten result = []) :
    Recorded fetch c asked as [] [] w ⟨result, w, []⟩ [] where
  eq := (c.passing_nil as).symm
  deleted := rfl
  requests := List.nil_prefix
  first := List.nil_prefix
  last := Nat.zero_le _
  events := rfl
  written := h.symm
  gone := rfl
  workspace := rfl

/-- The loop stops at an artifact whose answer does not pass. -/
lemma recorded_of_refused (rest : List Artifact) (why : String)
    (h : c.accepted? (a, fetch asked (c.artifactUrl a)) = none) :
    Recorded fetch c asked (a :: rest) [] [] w
      (⟨.error (.transport (c.artifactUrl a) why), w,
        [.log (.downloading (c.artifactUrl a)), .request (c.artifactUrl a)]⟩ :
          Outcome (List Written)) [] where
  eq := (Config.passing_refused h).symm
  deleted := rfl
  requests := ⟨rest.map c.artifactUrl, rfl⟩
  first := List.nil_prefix
  last := le_rfl
  events := rfl
  written := rfl
  gone := rfl
  workspace := rfl

/-- The loop stops at an artifact whose file cannot be written. -/
lemma recorded_of_unwritten (rest : List Artifact) (cause : FileError)
    (hfetch : fetch asked (c.artifactUrl a) = .ok r) (hpolicy : c.policy.refusal? r = none) :
    Recorded fetch c asked (a :: rest) [] [] w
      (⟨.error (.writeFailed (c.targetPath a) cause), w, c.readied (a, r)⟩ :
        Outcome (List Written)) [(a, r)] := by
  obtain ⟨hrequests, hdeleted, hwritten, hevents⟩ := c.views_readied (a, r)
  refine ⟨?_, hdeleted, ?_, ?_, ?_, ?_, ?_, rfl, ?_⟩
  · rw [hrequests, Fetcher.replies, hfetch, Config.passing_cons_ok _ hpolicy, Fetcher.replies,
      Config.passing_nil]
  · rw [hrequests]
    exact ⟨rest.map c.artifactUrl, rfl⟩
  · rw [hrequests]
    exact List.prefix_rfl
  · simp [hrequests]
  · rw [hrequests, hevents]
    simp
  · rw [hwritten]
    rfl
  · rw [hwritten]
    rfl

/-- Behind an artifact that is written, the log goes on. -/
lemma Recorded.behind_written {o : Outcome (List Written)} {w' : Workspace}
    {rest : List Artifact} {passed : List (Artifact × Response)}
    (h : Recorded fetch c (asked ++ [c.artifactUrl a]) rest [] [] w' o passed)
    (hfetch : fetch asked (c.artifactUrl a) = .ok r) (hpolicy : c.policy.refusal? r = none)
    (hwrite : w.write (c.targetPath a) (Bytes.ofString r.body) = .ok w') :
    Recorded fetch c asked (a :: rest) [] [] w
      (⟨o.result.map (c.recordOf (a, r) :: ·), o.workspace, c.steps (a, r) ++ o.trace⟩ :
        Outcome (List Written)) ((a, r) :: passed) := by
  obtain ⟨hrequests, hdeleted, hwritten, hevents⟩ := c.views_readied (a, r)
  have hrequests' : Trace.requests (c.steps (a, r) ++ o.trace) =
      c.artifactUrl a :: o.trace.requests := by
    simp [c.steps_eq, hrequests]
  have hwritten' : Trace.written (c.steps (a, r) ++ o.trace) =
      c.targetPath a :: o.trace.written := by
    simp [c.steps_eq, hwritten]
  have hevents' : Trace.events (c.steps (a, r) ++ o.trace) =
      c.account (a, r) ++ o.trace.events := by
    simp [c.steps_eq, hevents]
  refine ⟨?_, ?_, ?_, ?_, ?_, ?_, ?_, rfl, ?_⟩
  · rw [hrequests', Fetcher.replies, hfetch, Config.passing_cons_ok _ hpolicy, ← h.eq]
  · simp [c.steps_eq, hdeleted, h.deleted]
  · rw [hrequests', List.map_cons]
    exact List.cons_prefix_cons.mpr ⟨rfl, h.requests⟩
  · rw [hrequests', List.map_cons]
    exact List.cons_prefix_cons.mpr ⟨rfl, h.first⟩
  · rw [hrequests', List.length_cons, List.length_cons]
    exact Nat.succ_le_succ h.last
  · rw [hrequests', hevents', h.events, List.length_cons, List.drop_succ_cons, List.flatMap_cons]
    simp
  · rw [hwritten', unwritten_map, List.map_cons, h.written]
    rfl
  · rw [hwritten', List.length_cons, List.take_succ_cons]
    exact writeEach_fileOf_cons.mpr ⟨w', hwrite, h.workspace⟩

/-- **One artifact after another**: the loop keeps its log. -/
theorem syncFrom_recorded (fetch : Fetcher) (c : Config) (asked : List String)
    (as : List Artifact) (w : Workspace) :
    ∃ passed, Recorded fetch c asked as [] [] w (syncFrom fetch c asked as w) passed := by
  induction as generalizing asked w with
  | nil => exact ⟨[], recorded_idle rfl⟩
  | cons a rest ih =>
      cases hfetch : fetch asked (c.artifactUrl a) with
      | error e =>
          simp only [syncFrom, hfetch]
          exact ⟨[], recorded_of_refused rest _ (by rw [hfetch]; rfl)⟩
      | ok r =>
          cases hpolicy : c.policy.refusal? r with
          | some why =>
              have hrefused : c.accepted? (a, fetch asked (c.artifactUrl a)) = none := by
                rw [hfetch, Config.accepted?, if_neg (by simp [hpolicy])]
              simp only [syncFrom, hfetch, hpolicy]
              exact ⟨[], recorded_of_refused rest why hrefused⟩
          | none =>
              cases hwrite : w.write (c.targetPath a) (Bytes.ofString r.body) with
              | error cause =>
                  simp only [syncFrom, hfetch, hpolicy, hwrite]
                  exact ⟨_, recorded_of_unwritten rest cause hfetch hpolicy⟩
              | ok w' =>
                  obtain ⟨passed, hrest⟩ := ih (asked ++ [c.artifactUrl a]) w'
                  rw [syncFrom_cons_written rest hfetch hpolicy hwrite]
                  exact ⟨_, hrest.behind_written hfetch hpolicy hwrite⟩

/-! ### Whole runs -/

/-- Behind removals, the log goes on. -/
lemma Recorded.behind_removals {α β : Type} {o : Outcome α} {v : Workspace} {front : Trace}
    {opening : List Event} {passed : List (Artifact × Response)}
    (h : Recorded fetch c asked as [] [] v o passed) (f : α → β)
    (hrequests : front.requests = []) (hwritten : front.written = [])
    (hevents : front.events = opening ++ front.deleted.map .deleted)
    (hgone : (removeEach w front.deleted).result = .ok ())
    (hv : (removeEach w front.deleted).workspace = v) :
    Recorded fetch c asked as opening front.deleted w
      ⟨o.result.map f, o.workspace, front ++ o.trace⟩ passed := by
  have hrequests' : Trace.requests (front ++ o.trace) = o.trace.requests := by
    rw [Trace.requests_append, hrequests, List.nil_append]
  have hwritten' : Trace.written (front ++ o.trace) = o.trace.written := by
    rw [Trace.written_append, hwritten, List.nil_append]
  refine ⟨?_, ?_, ?_, ?_, ?_, ?_, ?_, hgone, ?_⟩
  · rw [hrequests']
    exact h.eq
  · rw [Trace.deleted_append, h.deleted, List.append_nil]
  · rw [hrequests']
    exact h.requests
  · rw [hrequests']
    exact h.first
  · rw [hrequests']
    exact h.last
  · rw [hrequests', Trace.events_append, hevents, h.events]
    simp
  · rw [hwritten', unwritten_map]
    exact h.written
  · rw [hwritten', hv]
    exact h.workspace

/-- What a run has logged and removed when cleaning is over. -/
lemma begun_kept {v : Workspace} {front : Trace} {result : Except Failure (List Path)}
    (hvalid : c.validate = .ok ())
    (hclean : clean w c.targetDir c.generated = ⟨result, v, front⟩) :
    Trace.events (c.begun :: front) =
        c.opening ++ (Trace.deleted (c.begun :: front)).map .deleted ∧
      (removeEach w (Trace.deleted (c.begun :: front))).result = .ok () ∧
        (removeEach w (Trace.deleted (c.begun :: front))).workspace = v := by
  obtain ⟨hevents, hgone, hworkspace⟩ := clean_kept w c.targetDir c.generated
  rw [hclean] at hevents hgone hworkspace
  refine ⟨?_, hgone, hworkspace⟩
  rw [Config.opening, hvalid, Config.begun, Trace.events_log, hevents]
  rfl

/-- **Every run** keeps its log. -/
theorem run_keeps (fetch : Fetcher) (c : Config) (w : Workspace) :
    ∃ removed passed,
      Recorded fetch c [] c.artifacts c.opening removed w (run fetch c w) passed := by
  cases run_stages c w with
  | refused h =>
      have hopening : c.opening = [] := by rw [Config.opening, h]
      rw [run_of_refused h, hopening]
      exact ⟨[], [], recorded_idle rfl⟩
  | @uncleaned e v _ h hclean hrequests hwritten =>
      obtain ⟨hevents, hgone, hworkspace⟩ := begun_kept h hclean
      have he : unwritten (.error e : Except Failure Report) = [] := by
        rcases clean_error (congrArg Outcome.result hclean) with ⟨_, rfl⟩ | ⟨_, _, rfl⟩ <;> rfl
      have hidle : Recorded fetch c [] c.artifacts [] [] v ⟨.error e, v, []⟩ [] :=
        recorded_idle he
      have hrun := hidle.behind_removals id hrequests hwritten hevents hgone hworkspace
      rw [List.append_nil] at hrun
      rw [run_of_uncleaned h hclean]
      exact ⟨_, _, hrun⟩
  | @cleaned removed v _ h hclean hrequests hwritten =>
      obtain ⟨hevents, hgone, hworkspace⟩ := begun_kept h hclean
      obtain ⟨passed, hsync⟩ := syncFrom_recorded fetch c [] c.artifacts v
      rw [run_of_cleaned h hclean]
      exact ⟨_, _, hsync.behind_removals (Report.mk removed) hrequests hwritten hevents hgone
        hworkspace⟩

end Recorded

/-! ### What a log tells -/

/-- What the events of a log tell of, in order, by their messages and levels. -/
structure Tells (log : List Event) (deleted : List Path) (downloading : List String)
    (writing : List Path) (warned : List Event) : Prop where
  deleted : log.filter (·.message = "deleted") = deleted.map .deleted
  downloading : log.filter (·.message = "downloading") = downloading.map .downloading
  writing : log.filter (·.message = "writing") = writing.map .writing
  warned : log.filter (·.level = .warn) = warned

lemma Tells.append {log log' : List Event} {ds ds' : List Path} {us us' : List String}
    {ps ps' : List Path} {es es' : List Event} (h : Tells log ds us ps es)
    (h' : Tells log' ds' us' ps' es') :
    Tells (log ++ log') (ds ++ ds') (us ++ us') (ps ++ ps') (es ++ es') where
  deleted := by rw [List.filter_append, h.deleted, h'.deleted, List.map_append]
  downloading := by rw [List.filter_append, h.downloading, h'.downloading, List.map_append]
  writing := by rw [List.filter_append, h.writing, h'.writing, List.map_append]
  warned := by rw [List.filter_append, h.warned, h'.warned]

lemma tells_nil : Tells [] [] [] [] [] := ⟨rfl, rfl, rfl, rfl⟩

lemma tells_opening (c : Config) : Tells c.opening [] [] [] [] := by
  rw [Config.opening]
  split
  · constructor <;> simp [Event.message, Event.level]
  · exact tells_nil

lemma tells_deleted (ps : List Path) : Tells (ps.map .deleted) ps [] [] [] := by
  induction ps with
  | nil => exact tells_nil
  | cons p ps ih =>
      have hfirst : Tells [.deleted p] [p] [] [] [] := by
        constructor <;> simp [Event.message, Event.level]
      exact hfirst.append ih

lemma tells_downloading (us : List String) : Tells (us.map .downloading) [] us [] [] := by
  induction us with
  | nil => exact tells_nil
  | cons u us ih =>
      have hfirst : Tells [.downloading u] [] [u] [] [] := by
        constructor <;> simp [Event.message, Event.level]
      exact hfirst.append ih

/-- The accounts of artifacts tell of each once, with a warning if the status is no
success. -/
lemma tells_accounts (c : Config) (xs : List (Artifact × Response)) :
    Tells (xs.flatMap c.account) [] (xs.map fun x => c.artifactUrl x.1)
      (xs.map fun x => c.targetPath x.1) ((xs.filter fun x => !x.2.isSuccess).map c.warning) := by
  induction xs with
  | nil => exact tells_nil
  | cons x xs ih =>
      have hfirst : Tells (c.account x) [] [c.artifactUrl x.1] [c.targetPath x.1]
          (([x].filter fun x => !x.2.isSuccess).map c.warning) := by
        rw [Config.account, List.filter_singleton]
        cases x.2.isSuccess <;> constructor <;> simp [Event.message, Event.level, Config.warning]
      have hboth := hfirst.append ih
      rw [← List.map_append, ← List.filter_append] at hboth
      exact hboth

/-- A response that passes under the strict policy is a success. -/
lemma Config.isSuccess_of_mem_passing {c : Config} (hstrict : c.policy = .strict)
    {as : List Artifact} {answers : List (Except FetchError Response)}
    {x : Artifact × Response} (hx : x ∈ c.passing as answers) : x.2.isSuccess = true := by
  obtain ⟨⟨a, answer⟩, _, hx⟩ := List.mem_filterMap.mp hx
  cases answer with
  | error e => cases hx
  | ok r =>
      rw [accepted?] at hx
      split_ifs at hx with hpolicy
      cases hx
      rcases StatusPolicy.refusal?_eq_none_iff.mp hpolicy with hsuccess | hpermissive
      · exact hsuccess
      · rw [hstrict] at hpermissive
        cases hpermissive

namespace Sample

/-- The second local name follows the convention, but no file can have it. -/
def unwritable : Config :=
  { config with artifacts := [⟨"b", "generated_b.go"⟩, ⟨"a", "generated_\x00.go"⟩] }

/-- The run stops where it comes to write the second file. -/
lemma run_unwritable :
    (run changing unwritable workspace).trace.written = [.ofString "way/generated_b.go"] ∧
      unwritten (run changing unwritable workspace).result =
        [.ofString "way/generated_\x00.go"] := by
  rw [run_of_cleaned (c := unwritable) (by decide) clean_eq, unwritten_map]
  exact ⟨by decide, by decide⟩

end Sample

end Vendoring
