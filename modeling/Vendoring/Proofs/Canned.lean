/-
A table of canned answers stands in for the web.

* `run_congr`: a run knows of the remote side only the answers to the URLs of
  its artifacts;
* `Canned.addAll`, `Canned.answer_addAll`: answers put into a table one after
  another; the latest one for a URL counts;
* `Http.Stands`, `Http.stands_iff`: the canned answer that matches what the web
  gives to one request, and that a fetch brings exactly this answer;
* `Attempted`, `run_attempted`: the artifacts a run came to, each asked for once;
* `run_canned` (**the table stands in for the web**): the two runs are the same,
  and neither asks for anything but the URLs of artifacts.
-/
import Mathlib.Tactic
import Vendoring.Http.Client
import Vendoring.Proofs.Ascii
import Vendoring.Proofs.Aftermath

namespace Vendoring

/-! ### Remote sides that agree -/

section Agree

variable {fetch fetch' : Fetcher} {c : Config}

/-- The loop over artifacts asks for their URLs and nothing else. -/
lemma syncFrom_congr {as : List Artifact}
    (h : ∀ asked, ∀ a ∈ as, fetch asked (c.artifactUrl a) = fetch' asked (c.artifactUrl a))
    (asked : List String) (w : Workspace) :
    syncFrom fetch c asked as w = syncFrom fetch' c asked as w := by
  induction as generalizing asked w with
  | nil => rfl
  | cons a rest ih =>
      have hfirst := h asked a List.mem_cons_self
      have hrest := ih fun asked b hb => h asked b (List.mem_cons_of_mem _ hb)
      simp only [syncFrom, hfirst, hrest]

/-- **A run** is the same with remote sides that give the same answers to the
URLs of the artifacts. -/
lemma run_congr
    (h : ∀ asked, ∀ a ∈ c.artifacts, fetch asked (c.artifactUrl a) = fetch' asked (c.artifactUrl a))
    (w : Workspace) : run fetch c w = run fetch' c w := by
  have hsync : sync fetch c = sync fetch' c := funext (syncFrom_congr h [])
  simp only [run, hsync]

end Agree

/-! ### Tables of answers -/

namespace Canned

variable {loads : List (String × Except FetchError Response)} {url : String}
  {answer : Except FetchError Response}

/-- Adds answers one after another. -/
def addAll (t : Canned) (loads : List (String × Except FetchError Response)) : Canned :=
  loads.foldl (fun t x => t.add x.1 x.2) t

lemma answers_addAll (t : Canned) (loads : List (String × Except FetchError Response)) :
    (t.addAll loads).answers = loads.reverse ++ t.answers := by
  induction loads generalizing t with
  | nil => rfl
  | cons x loads ih =>
      have hrest : t.addAll (x :: loads) = (t.add x.1 x.2).addAll loads := rfl
      rw [hrest, ih, List.reverse_cons, List.append_assoc]
      rfl

/-- Where all answers added for a URL are the same, it is the one given, whatever
the table held before. -/
lemma answer_addAll (t : Canned) (hmem : url ∈ loads.map Prod.fst)
    (hall : ∀ x ∈ loads, x.1 = url → x.2 = answer) : (t.addAll loads).answer url = answer := by
  have hsome : (loads.reverse.lookup url).isSome := by
    obtain ⟨x, hx, hurl⟩ := List.mem_map.mp hmem
    exact List.lookup_isSome_iff.mpr ⟨x, List.mem_reverse.mpr hx, by simp [hurl]⟩
  obtain ⟨found, hfound⟩ := Option.isSome_iff_exists.mp hsome
  have hadded : (url, found) ∈ loads := by
    obtain ⟨before, after, hloads, _⟩ := List.lookup_eq_some_iff.mp hfound
    rw [← List.mem_reverse, hloads]
    exact List.mem_append_right _ List.mem_cons_self
  have hanswer : found = answer := hall _ hadded rfl
  rw [Canned.answer, answers_addAll, List.lookup_append, hfound, hanswer]
  rfl

end Canned

/-! ### What the web gives to one request -/

namespace Http

/-- The bytes are printable ASCII and tabs. -/
def Printable (b : Bytes) : Prop := ∀ x ∈ b, x = 0x09 ∨ 0x20 ≤ x ∧ x ≤ 0x7E

/-- The canned answer that matches what the web gives to a request: the message
of the error, or the status, the location if it is printable, and the text of
the body. -/
inductive Stands : Except RequestError Reply → Except FetchError Response → Prop
  | failed (e : RequestError) : Stands (.error e) (.error ⟨e.message⟩)
  | pointing {reply : Reply} {target : String}
      (hlocation : reply.location = some (Bytes.ofString target))
      (hprintable : Printable (Bytes.ofString target)) :
      Stands (.ok reply) (.ok ⟨reply.status, some target, Utf8.lossy reply.body⟩)
  | plain {reply : Reply} (hlocation : ∀ b, reply.location = some b → ¬ Printable b) :
      Stands (.ok reply) (.ok ⟨reply.status, none, Utf8.lossy reply.body⟩)

lemma all_isVisible_iff {b : Bytes} : b.all isVisible = true ↔ Printable b := by
  simp [isVisible, Printable]

/-- Printable bytes are a text. -/
lemma Printable.exists_text {b : Bytes} (h : Printable b) :
    ∃ target, Bytes.ofString target = b := by
  refine Bytes.exists_ofString_of_ascii fun x hx => ?_
  rcases h x hx with rfl | ⟨_, hhigh⟩
  · decide
  · have hnat : x.toNat ≤ 0x7E := UInt8.le_iff_toNat_le.mp hhigh
    omega

lemma visibleText?_of_printable {target : String} (h : Printable (Bytes.ofString target)) :
    visibleText? (Bytes.ofString target) = some target := by
  rw [visibleText?, if_pos (all_isVisible_iff.mpr h), Bytes.toString?_ofString]

lemma visibleText?_of_not_printable {b : Bytes} (h : ¬ Printable b) : visibleText? b = none := by
  rw [visibleText?, if_neg (fun hall => h (all_isVisible_iff.mp hall))]

/-- **One request**: a fetch brings the answer that matches what the web gives,
and nothing else does. -/
lemma stands_iff {remote : Remote} {text : String} {answer : Except FetchError Response} :
    Stands (exchange remote text) answer ↔ fetch remote text = answer := by
  rw [fetch]
  constructor
  · intro h
    generalize exchange remote text = given at h
    cases h with
    | failed e => rfl
    | pointing hlocation hprintable =>
        simp only [Reply.response, hlocation, Option.bind_some,
          visibleText?_of_printable hprintable]
    | @plain reply hlocation =>
        cases hl : reply.location with
        | none => simp only [Reply.response, hl, Option.bind_none]
        | some b =>
            simp only [Reply.response, hl, Option.bind_some,
              visibleText?_of_not_printable (hlocation b hl)]
  · rintro rfl
    cases exchange remote text with
    | error e => exact .failed e
    | ok reply =>
        simp only [Reply.response]
        cases hl : reply.location with
        | none =>
            rw [Option.bind_none]
            exact .plain fun b hb => by rw [hl] at hb; cases hb
        | some b =>
            rw [Option.bind_some]
            by_cases hprintable : Printable b
            · obtain ⟨target, rfl⟩ := hprintable.exists_text
              rw [visibleText?_of_printable hprintable]
              exact .pointing hl hprintable
            · rw [visibleText?_of_not_printable hprintable]
              refine .plain fun b' hb' => ?_
              rw [hl] at hb'
              cases hb'
              exact hprintable

end Http

/-! ### The artifacts a run came to -/

/-- The artifacts `as` were attempted: they are the first ones of the list, each
was asked for once and in order, and each was written but perhaps the last. -/
structure Attempted (c : Config) (trace : Trace) (as : List Artifact) : Prop where
  first : as <+: c.artifacts
  requests : trace.requests = as.map c.artifactUrl
  written : trace.written = as.map c.targetPath ∨ trace.written = as.dropLast.map c.targetPath

/-- A run that asks for nothing and writes nothing attempts nothing. -/
lemma attempted_nil {c : Config} {trace : Trace} (hrequests : trace.requests = [])
    (hwritten : trace.written = []) : Attempted c trace [] :=
  ⟨List.nil_prefix, hrequests, Or.inl hwritten⟩

/-- **Every run** attempts some first artifacts of the list. -/
lemma run_attempted (fetch : Fetcher) (c : Config) (w : Workspace) :
    ∃ as, Attempted c (run fetch c w).trace as := by
  cases run_stages c w with
  | refused h =>
      rw [run_of_refused h]
      exact ⟨[], attempted_nil rfl rfl⟩
  | uncleaned h hclean hrequests hwritten =>
      rw [run_of_uncleaned h hclean]
      exact ⟨[], attempted_nil hrequests hwritten⟩
  | @cleaned _ v _ h hclean hrequests hwritten =>
      rw [run_of_cleaned h hclean, sync]
      have hcourse := syncFrom_course fetch c [] c.artifacts v
      generalize syncFrom fetch c [] c.artifacts v = o at hcourse ⊢
      cases hcourse with
      | @finished _ _ trace _ _ _ heffects =>
          obtain ⟨hreq, _, hwr⟩ := trace.views_effects
          obtain ⟨hreq', _, hwr'⟩ := c.views_script c.artifacts
          refine ⟨c.artifacts, List.prefix_rfl, ?_, Or.inl ?_⟩
          · rw [Trace.requests_append, hrequests, ← hreq, heffects, hreq']
            rfl
          · rw [Trace.written_append, hwritten, ← hwr, heffects, hwr']
            rfl
      | @stopped fetched a rest _ _ trace has _ _ _ heffects =>
          have hat := (cameTo_of_effects has heffects).behind hrequests hwritten
          obtain ⟨_, htake, htake'⟩ := artifacts_cut has
          refine ⟨fetched.map Prod.fst ++ [a], ⟨rest, by rw [has]; simp⟩, ?_, Or.inr ?_⟩
          · rw [hat.requests, htake']
          · rw [hat.written, htake, List.dropLast_concat]

/-! ### The table stands in for the web -/

/-- The answers to load into a table: each matches what the web gives to its URL,
and there is one for the URL of each artifact. -/
structure Loads (remote : Http.Remote) (c : Config)
    (loads : List (String × Except FetchError Response)) : Prop where
  stands : ∀ x ∈ loads, Http.Stands (Http.exchange remote x.1) x.2
  covers : ∀ a ∈ c.artifacts, c.artifactUrl a ∈ loads.map Prod.fst

/-- **The table stands in for the web**: a run with a table that was loaded, last
of all, with a matching answer for each artifact's URL, is the run with the web.
Such answers exist. The URLs fetched are those of the artifacts that were
attempted, one each, and what the web holds elsewhere, as where a redirect points
to, makes no difference. -/
theorem run_canned (remote : Http.Remote) (c : Config) (w : Workspace) :
    (∀ earlier loads, Loads remote c loads →
      run (Canned.empty.addAll (earlier ++ loads)).fetcher c w =
        run (Http.fetcher remote) c w) ∧
    (∃ answer : String → Except FetchError Response,
      Loads remote c (c.artifacts.map fun a => (c.artifactUrl a, answer (c.artifactUrl a)))) ∧
    (∃ as, Attempted c (run (Http.fetcher remote) c w).trace as) ∧
    ∀ remote' : Http.Remote,
      (∀ a ∈ c.artifacts, ∀ u, Http.request (c.artifactUrl a) = .ok u → remote' u = remote u) →
      run (Http.fetcher remote') c w = run (Http.fetcher remote) c w := by
  refine ⟨fun earlier loads h => run_congr (fun asked a ha => ?_) w,
    ⟨Http.fetch remote, ?_, ?_⟩, run_attempted _ c w,
    fun remote' hsame => run_congr (fun asked a ha => ?_) w⟩
  · have hsplit : Canned.empty.addAll (earlier ++ loads) =
        (Canned.empty.addAll earlier).addAll loads := List.foldl_append
    rw [hsplit]
    exact Canned.answer_addAll _ (h.covers a ha) fun x hx hurl =>
      (Http.stands_iff.mp (hurl ▸ h.stands x hx)).symm
  · exact List.forall_mem_map.mpr fun a _ => Http.stands_iff.mpr rfl
  · intro a ha
    rw [List.map_map]
    exact List.mem_map_of_mem ha
  · have hexchange : Http.exchange remote' (c.artifactUrl a) =
        Http.exchange remote (c.artifactUrl a) := by
      rw [Http.exchange, Http.exchange]
      cases hu : Http.request (c.artifactUrl a) with
      | error e => rfl
      | ok u => simp only [hsame a ha u hu]
    change Http.fetch remote' (c.artifactUrl a) = Http.fetch remote (c.artifactUrl a)
    rw [Http.fetch, Http.fetch, hexchange]

namespace Sample

/-- Two documents of a server that is named by its address. -/
def served : Config :=
  { config with remoteBase := "http://[::1]/", revision := "r" }

/-- The URLs of the two documents. -/
def firstUrl : String := "http://[::1]/r/b"
@[inherit_doc firstUrl] def secondUrl : String := "http://[::1]/r/a"

/-- A body that is no text. -/
def garbled : Bytes := [0x68, 0xFF, 0x69]

/-- A web that holds one document and, in place of every other, points to it. -/
def pointingWeb : Http.Remote := fun u =>
  if u.trail = .names ["r", "b"] then .ok ⟨200, some [0xFF], garbled⟩
  else .ok ⟨302, some (Bytes.ofString firstUrl), []⟩

/-- The matching answers, the second one loaded twice. -/
def cannedAnswers : List (String × Except FetchError Response) :=
  [(secondUrl, .ok ⟨302, some firstUrl, ""⟩), (firstUrl, .ok ⟨200, none, "h\uFFFDi"⟩),
    (secondUrl, .ok ⟨302, some firstUrl, ""⟩)]

lemma loads_cannedAnswers : Loads pointingWeb served cannedAnswers := by
  have hfirst : Http.exchange pointingWeb firstUrl = .ok ⟨200, some [0xFF], garbled⟩ := by
    decide +kernel
  have hsecond : Http.exchange pointingWeb secondUrl =
      .ok ⟨302, some (Bytes.ofString firstUrl), []⟩ := by decide +kernel
  have hstands : Http.Stands (Http.exchange pointingWeb secondUrl)
      (.ok ⟨302, some firstUrl, ""⟩) := by
    rw [hsecond]
    exact .pointing rfl (Http.all_isVisible_iff.mp (by decide))
  refine ⟨?_, by decide⟩
  simp only [cannedAnswers, List.forall_mem_cons]
  refine ⟨hstands, ?_, hstands, by simp⟩
  rw [hfirst]
  refine .plain fun b hb => ?_
  cases hb
  exact fun h => absurd (Http.all_isVisible_iff.mpr h) (by decide)

end Sample

theorem run_canned_sample :
    run (Canned.empty.addAll ((Sample.firstUrl, .ok .missing) :: Sample.cannedAnswers)).fetcher
        Sample.served Sample.workspace =
      run (Http.fetcher Sample.pointingWeb) Sample.served Sample.workspace := by
  obtain ⟨hsame, _⟩ := run_canned Sample.pointingWeb Sample.served Sample.workspace
  exact hsame [(Sample.firstUrl, .ok .missing)] _ Sample.loads_cannedAnswers

end Vendoring
