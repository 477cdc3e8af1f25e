/-
The two policies compared. They differ only at a response that is no success:
up to the first one, a strict and a permissive run do the same.

* `Fetcher.replies`: the answers to URLs that are asked for one after another;
* `Compared`: the two runs are the same and all responses were successes, or
  they part at the first response that is none, and the strict one stops there;
* `Compared.behind`: what both do before the comparison begins does not matter;
* `syncFrom_compared`, `run_compared`: one artifact after another, and whole
  runs;
* `run_policies` (**strict and permissive runs**): when they agree, and what the
  strict one leaves where they part.
-/
import Mathlib.Tactic
import Vendoring.Proofs.Aftermath

namespace Vendoring

/-! ### Configurations that differ in the policy -/

/-- The configuration under a policy, whichever it had. -/
def Config.under (c : Config) (policy : StatusPolicy) : Config := { c with policy := policy }

@[simp] lemma Config.artifactUrl_under (c : Config) (policy : StatusPolicy) :
    (c.under policy).artifactUrl = c.artifactUrl := rfl

@[simp] lemma Config.targetPath_under (c : Config) (policy : StatusPolicy) :
    (c.under policy).targetPath = c.targetPath := rfl

@[simp] lemma Config.begun_under (c : Config) (policy : StatusPolicy) :
    (c.under policy).begun = c.begun := rfl

/-! ### Replies -/

namespace Fetcher

/-- The answers to URLs that are asked for one after another, `asked` before
them. -/
def replies (fetch : Fetcher) :
    List String → List String → List (Except FetchError Response)
  | _, [] => []
  | asked, url :: rest => fetch asked url :: replies fetch (asked ++ [url]) rest

variable (fetch : Fetcher) (asked : List String)

lemma replies_append (us vs : List String) :
    fetch.replies asked (us ++ vs) = fetch.replies asked us ++ fetch.replies (asked ++ us) vs := by
  induction us generalizing asked with
  | nil => simp [replies]
  | cons url us ih => simp [replies, ih]

lemma length_replies (us : List String) : (fetch.replies asked us).length = us.length := by
  induction us generalizing asked with
  | nil => rfl
  | cons url us ih => simp [replies, ih]

/-- Each answer is the one to its own URL, after the URLs before. -/
lemma getElem?_replies (us : List String) (j : Nat) :
    (fetch.replies asked us)[j]? = us[j]?.map fun url => fetch (asked ++ us.take j) url := by
  induction us generalizing asked j with
  | nil => rfl
  | cons url us ih =>
      cases j with
      | zero => simp [replies]
      | succ j => simp [replies, ih]

/-- The answers to the first URLs do not depend on those that follow. -/
lemma getElem?_replies_of_prefix {us vs : List String} (h : us <+: vs) {j : Nat}
    (hj : j < us.length) : (fetch.replies asked vs)[j]? = (fetch.replies asked us)[j]? := by
  obtain ⟨tail, rfl⟩ := h
  rw [replies_append, List.getElem?_append_left (by rwa [length_replies])]

end Fetcher

/-- All responses among the answers are successes. -/
def AllSuccess (answers : List (Except FetchError Response)) : Prop :=
  ∀ r, .ok r ∈ answers → r.isSuccess = true

lemma allSuccess_append {xs ys : List (Except FetchError Response)} :
    AllSuccess (xs ++ ys) ↔ AllSuccess xs ∧ AllSuccess ys := by
  simp only [AllSuccess, List.mem_append, or_imp, forall_and]

/-- The first response among the answers that is no success is `r`, at the index
`i`. -/
structure FirstFailure (answers : List (Except FetchError Response)) (i : Nat) (r : Response) :
    Prop where
  answer : answers[i]? = some (.ok r)
  fails : r.isSuccess = false
  before : AllSuccess (answers.take i)

/-- Behind successes only, a response that is none is the first of its kind. -/
lemma FirstFailure.eq_length {xs ys : List (Except FetchError Response)} {i : Nat}
    {r r' : Response} (hxs : AllSuccess xs) (hr' : r'.isSuccess = false)
    (h : FirstFailure (xs ++ .ok r' :: ys) i r) : i = xs.length ∧ r = r' := by
  obtain ⟨hanswer, hfails, hbefore⟩ := h
  have hi : i = xs.length := by
    rcases Nat.lt_trichotomy i xs.length with hlt | heq | hgt
    · rw [List.getElem?_append_left hlt] at hanswer
      rw [hxs r (List.mem_of_getElem? hanswer)] at hfails
      cases hfails
    · exact heq
    · have hmem : Except.ok r' ∈ (xs ++ .ok r' :: ys).take i := by
        rw [List.take_append, List.mem_append]
        obtain ⟨k, hk⟩ : ∃ k, i - xs.length = k + 1 := ⟨i - xs.length - 1, by omega⟩
        rw [hk, List.take_succ_cons]
        exact Or.inr List.mem_cons_self
      rw [hbefore r' hmem] at hr'
      cases hr'
  subst hi
  rw [List.getElem?_append_right le_rfl, Nat.sub_self] at hanswer
  cases hanswer
  exact ⟨rfl, rfl⟩

/-! ### Comparing two runs -/

/-- How a strict run compares with a permissive one, where the artifacts `as` are
to be fetched after the URLs `asked`. -/
inductive Compared (fetch : Fetcher) (c : Config) (asked : List String) (as : List Artifact)
    {α : Type} : Outcome α → Outcome α → Prop
  /-- They are the same, and all responses were successes. -/
  | same {o : Outcome α} (hall : AllSuccess (fetch.replies asked o.trace.requests)) :
      Compared fetch c asked as o o
  /-- They part at the artifact `a`, whose response is the first that is no
  success. -/
  | parted (done : List Artifact) {a : Artifact} {rest : List Artifact} {r : Response}
      {why : String} {w : Workspace} {trace : Trace} {p : Outcome α}
      (has : as = done ++ a :: rest)
      (hdone : AllSuccess (fetch.replies asked (done.map c.artifactUrl)))
      (hreply : fetch (asked ++ done.map c.artifactUrl) (c.artifactUrl a) = .ok r)
      (hrefused : StatusPolicy.strict.refusal? r = some why)
      (hstrict : trace.requests = (done ++ [a]).map c.artifactUrl)
      (hpermissive : (done ++ [a]).map c.artifactUrl <+: p.trace.requests) :
      Compared fetch c asked as ⟨.error (.transport (c.artifactUrl a) why), w, trace⟩ p

section Compared

variable {fetch : Fetcher} {c : Config} {asked : List String}

/-- Where both runs have done the same before, with successes only, they compare
as what follows does. -/
lemma Compared.behind {α β : Type} {before as : List Artifact} {front : Trace}
    {s p : Outcome α} (hbefore : AllSuccess (fetch.replies asked (before.map c.artifactUrl)))
    (hfront : front.requests = before.map c.artifactUrl) (f : α → β)
    (h : Compared fetch c (asked ++ before.map c.artifactUrl) as s p) :
    Compared fetch c asked (before ++ as) ⟨s.result.map f, s.workspace, front ++ s.trace⟩
      ⟨p.result.map f, p.workspace, front ++ p.trace⟩ := by
  cases h with
  | same hall =>
      refine .same ?_
      rw [Trace.requests_append, hfront, fetch.replies_append]
      exact allSuccess_append.mpr ⟨hbefore, hall⟩
  | parted done has hdone hreply hrefused hstrict hpermissive =>
      refine .parted (before ++ done) (by rw [has, List.append_assoc]) ?_ ?_ hrefused ?_ ?_
      · rw [List.map_append, fetch.replies_append]
        exact allSuccess_append.mpr ⟨hbefore, hdone⟩
      · rw [List.map_append, ← List.append_assoc]
        exact hreply
      · rw [Trace.requests_append, hfront, hstrict, ← List.map_append, List.append_assoc]
      · rw [Trace.requests_append, hfront, List.append_assoc, List.map_append]
        exact (List.prefix_append_right_inj _).mpr hpermissive

/-- The first artifact is asked for first. -/
lemma requests_syncFrom_cons (fetch : Fetcher) (c : Config) (asked : List String) (a : Artifact)
    (rest : List Artifact) (w : Workspace) :
    [c.artifactUrl a] <+: (syncFrom fetch c asked (a :: rest) w).trace.requests := by
  obtain ⟨e, trace, hstop, _, heffects⟩ | ⟨r, w', hfetch, hpolicy, hwrite⟩ :=
    syncFrom_cons fetch c asked a rest w
  · rw [hstop, ← trace.views_effects.1, heffects]
    exact List.prefix_rfl
  · rw [syncFrom_cons_written rest hfetch hpolicy hwrite, Trace.requests_append,
      ← (c.steps (a, r)).views_effects.1, c.effects_steps]
    exact List.prefix_append _ _

/-- **One artifact after another**: the loops compare under the two policies. -/
theorem syncFrom_compared (fetch : Fetcher) (c : Config) (asked : List String)
    (as : List Artifact) (w : Workspace) :
    Compared fetch c asked as (syncFrom fetch (c.under .strict) asked as w)
      (syncFrom fetch (c.under .permissive) asked as w) := by
  induction as generalizing asked w with
  | nil => exact .same fun r hr => absurd hr List.not_mem_nil
  | cons a rest ih =>
      cases hfetch : fetch asked (c.artifactUrl a) with
      | error e =>
          simp only [syncFrom, Config.artifactUrl_under, hfetch]
          refine .same fun r hr => ?_
          simp [Trace.requests, Fetcher.replies, hfetch] at hr
      | ok r =>
          have hpermissive : (c.under .permissive).policy.refusal? r = none :=
            StatusPolicy.refusal?_eq_none_iff.mpr (Or.inr rfl)
          cases hstrict : (c.under .strict).policy.refusal? r with
          | some why =>
              -- the strict loop stops here, the permissive one goes on
              have hstops : syncFrom fetch (c.under .strict) asked (a :: rest) w =
                  ⟨.error (.transport (c.artifactUrl a) why), w,
                    [.log (.downloading (c.artifactUrl a)), .request (c.artifactUrl a)]⟩ := by
                simp only [syncFrom, Config.artifactUrl_under, hfetch, hstrict]
              rw [hstops]
              exact .parted [] rfl (fun r hr => absurd hr List.not_mem_nil) (by simpa using hfetch)
                hstrict rfl (requests_syncFrom_cons fetch (c.under .permissive) asked a rest w)
          | none =>
              have hsuccess : r.isSuccess = true := by
                rcases StatusPolicy.refusal?_eq_none_iff.mp hstrict with h | h
                · exact h
                · cases h
              have hfirst : AllSuccess (fetch.replies asked ([a].map c.artifactUrl)) := by
                intro r' hr'
                simp only [List.map_cons, List.map_nil, Fetcher.replies, hfetch,
                  List.mem_singleton, Except.ok.injEq] at hr'
                rw [hr']
                exact hsuccess
              cases hwrite : w.write (c.targetPath a) (Bytes.ofString r.body) with
              | error cause =>
                  simp only [syncFrom, Config.artifactUrl_under, Config.targetPath_under, hfetch,
                    hstrict, hpermissive, hwrite]
                  refine .same ?_
                  rw [← (Trace.views_effects _).1, Trace.effects_append, Trace.effects_append,
                    effects_warnings]
                  exact hfirst
              | ok w' =>
                  rw [syncFrom_cons_written (c := c.under .strict) rest hfetch hstrict hwrite,
                    syncFrom_cons_written (c := c.under .permissive) rest hfetch hpermissive hwrite]
                  have hfront : (c.steps (a, r)).requests = [a].map c.artifactUrl := by
                    rw [← (c.steps (a, r)).views_effects.1, c.effects_steps]
                    rfl
                  exact (ih (asked ++ [c.artifactUrl a]) w').behind hfirst hfront
                    (c.recordOf (a, r) :: ·)

/-- **Whole runs** compare under the two policies. -/
theorem run_compared (fetch : Fetcher) (c : Config) (w : Workspace) :
    Compared fetch c [] c.artifacts (run fetch (c.under .strict) w)
      (run fetch (c.under .permissive) w) := by
  have hnone : AllSuccess (fetch.replies [] (([] : List Artifact).map c.artifactUrl)) :=
    fun r hr => absurd hr List.not_mem_nil
  -- the policy plays no part before the artifacts are fetched
  cases run_stages c w with
  | refused h =>
      rw [run_of_refused (c := c.under .strict) h, run_of_refused (c := c.under .permissive) h]
      exact .same hnone
  | uncleaned h hclean hrequests _ =>
      rw [run_of_uncleaned (c := c.under .strict) h hclean,
        run_of_uncleaned (c := c.under .permissive) h hclean]
      refine .same ?_
      rw [Config.begun_under, hrequests]
      exact hnone
  | @cleaned removed v _ h hclean hrequests _ =>
      rw [run_of_cleaned (c := c.under .strict) h hclean,
        run_of_cleaned (c := c.under .permissive) h hclean]
      exact (syncFrom_compared fetch c [] c.artifacts v).behind hnone hrequests (Report.mk removed)

/-! ### Where two runs part -/

/-- Where the runs part, the response of the permissive one stands among its
answers behind successes only. -/
lemma replies_parted {done : List Artifact} {a : Artifact} {r : Response} {us : List String}
    (hreply : fetch (asked ++ done.map c.artifactUrl) (c.artifactUrl a) = .ok r)
    (hus : (done ++ [a]).map c.artifactUrl <+: us) :
    ∃ later, fetch.replies asked us =
      fetch.replies asked (done.map c.artifactUrl) ++ .ok r :: later := by
  obtain ⟨tail, rfl⟩ := hus
  refine ⟨fetch.replies (asked ++ (done ++ [a]).map c.artifactUrl) tail, ?_⟩
  rw [fetch.replies_append, List.map_append, fetch.replies_append, List.append_assoc]
  simp [Fetcher.replies, hreply]

lemma isSuccess_eq_false {r : Response} {why : String}
    (h : StatusPolicy.strict.refusal? r = some why) : r.isSuccess = false := by
  by_contra hsuccess
  rw [Bool.not_eq_false] at hsuccess
  rw [StatusPolicy.refusal?_eq_none_iff.mpr (Or.inl hsuccess)] at h
  cases h

variable {α : Type} {as : List Artifact} {s p : Outcome α}

/-- Runs do not part without a response that is no success. -/
lemma Compared.eq_of_allSuccess (h : Compared fetch c asked as s p)
    (hall : AllSuccess (fetch.replies asked p.trace.requests)) : s = p := by
  cases h with
  | same _ => rfl
  | @parted _ _ _ r _ _ _ _ _ _ hreply hrefused _ hpermissive =>
      obtain ⟨later, hanswers⟩ := replies_parted hreply hpermissive
      have hsuccess : r.isSuccess = true := hall r (by rw [hanswers]; simp)
      rw [isSuccess_eq_false hrefused] at hsuccess
      cases hsuccess

/-- A strict run that ends well has not parted from the permissive one. -/
lemma Compared.eq_of_ok (h : Compared fetch c asked as s p) {x : α} (hok : s.result = .ok x) :
    s = p := by
  cases h with
  | same _ => rfl
  | parted _ _ _ _ _ _ _ => cases hok

/-- Runs part at the first response that is no success. -/
lemma Compared.stops_at (h : Compared fetch c asked as s p) {i : Nat} {r : Response}
    (hfirst : FirstFailure (fetch.replies asked p.trace.requests) i r) :
    ∃ a why, as[i]? = some a ∧ StatusPolicy.strict.refusal? r = some why ∧
      s.result = .error (.transport (c.artifactUrl a) why) ∧
        s.trace.requests = (as.take (i + 1)).map c.artifactUrl ∧
          s.trace.requests <+: p.trace.requests := by
  cases h with
  | same hall =>
      have hsuccess := hall r (List.mem_of_getElem? hfirst.answer)
      rw [hfirst.fails] at hsuccess
      cases hsuccess
  | @parted done a rest r' why _ _ _ has hdone hreply hrefused hstrict hpermissive =>
      obtain ⟨later, hanswers⟩ := replies_parted hreply hpermissive
      rw [hanswers] at hfirst
      obtain ⟨hi, rfl⟩ := hfirst.eq_length hdone (isSuccess_eq_false hrefused)
      rw [fetch.length_replies, List.length_map] at hi
      subst hi
      obtain ⟨hat, _, htake⟩ := artifacts_cut has
      exact ⟨a, why, hat, hrefused, rfl, by rw [hstrict, htake], by rw [hstrict]; exact hpermissive⟩

end Compared

/-- What a run has left that stops at an artifact for want of an answer. -/
lemma holdsFirst_of_transport {fetch : Fetcher} {c : Config} {policy : StatusPolicy}
    {w : Workspace} {url why : String} (hw : w.tree.Named)
    (h : (run fetch (c.under policy) w).result = .error (.transport url why)) :
    ∃ i d, i < c.artifacts.length ∧
      (run fetch (c.under policy) w).trace.requests =
        (c.artifacts.take (i + 1)).map c.artifactUrl ∧
      w.resolve c.targetDir = .ok d ∧
        HoldsFirst fetch c w (run fetch (c.under policy) w).workspace d i := by
  have hcourse := run_course hw fetch (c.under policy)
  generalize run fetch (c.under policy) w = o at hcourse h
  cases hcourse with
  | refused _ => cases h
  | unlisted _ _ _ => cases h
  | stuck _ _ _ _ _ _ => cases h
  | finished _ _ _ _ _ => cases h
  | @stopped d fetched a _ _ _ hartifacts hrefilled _ _ hrequests _ =>
      obtain ⟨hat, _, htake⟩ := artifacts_cut hartifacts
      rw [List.length_map] at hat htake
      have hholds := hrefilled.holdsFirst
      exact ⟨fetched.length, d, (List.getElem?_eq_some_iff.mp hat).1,
        hrequests.trans (congrArg (List.map c.artifactUrl) htake.symm), hrefilled.resolved,
        hholds.entries, hholds.bodies, hholds.others⟩

/-- **Strict and permissive runs** with all else equal.  Where every response of
the permissive run is a success, the two are the same.  Otherwise the strict run
fails at the first that is none: it has asked for the same URLs up to there, and
leaves the files of the artifacts before, with the bodies that both runs got.
So a strict run that ends well is the permissive one. -/
theorem run_policies {w : Workspace} (hw : w.tree.Named) (fetch : Fetcher) (c : Config) :
    let strict := run fetch (c.under .strict) w
    let permissive := run fetch (c.under .permissive) w
    let answers := fetch.replies [] permissive.trace.requests
    (AllSuccess answers → strict = permissive) ∧
    (∀ i r, FirstFailure answers i r →
      ∃ a why d, c.artifacts[i]? = some a ∧ StatusPolicy.strict.refusal? r = some why ∧
        strict.result = .error (.transport (c.artifactUrl a) why) ∧
        strict.trace.requests = permissive.trace.requests.take (i + 1) ∧
        strict.trace.requests.length = i + 1 ∧
        w.resolve c.targetDir = .ok d ∧
        ((strict.workspace.tree.names d).filter c.generated.marks).Perm
          ((c.artifacts.take i).map Artifact.name) ∧
        ∀ j b, j < i → c.artifacts[j]? = some b → ∃ r',
          (fetch.replies [] strict.trace.requests)[j]? = some (.ok r') ∧
          answers[j]? = some (.ok r') ∧
          strict.workspace.tree.get? (d ++ [b.name]) =
            some (.file (Bytes.ofString r'.body))) ∧
    ∀ report, strict.result = .ok report →
      permissive.result = .ok report ∧ permissive.workspace = strict.workspace := by
  intro strict permissive answers
  have hcompared : Compared fetch c [] c.artifacts strict permissive := run_compared fetch c w
  refine ⟨hcompared.eq_of_allSuccess, fun i r hfirst => ?_, fun report hok => ?_⟩
  · obtain ⟨a, why, ha, hwhy, hresult, hrequests, hprefix⟩ := hcompared.stops_at hfirst
    obtain ⟨i', d, hi', hrequests', hd, hholds⟩ := holdsFirst_of_transport hw hresult
    have hi : i < c.artifacts.length := (List.getElem?_eq_some_iff.mp ha).1
    have hlength : strict.trace.requests.length = i + 1 := by
      rw [hrequests, List.length_map, List.length_take]
      omega
    -- the run stopped once, so both accounts of it speak of the same artifact
    obtain rfl : i' = i := by
      rw [hrequests', List.length_map, List.length_take] at hlength
      omega
    have htake := List.prefix_iff_eq_take.mp hprefix
    rw [hlength] at htake
    refine ⟨a, why, d, ha, hwhy, hresult, htake, hlength, hd, hholds.entries,
      fun j b hj hb => ?_⟩
    obtain ⟨r', hr', hfile⟩ := hholds.bodies j b hj hb
    have hreply : (fetch.replies [] strict.trace.requests)[j]? = some (.ok r') := by
      rw [hrequests, fetch.getElem?_replies, List.getElem?_map,
        List.getElem?_take_of_lt (by omega), hb, ← List.map_take, List.take_take,
        Nat.min_eq_left (by omega)]
      exact congrArg some hr'
    refine ⟨r', hreply, ?_, hfile⟩
    rw [← hreply]
    exact fetch.getElem?_replies_of_prefix [] hprefix (by omega)
  · rw [← hcompared.eq_of_ok hok]
    exact ⟨hok, rfl⟩

namespace Sample

/-- A remote side that knows no document after the first request. -/
def forgetting : Fetcher := fun asked _ => .ok (if asked = [] then .ok "one" else .missing)

/-- What a permissive run is answered. -/
lemma replies_forgetting :
    forgetting.replies [] (run forgetting (config.under .permissive) workspace).trace.requests =
      [.ok (.ok "one"), .ok .missing] := by
  rw [run_of_cleaned (c := config.under .permissive) (by decide) clean_eq]
  decide

/-- The second artifact gets the first response that is no success. -/
lemma firstFailure :
    FirstFailure (forgetting.replies []
      (run forgetting (config.under .permissive) workspace).trace.requests) 1 .missing := by
  rw [replies_forgetting]
  refine ⟨rfl, rfl, fun r hr => ?_⟩
  obtain rfl : r = .ok "one" := by simpa using hr
  rfl

end Sample

theorem run_policies_sample :
    ∃ a why d, Sample.config.artifacts[1]? = some a ∧
      (run Sample.forgetting (Sample.config.under .strict) Sample.workspace).result =
        .error (.transport (Sample.config.artifactUrl a) why) ∧
      Sample.workspace.resolve Sample.config.targetDir = .ok d ∧
      (((run Sample.forgetting (Sample.config.under .strict) Sample.workspace).workspace.tree.names
        d).filter Sample.config.generated.marks).Perm [Bytes.ofString "generated_b.go"] := by
  obtain ⟨_, hparted, _⟩ := run_policies Sample.built.named Sample.forgetting Sample.config
  obtain ⟨a, why, d, ha, _, hresult, _, _, hd, hentries, _⟩ := hparted 1 _ Sample.firstFailure
  exact ⟨a, why, d, ha, hresult, hd, hentries⟩

end Vendoring
