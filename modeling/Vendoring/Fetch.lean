/-
Fetching remote documents.

* `Response`, `Response.isSuccess`: an answer of any status; success is 200
  to 299.
* `StatusPolicy.refusal?`: why a response must not be written, if so.
* `Fetcher`: what a remote side answers to a URL, given the URLs it was asked
  for before.
* `Canned`: answers kept in a table, the latest one for a URL counting.
-/
namespace Vendoring

/-- An answer from the remote side, whatever its status. A redirect is never
followed, only reported. -/
structure Response where
  status : Nat
  redirect : Option String
  body : String
deriving DecidableEq, Repr

namespace Response

/-- The plain answer that carries a body. -/
def ok (body : String) : Response := ⟨200, none, body⟩

/-- The answer of a remote side that does not know the document. -/
def missing : Response := ⟨404, none, ""⟩

/-- Success is a status from 200 to 299. -/
def isSuccess (r : Response) : Bool := 200 ≤ r.status && r.status ≤ 299

end Response

/-- What to do with a response outside 200 to 299. -/
inductive StatusPolicy where
  /-- Such a response fails the run. -/
  | strict
  /-- Its body is written like any other. -/
  | permissive
deriving DecidableEq, Repr

/-- Why a response is refused under a policy. -/
def StatusPolicy.refusal? (policy : StatusPolicy) (r : Response) : Option String :=
  if r.isSuccess || policy == .permissive then none
  else
    match r.redirect with
    | some target => some ("HTTP " ++ toString r.status ++ " redirect to " ++ target)
    | none => some ("HTTP " ++ toString r.status)

/-- A fetch that got no answer, with the reason. -/
structure FetchError where
  why : String
deriving DecidableEq, Repr

/-- The text of a failed fetch. -/
def FetchError.message (e : FetchError) : String := "transport error: " ++ e.why

/-- A remote side: its answer to a URL, which may depend on all the URLs it
was asked for before, oldest first. -/
abbrev Fetcher := List String → String → Except FetchError Response

/-- A remote side whose answers depend on the URL only. -/
def Fetcher.constant (answer : String → Except FetchError Response) : Fetcher :=
  fun _ url => answer url

/-- Answers by URL, newest first. -/
structure Canned where
  answers : List (String × Except FetchError Response)

namespace Canned

/-- The table that knows no document. -/
def empty : Canned := ⟨[]⟩

/-- Adds an answer, in place of an earlier one for the same URL. -/
def add (c : Canned) (url : String) (answer : Except FetchError Response) : Canned :=
  ⟨(url, answer) :: c.answers⟩

/-- The answer to a URL; an unknown one is missing. -/
def answer (c : Canned) (url : String) : Except FetchError Response :=
  (c.answers.lookup url).getD (.ok .missing)

/-- The table as a remote side. -/
def fetcher (c : Canned) : Fetcher := .constant c.answer

end Canned

end Vendoring
