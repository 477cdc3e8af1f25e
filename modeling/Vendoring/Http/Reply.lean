/-
Replies of a web server.

* `Reply`: a status, where the server points to, and a body, all as sent.
* `Reply.response`: a reply as a response. A redirect target counts only if it
  is printable ASCII, and the body is read as UTF-8 with ill-formed parts
  replaced.
* `Fault`: why no reply came.
-/
import Vendoring.Fetch
import Vendoring.Text.Utf8

namespace Vendoring.Http

/-- What a server sent, as bytes. -/
structure Reply where
  status : Nat
  location : Option Bytes
  body : Bytes
deriving DecidableEq, Repr

/-- Why no reply came. -/
inductive Fault where
  /-- There was no answer, or its head made no sense. -/
  | unanswered
  /-- The body broke off or was malformed. -/
  | broken
deriving DecidableEq, Repr

/-- Printable ASCII and tabs. -/
def isVisible (b : UInt8) : Bool := b == 0x09 || (0x20 ≤ b && b ≤ 0x7E)

/-- The text of a header, if it is printable. -/
def visibleText? (b : Bytes) : Option String :=
  if b.all isVisible then Bytes.toString? b else none

/-- A reply as a response. -/
def Reply.response (r : Reply) : Response :=
  ⟨r.status, r.location.bind visibleText?, Utf8.lossy r.body⟩

end Vendoring.Http
