/-
A scripted web server.

* `Delivery`: the ways a server can answer, or fail to.
* `Route`: the answer to requests for one target.
* `Script`: the routes of a server at one origin.
* `Script.remote`: the web in which that server is all there is.
-/
import Vendoring.Http.Client
import Vendoring.Http.Message

namespace Vendoring.Http

/-- How an answer is delivered. -/
inductive Delivery where
  /-- With its length. -/
  | whole
  /-- Without length, ended by closing the connection. -/
  | untilClosed
  /-- In chunks of a size. -/
  | chunked (size : Nat)
  /-- With a length ten bytes too large, then closing. -/
  | short
  /-- In chunks of a size, with a malformed chunk after them. -/
  | badChunk (size : Nat)
  /-- Closing without an answer. -/
  | dropped
  /-- The body alone, then closing. -/
  | verbatim
  /-- No answer, keeping the connection. -/
  | silent
  /-- With a length ten bytes too large, keeping the connection. -/
  | stalled
deriving DecidableEq, Repr

/-- The answer to requests for a target. -/
structure Route where
  target : Bytes
  status : Nat := 200
  fields : List Field := []
  body : Bytes := []
  delivery : Delivery := .whole
deriving DecidableEq, Repr

/-- A line with its end. -/
def crlf (line : Bytes) : Bytes := line ++ [carriageReturn, lineFeed]

/-- A field as a line. -/
def Field.line (f : Field) : Bytes := crlf (f.name ++ [colon, 0x20] ++ f.value)

/-- A body in chunks. -/
def chunksOf (size : Nat) (b : Bytes) : Bytes :=
  if _hb : size = 0 ∨ b = [] then []
  else
    let chunk := b.take size
    crlf (Bytes.ofString (String.ofList (Nat.toDigits 16 chunk.length))) ++ crlf chunk ++
      chunksOf size (b.drop size)
termination_by b.length
decreasing_by
  have : b.length ≠ 0 := fun h => _hb (.inr (List.length_eq_zero_iff.1 h))
  simp only [List.length_drop]
  omega

/-- The field that tells a length. -/
def lengthField (n : Nat) : Field :=
  ⟨Bytes.ofString "Content-Length", Bytes.ofString (toString n)⟩

/-- The field that announces chunks. -/
def chunkedField : Field := ⟨Bytes.ofString "Transfer-Encoding", Bytes.ofString "chunked"⟩

/-- The field that announces the end of the connection. -/
def closeField : Field := ⟨Bytes.ofString "Connection", Bytes.ofString "close"⟩

namespace Route

/-- The head of an answer, with more fields. -/
def head (r : Route) (more : List Field) : Bytes :=
  crlf (Bytes.ofString ("HTTP/1.1 " ++ toString r.status ++ " X")) ++
    (r.fields ++ more ++ [closeField]).flatMap Field.line ++ crlf []

/-- What the server sends. -/
def stream (r : Route) : Stream :=
  match r.delivery with
  | .whole => ⟨r.head [lengthField r.body.length] ++ r.body, true⟩
  | .untilClosed => ⟨r.head [] ++ r.body, true⟩
  | .chunked n =>
    ⟨r.head [chunkedField] ++ chunksOf n r.body ++ crlf [0x30] ++ crlf [], true⟩
  | .short => ⟨r.head [lengthField (r.body.length + 10)] ++ r.body, true⟩
  | .badChunk n =>
    ⟨r.head [chunkedField] ++ chunksOf n r.body ++ crlf (Bytes.ofString "zz"), true⟩
  | .dropped => ⟨[], true⟩
  | .verbatim => ⟨r.body, true⟩
  | .silent => ⟨[], false⟩
  | .stalled => ⟨r.head [lengthField (r.body.length + 10)] ++ r.body, false⟩

end Route

/-- A server at an origin and its routes. -/
structure Script where
  host : Host
  port : Nat
  routes : List Route
deriving DecidableEq, Repr

namespace Script

/-- Whether a URL leads to the server. -/
def serves (s : Script) (u : Url) : Bool :=
  u.scheme == "http" &&
    match u.authority with
    | some a => a.host == s.host && a.port.getD 80 == s.port
    | none => false

/-- The answer to a target: the first route for it, or an empty one with
status 404. -/
def route (s : Script) (target : Bytes) : Route :=
  (s.routes.find? (·.target == target)).getD { target, status := 404 }

/-- The web in which the server is all there is. -/
def remote (s : Script) : Remote := fun u =>
  if s.serves u then receive (s.route (Bytes.ofString u.target)).stream
  else .error .unanswered

/-- The targets the server is asked for when texts are fetched one after the
other. -/
def served (s : Script) (texts : List String) : List String :=
  texts.filterMap fun text =>
    match request text with
    | .ok u => if s.serves u then some u.target else none
    | .error _ => none

end Script

/-- The web in which nobody answers. -/
def Remote.none : Remote := fun _ => .error .unanswered

end Vendoring.Http
