/-
Fetching over the web.

* `Remote`: what comes back for a URL.
* `RequestError`: why a fetch got no response, and its text.
* `Http.fetch`: one request for one URL. A redirect is never followed.
-/
import Vendoring.Http.Reply
import Vendoring.Url.Parser

namespace Vendoring

namespace Url

/-- Whether escapes in a text stand for well-formed text. -/
def isReadable (s : String) : Bool := (Bytes.toString? (Percent.decode (Bytes.ofString s))).isSome

/-- The URL as it is requested and named in messages: a readable user name or
password is taken out of it. -/
def requested (u : Url) : Url :=
  match u.authority with
  | some a =>
    if isReadable a.user && (!a.user.isEmpty || isReadable a.password) then u.anonymous else u
  | none => u

/-- Characters that may stand in a URL's host and not in a request. -/
def isUnsendable (c : Char) : Bool := ['"', '\x60', '\x7b', '\x7d'].contains c

/-- Whether a URL can be requested over the web. -/
def isWeb (u : Url) : Bool :=
  (u.scheme == "http" || u.scheme == "https") &&
    match u.authority with
    | some a => !a.host.render.toList.any isUnsendable
    | none => false

end Url

namespace Http

/-- How the client names itself. -/
def userAgent : String := "protocol-vendor"

/-- What comes back for a URL. -/
abbrev Remote := Url → Except Fault Reply

/-- Why a fetch got no response. -/
inductive RequestError where
  /-- The text is no URL. -/
  | noUrl
  /-- The URL cannot be requested over the web. -/
  | notWeb (url : Url)
  /-- No answer came. -/
  | unanswered (url : Url)
  /-- The body did not come whole. -/
  | broken (url : Url)
deriving DecidableEq, Repr

/-- The fault of a remote side as the error of a request. -/
def Fault.error (url : Url) : Fault → RequestError
  | unanswered => .unanswered url
  | broken => .broken url

/-- The text of a request's error. -/
def RequestError.message : RequestError → String
  | noUrl => "request failed: builder error"
  | notWeb url => "request failed: builder error for url (" ++ url.render ++ ")"
  | unanswered url => "request failed: error sending request for url (" ++ url.render ++ ")"
  | broken url =>
    "failed to read response body: error decoding response body for url (" ++ url.render ++ ")"

/-- The URL that a text asks the web for. -/
def request (text : String) : Except RequestError Url :=
  match Url.parse? text with
  | none => .error .noUrl
  | some u => if u.requested.isWeb then .ok u.requested else .error (.notWeb u.requested)

/-- One request. -/
def exchange (remote : Remote) (text : String) : Except RequestError Reply :=
  match request text with
  | .error e => .error e
  | .ok url => (remote url).mapError (Fault.error url)

/-- The response to one request. -/
def fetch (remote : Remote) (text : String) : Except FetchError Response :=
  match exchange remote text with
  | .error e => .error ⟨e.message⟩
  | .ok reply => .ok reply.response

/-- The web as a remote side whose answers depend on the URL only. -/
def fetcher (remote : Remote) : Fetcher := .constant (fetch remote)

end Http

end Vendoring
