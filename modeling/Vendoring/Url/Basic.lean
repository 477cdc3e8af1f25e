/-
URLs as values.

* `Url`: scheme, authority, trail, query and fragment, all in the form in
  which they are written.
* `Url.target`: what a request for the URL asks the host for.
* `Url.render`: the URL as text.
-/
import Vendoring.Url.Host

namespace Vendoring

/-- Where a URL's documents live. -/
structure Authority where
  user : String := ""
  password : String := ""
  host : Host
  /-- The port, unless it is the usual one of the scheme. -/
  port : Option Nat := none
deriving DecidableEq, Repr

/-- The place of a document below an authority. -/
inductive Trail where
  /-- Text without structure. -/
  | text (s : String)
  /-- Names after one slash each; no names are no text at all. -/
  | names (segments : List String)
deriving DecidableEq, Repr

/-- A URL. -/
structure Url where
  scheme : String
  authority : Option Authority
  trail : Trail
  query : Option String
  fragment : Option String
deriving DecidableEq, Repr

/-- A trail as text. -/
def Trail.render : Trail → String
  | text s => s
  | names segments => String.join (segments.map ("/" ++ ·))

namespace Authority

/-- The user name and password, with the sign that ends them. -/
def credentials (a : Authority) : String :=
  if a.user.isEmpty && a.password.isEmpty then ""
  else a.user ++ (if a.password.isEmpty then "" else ":" ++ a.password) ++ "@"

/-- An authority as it stands in a URL. -/
def render (a : Authority) : String :=
  a.credentials ++ a.host.render ++
    match a.port with
    | some port => ":" ++ toString port
    | none => ""

/-- An authority without user name and password. -/
def anonymous (a : Authority) : Authority := { a with user := "", password := "" }

end Authority

namespace Url

/-- The schemes whose URLs always have a host, with their usual ports. -/
def usualPorts : List (String × Nat) :=
  [("http", 80), ("https", 443), ("ws", 80), ("wss", 443), ("ftp", 21)]

/-- The scheme of files, which is special and has no port. -/
def fileScheme : String := "file"

/-- Whether a scheme follows the rules for hosts, backslashes and empty
paths. -/
def isSpecial (scheme : String) : Bool :=
  (usualPorts.lookup scheme).isSome || scheme == fileScheme

/-- A part of a URL after the sign that begins it. -/
def marked (sign : String) : Option String → String
  | some s => sign ++ s
  | none => ""

/-- What a request for a URL asks the host for. -/
def target (u : Url) : String := u.trail.render ++ marked "?" u.query

/-- The authority of a URL after the two slashes that begin it. Without one, a
trail that begins with two slashes is kept apart by a dot. -/
def beginning (u : Url) : String :=
  match u.authority with
  | some a => "//" ++ a.render
  | none => if u.trail.render.startsWith "//" then "/." else ""

/-- A URL as text. -/
def render (u : Url) : String :=
  u.scheme ++ ":" ++ u.beginning ++ u.target ++ marked "#" u.fragment

/-- A URL without user name and password. -/
def anonymous (u : Url) : Url := { u with authority := u.authority.map Authority.anonymous }

end Url

end Vendoring
