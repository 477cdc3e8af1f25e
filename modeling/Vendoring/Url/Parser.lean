/-
Reading a URL.

* `Url.parse?`: blanks around the text and line breaks inside it do not count.
  What follows the first `#` is the fragment, what follows the first `?`
  before that is the query; the rest is read by the kind of scheme.
* `Url.Walk`: the names of a path, `.` and `..` carried out. Going up never
  leaves the root and never removes the letter of a drive.
* `Url.authority?`: credentials up to the last `@`, a host, a port.
-/
import Vendoring.Url.Basic

namespace Vendoring.Url

/-! ### Pieces of text -/

/-- A text up to a character and after it, if it occurs. -/
def cut (c : Char) (text : List Char) : List Char × Option (List Char) :=
  match text.dropWhile (· ≠ c) with
  | [] => (text, none)
  | _ :: rest => (text.takeWhile (· ≠ c), some rest)

/-- Control characters and blanks, which do not count around a URL. -/
def isBlank (c : Char) : Bool := c.toNat ≤ 0x20

/-- Characters that do not count anywhere in a URL. -/
def isSkipped (c : Char) : Bool := c == '\t' || c == '\n' || c == '\r'

/-- The characters of a URL that count. -/
def clean (text : List Char) : List Char :=
  ((text.dropWhile isBlank).reverse.dropWhile isBlank).reverse.filter (!isSkipped ·)

/-- A character that may stand in a scheme after its first letter. -/
def isSchemeChar (c : Char) : Bool := c.isAlphanum || c == '+' || c == '-' || c == '.'

/-- The scheme in lower case, and what follows its colon. -/
def scheme? (text : List Char) : Option (String × List Char) :=
  match text, cut ':' text with
  | c :: _, (name, some rest) =>
    if c.isAlpha && name.all isSchemeChar then some (String.ofList (name.map Char.toLower), rest)
    else none
  | _, _ => none

/-- Whether a character separates names of a path. -/
def isSeparator (special : Bool) (c : Char) : Bool := c == '/' || (special && c == '\\')

/-- A text cut at every separator. -/
def splitNames (special : Bool) (text : List Char) : List (List Char) :=
  Text.splitAt '/' (text.map fun c => if isSeparator special c then '/' else c)

/-! ### Paths -/

/-- The letter of a drive: a letter and a colon or a bar. -/
def isDrive (name : String) : Bool :=
  match name.toList with
  | [letter, mark] => letter.isAlpha && (mark == ':' || mark == '|')
  | _ => false

/-- The spellings of a dot. -/
def dots : List String := [".", "%2e", "%2E"]

/-- Whether a name stays in place. -/
def isHere (name : String) : Bool := dots.contains name

/-- Whether a name goes up. -/
def isUp (name : String) : Bool :=
  (dots.flatMap fun a => dots.map (a ++ ·)).contains name

/-- A walk along the names of a path. -/
structure Walk where
  /-- The names passed so far, last first. -/
  passed : List String := []
  /-- Whether the path has turned out to begin at the root of a drive. -/
  onDrive : Bool := false

namespace Walk

/-- Stands at one more name. -/
def push (w : Walk) (name : String) : Walk := { w with passed := name :: w.passed }

/-- Goes up once. -/
def goUp (w : Walk) : Walk :=
  match w.passed with
  | [] => w
  | name :: rest => if isDrive name then w else { w with passed := rest }

/-- Enters a name. At the front of a file's path the letter of a drive is
marked by a colon, and what follows such a mark is a name of its own. -/
def enter (file : Bool) (w : Walk) (name : String) : Walk :=
  if file && w.passed.isEmpty then
    if isDrive name then ⟨[String.ofList (name.toList.take 1 ++ [':'])], true⟩
    else
      match name.toList with
      | letter :: ':' :: rest =>
        if letter.isAlpha then (w.push (String.ofList [letter, ':'])).push (String.ofList rest)
        else w.push name
      | _ => w.push name
  else w.push name

/-- Follows names. A path that ends by staying or going up ends in a slash. -/
def follow (file : Bool) (w : Walk) : List String → Walk
  | [] => w
  | [name] =>
    if isUp name then w.goUp.push ""
    else if isHere name then w.push ""
    else w.enter file name
  | name :: rest =>
    if isUp name then follow file w.goUp rest
    else if isHere name then follow file w rest
    else follow file (w.enter file name) rest

/-- The names of a walk, first to last. -/
def names (w : Walk) : List String := w.passed.reverse

end Walk

/-- The walk along a path, the slash at its front apart. -/
def walkAlong (scheme : String) (text : List Char) : Walk :=
  Walk.follow (scheme == fileScheme) {}
    ((splitNames (isSpecial scheme) text).map (Percent.encode Percent.path))

/-- The trail a path spells, the slash at its front apart. -/
def trailOf (scheme : String) (text : List Char) : Trail := .names (walkAlong scheme text).names

/-- The trail of a file. Empty names at its front do not count. -/
def fileTrail (w : Walk) : Trail :=
  match w.names.dropWhile (· == "") with
  | [] => .names [""]
  | rest => .names rest

/-- A path without the separator at its front. -/
def dropSeparator (special : Bool) : List Char → List Char
  | c :: rest => if isSeparator special c then rest else c :: rest
  | [] => []

/-! ### Authorities -/

/-- A host, and what follows it from the first colon outside brackets on. -/
def splitPort (inside : Bool) : List Char → List Char × List Char
  | [] => ([], [])
  | c :: rest =>
    if c = ':' && !inside then ([], c :: rest)
    else
      let (host, after) := splitPort (c == '[' || (inside && c != ']')) rest
      (c :: host, after)

/-- The number that decimal digits spell. -/
def portNumber (digits : List Char) : Nat :=
  digits.foldl (fun n c => n * 10 + (c.toNat - 0x30)) 0

/-- A port after its colon, and what follows it; the usual port is none. Only
a backslash may follow. -/
def port? (scheme : String) : List Char → Option (Option Nat × List Char)
  | ':' :: text =>
    let digits := text.takeWhile Char.isDigit
    let rest := text.dropWhile Char.isDigit
    let n := portNumber digits
    if 65535 < n || !(rest.isEmpty || rest.head? == some '\\') then none
    else if digits.isEmpty || usualPorts.lookup scheme == some n then some (none, rest)
    else some (some n, rest)
  | rest => some (none, rest)

/-- The text before the last `@`, and the one after it. -/
def splitCredentials (text : List Char) : Option (List Char) × List Char :=
  match cut '@' text.reverse with
  | (_, none) => (none, text)
  | (after, some before) => (some before.reverse, after.reverse)

/-- An authority, and what follows it. `final` says that the URL ends with
it. -/
def authority? (scheme : String) (final : Bool) (text : List Char) :
    Option (Authority × List Char) := do
  let (userinfo, rest) := splitCredentials text
  let (user, password) := cut ':' (userinfo.getD [])
  let user := Percent.encode Percent.userinfo user
  let password := Percent.encode Percent.userinfo (password.getD [])
  let (hostText, after) := splitPort false rest
  let host ← if isSpecial scheme then Host.ofDomain? hostText else Host.ofText? hostText
  let (port, after) ← port? scheme after
  if hostText.isEmpty && (rest.head? == some ':' || !user.isEmpty || !password.isEmpty ||
      (userinfo == some [] && !final)) then none
  else some (⟨user, password, host, port⟩, after)

/-! ### URLs -/

/-- The host of a file's URL. The own machine is the empty one. -/
def fileHost? (text : List Char) : Option Host :=
  if text.isEmpty then some (.name "")
  else
    (Host.ofDomain? text).map fun host => if host == .name "localhost" then .name "" else host

/-- The authority and trail of a file's URL. A path that begins at the root of a
drive has no host. With an empty host the path begins with an empty name, and
so with no drive. -/
def file? (text : List Char) : Option (Authority × Trail) := do
  let own : Authority := { host := .name "" }
  let separator := isSeparator true
  let local? (text : List Char) : Option (Authority × Trail) :=
    some (own, fileTrail (walkAlong fileScheme text))
  match text with
  | a :: b :: rest =>
    if separator a && separator b then
      let hostText := rest.takeWhile (!separator ·)
      if isDrive (String.ofList hostText) then local? rest
      else
        let host ← fileHost? hostText
        let path := rest.dropWhile (!separator ·)
        if host == .name "" then local? path
        else
          let w := walkAlong fileScheme (dropSeparator true path)
          return (if w.onDrive then own else { host }, fileTrail w)
    else local? (dropSeparator true text)
  | _ => local? (dropSeparator true text)

/-- The authority and trail of a URL, by the kind of its scheme. `final` says
that no query or fragment follows. -/
def hierarchy? (scheme : String) (final : Bool) (text : List Char) :
    Option (Option Authority × Trail) := do
  if scheme == fileScheme then
    let (authority, path) ← file? text
    return (some authority, path)
  else if isSpecial scheme then
    let rest := text.dropWhile (isSeparator true)
    let path := rest.dropWhile (!isSeparator true ·)
    let (authority, _) ←
      authority? scheme (final && path.isEmpty) (rest.takeWhile (!isSeparator true ·))
    return (some authority, trailOf scheme (path.drop 1))
  else
    match text with
    | '/' :: '/' :: rest =>
      let path := rest.dropWhile (· ≠ '/')
      let (authority, after) ←
        authority? scheme (final && path.isEmpty) (rest.takeWhile (· ≠ '/'))
      match after ++ path with
      | [] => return (some authority, .names [])
      | path => return (some authority, trailOf scheme (dropSeparator false path))
    | '/' :: path => return (none, trailOf scheme path)
    | _ => return (none, .text (Percent.encode Percent.control text))

/-- The URL a text spells. There is no URL it could be relative to. -/
def parse? (text : String) : Option Url := do
  let (scheme, rest) ← scheme? (clean text.toList)
  let (rest, fragment) := cut '#' rest
  let (rest, query) := cut '?' rest
  let (authority, trail) ← hierarchy? scheme (query.isNone && fragment.isNone) rest
  let querySet := if isSpecial scheme then Percent.specialQuery else Percent.query
  return ⟨scheme, authority, trail, query.map (Percent.encode querySet),
    fragment.map (Percent.encode Percent.fragment)⟩

end Vendoring.Url
