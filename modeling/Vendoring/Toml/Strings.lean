/-
The four kinds of strings.

* `basic`, `literal`: strings on one line, with and without escapes.
* `multilineBasic`, `multilineLiteral`: strings between triple quotes. A line
  end right after the opening quotes does not count, and every line end reads
  as a line feed.
* `string`: any of them, told apart by their quotes.
-/
import Vendoring.Toml.Value

namespace Vendoring.Toml

/-- The value of a hexadecimal digit. -/
def hexDigit? (c : Char) : Option Nat :=
  if '0' ≤ c ∧ c ≤ '9' then some (c.toNat - 48)
  else if 'a' ≤ c ∧ c ≤ 'f' then some (c.toNat - 87)
  else if 'A' ≤ c ∧ c ≤ 'F' then some (c.toNat - 55)
  else none

/-- The character of a code point; surrogates and numbers too large have
none. -/
def scalar? (n : Nat) : Option Char :=
  if n.isValidChar then some (Char.ofNat n) else none

/-- The character a one-letter escape stands for. -/
def shortEscape? : Char → Option Char
  | 'b' => some '\x08'
  | 't' => some '\t'
  | 'n' => some '\n'
  | 'f' => some '\x0c'
  | 'r' => some '\r'
  | '"' => some '"'
  | '\\' => some '\\'
  | _ => none

/-- Characters that stand for themselves in a string with escapes. -/
def isBasicChar (c : Char) : Bool := isText c && c != '"' && c != '\\'

/-- Characters that stand for themselves in a string without escapes. -/
def isLiteralChar (c : Char) : Bool := isText c && c != '\''

/-- Puts a character in front of what a reader found. -/
def consRead (c : Char) (r : Option (List Char × List Char)) : Option (List Char × List Char) :=
  r.map fun x => (c :: x.1, x.2)

/-- Puts characters in front of what a reader found. -/
def appendRead (cs : List Char) (r : Option (List Char × List Char)) :
    Option (List Char × List Char) :=
  r.map fun x => (cs ++ x.1, x.2)

/-! ### Strings on one line -/

/-- Where the reading of an escape stands: none begun, the backslash read, or
some digits of a code point still missing. -/
inductive EscapeState where
  | plain
  | backslash
  | code (missing value : Nat)
deriving DecidableEq, Repr

/-- The rest of a string with escapes, after its opening quote. -/
def basicBody : EscapeState → Reader (List Char)
  | _, [] => none
  | .plain, c :: rest =>
    if c = '"' then some ([], rest)
    else if c = '\\' then basicBody .backslash rest
    else if isBasicChar c then consRead c (basicBody .plain rest)
    else none
  | .backslash, c :: rest =>
    match shortEscape? c with
    | some e => consRead e (basicBody .plain rest)
    | none =>
      if c = 'u' then basicBody (.code 4 0) rest
      else if c = 'U' then basicBody (.code 8 0) rest
      else none
  | .code missing value, c :: rest =>
    match hexDigit? c with
    | none => none
    | some d =>
      if missing ≤ 1 then
        match scalar? (value * 16 + d) with
        | some e => consRead e (basicBody .plain rest)
        | none => none
      else basicBody (.code (missing - 1) (value * 16 + d)) rest

/-- The rest of a string without escapes, after its opening quote. -/
def literalBody : Reader (List Char)
  | [] => none
  | c :: rest =>
    if c = '\'' then some ([], rest)
    else if isLiteralChar c then consRead c (literalBody rest)
    else none

/-! ### Strings on several lines -/

/-- Where the reading of a string between triple quotes stands: an escape, a
carriage return whose line feed is missing, a run of quotes, or a line end
that a backslash takes out together with the blanks around it. -/
inductive MultilineState where
  | plain
  | return
  | quotes (n : Nat)
  | backslash
  | code (missing value : Nat)
  | gap (ended : Bool)
  | gapReturn
deriving DecidableEq, Repr

/-- One character outside escapes and runs of quotes: the characters it adds
and the state after it. -/
def multilineStep (quote : Char) (escapes : Bool) (c : Char) :
    Option (List Char × MultilineState) :=
  if c = quote then some ([], .quotes 1)
  else if escapes ∧ c = '\\' then some ([], .backslash)
  else if c = '\n' then some (['\n'], .plain)
  else if c = '\r' then some ([], .return)
  else if isText c then some ([c], .plain)
  else none

/-- One character inside an escape. -/
def escapeStep : MultilineState → Char → Option (List Char × MultilineState)
  | .return, c => if c = '\n' then some (['\n'], .plain) else none
  | .backslash, c =>
    match shortEscape? c with
    | some e => some ([e], .plain)
    | none =>
      if c = 'u' then some ([], .code 4 0)
      else if c = 'U' then some ([], .code 8 0)
      else if isBlank c then some ([], .gap false)
      else if c = '\n' then some ([], .gap true)
      else if c = '\r' then some ([], .gapReturn)
      else none
  | .code missing value, c =>
    match hexDigit? c with
    | none => none
    | some d =>
      if missing ≤ 1 then (scalar? (value * 16 + d)).map fun e => ([e], .plain)
      else some ([], .code (missing - 1) (value * 16 + d))
  | .gap ended, c =>
    if isBlank c then some ([], .gap ended)
    else if c = '\n' then some ([], .gap true)
    else if c = '\r' then some ([], .gapReturn)
    else if ended then multilineStep '"' true c
    else none
  | .gapReturn, c => if c = '\n' then some ([], .gap true) else none
  | _, _ => none

/-- The rest of a string between triple quotes, after the opening ones. Up to
two quotes may stand alone or before the closing ones. -/
def multilineBody (quote : Char) (escapes : Bool) : MultilineState → Reader (List Char)
  | .quotes n, [] => if 3 ≤ n then some (List.replicate (n - 3) quote, []) else none
  | _, [] => none
  | .quotes n, c :: rest =>
    if c = quote then
      if n = 4 then some ([quote, quote], rest)
      else multilineBody quote escapes (.quotes (n + 1)) rest
    else if 3 ≤ n then some (List.replicate (n - 3) quote, c :: rest)
    else
      match multilineStep quote escapes c with
      | none => none
      | some (out, state) =>
        appendRead (List.replicate n quote ++ out) (multilineBody quote escapes state rest)
  | .plain, c :: rest =>
    match multilineStep quote escapes c with
    | none => none
    | some (out, state) => appendRead out (multilineBody quote escapes state rest)
  | state, c :: rest =>
    match escapeStep state c with
    | none => none
    | some (out, state) => appendRead out (multilineBody quote escapes state rest)

/-- The text without a line end at its front. -/
def dropNewline (s : List Char) : List Char := (newline? s).getD s

/-- A string of any kind. -/
def string : Reader String
  | '"' :: '"' :: '"' :: rest =>
    (multilineBody '"' true .plain (dropNewline rest)).map fun x => (.ofList x.1, x.2)
  | '"' :: rest => (basicBody .plain rest).map fun x => (.ofList x.1, x.2)
  | '\'' :: '\'' :: '\'' :: rest =>
    (multilineBody '\'' false .plain (dropNewline rest)).map fun x => (.ofList x.1, x.2)
  | '\'' :: rest => (literalBody rest).map fun x => (.ofList x.1, x.2)
  | _ => none

end Vendoring.Toml
