/-
The host of a URL.

* `Host`: a name, or an address of version 4 or 6.
* `Host.ofDomain?`: the host of a URL with a special scheme. Escapes are read,
  the name is put in ASCII, and one that ends in a number is an address.
* `Host.ofText?`: the host of any other URL, kept as it is.
* `Host.render`: the host as it stands in a URL; of several longest runs of
  zero pieces the first is shortened.
-/
import Vendoring.Url.Domain
import Vendoring.Url.Percent

namespace Vendoring

/-- The host of a URL. -/
inductive Host where
  /-- A name, which may be empty. -/
  | name (text : String)
  /-- An address of 32 bits. -/
  | v4 (address : Nat)
  /-- An address of eight pieces of 16 bits. -/
  | v6 (pieces : List Nat)
deriving DecidableEq, Repr

namespace Host

/-! ### Addresses of version 4 -/

/-- The value of a digit in a base up to 16. -/
def digit? (base : Nat) (c : Char) : Option Nat :=
  match (Percent.digit? c.toNat.toUInt8) with
  | some d => if c.toNat < 0x80 && d < base then some d else none
  | none => none

/-- The number that digits spell; no digits spell zero. -/
def number? (base : Nat) (digits : List Char) : Option Nat :=
  digits.foldl (fun n c => do return (← n) * base + (← digit? base c)) (some 0)

/-- One part of an address: decimal, octal after a zero, or base 16 after
`0x`. -/
def part? : List Char → Option Nat
  | [] => none
  | '0' :: 'x' :: digits => number? 16 digits
  | '0' :: 'X' :: digits => number? 16 digits
  | '0' :: c :: digits => number? 8 (c :: digits)
  | digits => number? 10 digits

/-- The parts of a name, a last empty one dropped. -/
def partsOf (text : List Char) : List (List Char) :=
  let parts := Text.splitAt '.' text
  if parts.length > 1 && parts.getLast? == some [] then parts.dropLast else parts

/-- Whether the last part of a name is a number, so that the name must be an
address. -/
def endsInNumber (text : List Char) : Bool :=
  match (partsOf text).getLast? with
  | some last => (!last.isEmpty && last.all Char.isDigit) || (part? last).isSome
  | none => false

/-- The address of at most four parts: every part but the last is one byte,
the last one fills the rest. -/
def v4? (text : List Char) : Option Nat := do
  let numbers ← (partsOf text).mapM part?
  let last ← numbers.getLast?
  let firsts := numbers.dropLast
  if firsts.length ≤ 3 && firsts.all (· ≤ 255) && last < Nat.pow 256 (4 - firsts.length) then
    return firsts.foldr (fun n rest => n * 0x1000000 + rest / 256) 0 + last
  else none

/-! ### Addresses of version 6 -/

/-- One piece: one to four digits in base 16. -/
def piece? (digits : List Char) : Option Nat :=
  if 1 ≤ digits.length && digits.length ≤ 4 then number? 16 digits else none

/-- One byte in decimal, without leading zeros. -/
def byte? : List Char → Option Nat
  | [] => none
  | '0' :: _ :: _ => none
  | digits => (number? 10 digits).filter (· ≤ 255)

/-- Two pieces written as an address of version 4. -/
def dotted? (text : List Char) : Option (List Nat) := do
  match ← (Text.splitAt '.' text).mapM byte? with
  | [a, b, c, d] => return [a * 256 + b, c * 256 + d]
  | _ => none

/-- Pieces between colons. The last ones may be written with dots where the
address ends. -/
def pieces? (final : Bool) : List (List Char) → Option (List Nat)
  | [] => some []
  | [last] =>
    if final && last.contains '.' then dotted? last else (piece? last).map ([·])
  | first :: rest => do return (← piece? first) :: (← pieces? final rest)

/-- A possibly empty list of pieces. -/
def group? (final : Bool) (text : List Char) : Option (List Nat) :=
  if text.isEmpty then some [] else pieces? final (Text.splitAt ':' text)

/-- A text cut at the first two colons that stand together. -/
def splitGap : List Char → Option (List Char × List Char)
  | ':' :: ':' :: rest => some ([], rest)
  | c :: rest => (splitGap rest).map fun (before, after) => (c :: before, after)
  | [] => none

/-- The pieces of an address. Two colons together stand for one or more zero
pieces. -/
def v6? (text : List Char) : Option (List Nat) :=
  match splitGap text with
  | none => (group? true text).filter (·.length = 8)
  | some (before, after) => do
    let front ← group? false before
    let back ← group? true after
    if front.length + back.length ≤ 7 then
      return front ++ List.replicate (8 - front.length - back.length) 0 ++ back
    else none

/-- An address in brackets. -/
def bracketed? (text : List Char) : Option Host :=
  if text.getLast? = some ']' then (v6? (text.drop 1).dropLast).map v6 else none

/-! ### Names -/

/-- The characters that no host may hold. -/
def forbidden (c : Char) : Bool :=
  ['\x00', '\t', '\n', '\r', ' ', '#', '/', ':', '<', '>', '?', '@', '[', '\\', ']', '^',
    '|'].contains c

/-- The host of a URL with a special scheme. -/
def ofDomain? (text : List Char) : Option Host :=
  if text.head? = some '[' then bracketed? text
  else do
    let decoded ← Bytes.toString? (Percent.decode (Bytes.ofString (String.ofList text)))
    let domain ← Domain.ascii? decoded.toList
    if domain.isEmpty || domain.any (fun c => forbidden c || Percent.control c || c == '%') then
      none
    else if endsInNumber domain then (v4? domain).map v4
    else some (name (String.ofList domain))

/-- The host of a URL with any other scheme. -/
def ofText? (text : List Char) : Option Host :=
  if text.head? = some '[' then bracketed? text
  else if text.any forbidden then none
  else some (name (Percent.encode Percent.control text))

/-! ### Writing -/

/-- The pieces between colons, in base 16 without leading zeros. -/
def colons (pieces : List Nat) : String :=
  ":".intercalate (pieces.map fun p => String.ofList (Text.hexDigits p))

/-- How many zero pieces stand from a place on. -/
def zerosFrom (pieces : List Nat) (i : Nat) : Nat := ((pieces.drop i).takeWhile (· == 0)).length

/-- The place of the first longest run of zero pieces. -/
def longestZeros (pieces : List Nat) : Nat :=
  (List.range pieces.length).foldl
    (fun best i => if zerosFrom pieces best < zerosFrom pieces i then i else best) 0

/-- A host as it stands in a URL. -/
def render : Host → String
  | name text => text
  | v4 address =>
    ".".intercalate ([24, 16, 8, 0].map fun shift => toString ((address >>> shift) % 256))
  | v6 pieces =>
    let i := longestZeros pieces
    let n := zerosFrom pieces i
    if n < 2 then "[" ++ colons pieces ++ "]"
    else "[" ++ colons (pieces.take i) ++ "::" ++ colons (pieces.drop (i + n)) ++ "]"

end Host

end Vendoring
