/-
Keys and values.

* `key`: parts separated by dots, each a word or a string; fewer than
  `depthLimit` of them.
* `value`: a string, a scalar, an array or an inline table, nested less than
  `depthLimit` deep.
* `insertDotted?`: a value put under a dotted key into the pairs of an inline
  table.
-/
import Vendoring.Toml.Scalars
import Vendoring.Toml.Strings

namespace Vendoring.Toml

/-- Values nest less deep than this, and keys have fewer parts. -/
def depthLimit : Nat := 80

/-! ### Keys -/

/-- Characters of a key without quotes. -/
def isWordChar (c : Char) : Bool :=
  isDecimal c || ('a' ≤ c && c ≤ 'z') || ('A' ≤ c && c ≤ 'Z') || c == '-' || c == '_'

/-- One part of a key. -/
def keyPart : Reader String
  | '"' :: rest => (basicBody .plain rest).map fun x => (.ofList x.1, x.2)
  | '\'' :: rest => (literalBody rest).map fun x => (.ofList x.1, x.2)
  | s =>
    match s.takeWhile isWordChar with
    | [] => none
    | word => some (.ofList word, s.dropWhile isWordChar)

/-- A key of at most `n` parts, with the blanks around them. -/
def keyParts : Nat → Reader (List String)
  | 0, _ => none
  | n + 1, s => do
    let (part, rest) ← keyPart (skipBlanks s)
    match skipBlanks rest with
    | '.' :: rest => (keyParts n rest).map fun x => (part :: x.1, x.2)
    | rest => some ([part], rest)

/-- A key: the parts before the last one, and the last one. -/
structure Key where
  path : List String
  last : String
deriving DecidableEq, Repr

/-- A key with the blanks around it. -/
def key : Reader Key
  | s => do
    let (parts, rest) ← keyParts (depthLimit - 1) s
    some (⟨parts.dropLast, parts.getLast?.getD ""⟩, rest)

/-! ### Tables under construction -/

/-- How a table came to be: by a header of its own, as the parent of one, or
through a dotted key. -/
inductive Origin where
  | header
  | implied
  | dotted
deriving DecidableEq, Repr

/-- What stands under a key while tables may still grow: a finished value, a
table, or the tables that headers in double brackets added so far. -/
inductive Node where
  | value (v : Value)
  | table (origin : Origin) (entries : List (String × Node))
  | tables (elements : List (List (String × Node)))
deriving Inhabited

/-- Keys and what stands under them, in the order of their first mention. -/
abbrev Entries := List (String × Node)

/-- The entries with `node` in place of what stands under `k`. -/
def Entries.replace (k : String) (node : Node) (es : Entries) : Entries :=
  es.map fun e => if e.1 = k then (k, node) else e

/-- A list with its last element changed. -/
def mapLast? {α : Type} (f : α → Option α) : List α → Option (List α)
  | [] => none
  | [a] => (f a).map fun b => [b]
  | a :: rest => (mapLast? f rest).map (a :: ·)

/-- Puts a value under a dotted key. The tables on the way are made as
needed; a table with a header of its own is closed to dotted keys, and the
last table must be one that dotted keys made. -/
def insertDotted? (last : String) (v : Value) : List String → Entries → Option Entries
  | [], es => if (es.lookup last).isSome then none else some (es ++ [(last, .value v)])
  | k :: path, es =>
    match es.lookup k with
    | none => (insertDotted? last v path []).map fun sub => es ++ [(k, .table .dotted sub)]
    | some (.value _) => none
    | some (.table origin sub) =>
      if origin = .header ∨ (path = [] ∧ origin ≠ .dotted) then none
      else (insertDotted? last v path sub).map fun sub => es.replace k (.table origin sub)
    | some (.tables elements) =>
      if path = [] then none
      else (mapLast? (insertDotted? last v path) elements).map fun els => es.replace k (.tables els)

mutual

/-- A node that is finished. -/
def Node.seal : Node → Value
  | .value v => v
  | .table _ es => .table (sealEntries es)
  | .tables els => .array (sealTables els)

/-- Entries that are finished. -/
def sealEntries : List (String × Node) → Table
  | [] => []
  | (k, n) :: rest => (k, n.seal) :: sealEntries rest

/-- Tables that are finished. -/
def sealTables : List (List (String × Node)) → List Value
  | [] => []
  | es :: rest => .table (sealEntries es) :: sealTables rest

end

/-! ### Values -/

/-- The items of an array up to its closing bracket; a comma may follow the
last one. -/
def arrayItems (item : Reader Value) : Nat → Reader (List Value)
  | 0, _ => none
  | fuel + 1, s => do
    match ← skipFiller s with
    | ']' :: rest => some ([], rest)
    | s =>
      let (v, s) ← item s
      match ← skipFiller s with
      | ',' :: s => (arrayItems item fuel s).map fun x => (v :: x.1, x.2)
      | ']' :: rest => some ([v], rest)
      | _ => none

/-- The pairs of an inline table up to its closing brace, added to what was
read before. No comma follows the last one. -/
def inlinePairs (item : Reader Value) : Nat → Entries → Reader Entries
  | 0, _, _ => none
  | fuel + 1, es, s => do
    let (k, s) ← key s
    let s ← char? '=' s
    let (v, s) ← item (skipBlanks s)
    let es ← insertDotted? k.last v k.path es
    match skipBlanks s with
    | ',' :: s => inlinePairs item fuel es s
    | '\x7d' :: rest => some (es, rest)
    | _ => none

/-- An inline table after its opening brace. -/
def inlineTable (item : Reader Value) : Reader Value
  | s =>
    match skipBlanks s with
    | '\x7d' :: rest => some (.table [], rest)
    | s =>
      (inlinePairs item (s.length + 1) [] s).map fun x => (.table (sealEntries x.1), x.2)

/-- A value that nests at most `depth` deep. -/
def valueWithin : Nat → Reader Value
  | _, '"' :: rest => (string ('"' :: rest)).map fun x => (.string x.1, x.2)
  | _, '\'' :: rest => (string ('\'' :: rest)).map fun x => (.string x.1, x.2)
  | depth + 1, '[' :: rest =>
    (arrayItems (valueWithin depth) (rest.length + 1) rest).map fun x => (.array x.1, x.2)
  | depth + 1, '\x7b' :: rest => inlineTable (valueWithin depth) rest
  | _, s => scalar s

/-- A value. -/
def value : Reader Value := valueWithin (depthLimit - 1)

end Vendoring.Toml
