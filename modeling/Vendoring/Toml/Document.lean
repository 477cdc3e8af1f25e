/-
Documents: lines that assign values and headers that open tables.

* `openTable?`, `openElement?`, `assign?`: what a header in single brackets,
  a header in double brackets and an assignment do to the tables read so far.
* `parse?`: the table a document describes, if it is well formed.
-/
import Vendoring.Toml.Reader

namespace Vendoring.Toml

/-- Changes the entries of the table a header names. The tables on the way are
made as needed; of tables in double brackets the last one counts. -/
def within? (f : Entries → Option Entries) : List String → Entries → Option Entries
  | [], es => f es
  | k :: path, es =>
    match es.lookup k with
    | none => (within? f path []).map fun sub => es ++ [(k, .table .implied sub)]
    | some (.value _) => none
    | some (.table origin sub) =>
      (within? f path sub).map fun sub => es.replace k (.table origin sub)
    | some (.tables elements) =>
      (mapLast? (within? f path) elements).map fun els => es.replace k (.tables els)

/-- Opens a table by a header in single brackets: a new one, or one that only
headers below it have mentioned so far. -/
def openTable? (k : Key) : Entries → Option Entries :=
  within? (fun es =>
    match es.lookup k.last with
    | none => some (es ++ [(k.last, .table .header [])])
    | some (.table .implied sub) => some (es.replace k.last (.table .header sub))
    | _ => none) k.path

/-- Opens a further table by a header in double brackets. -/
def openElement? (k : Key) : Entries → Option Entries :=
  within? (fun es =>
    match es.lookup k.last with
    | none => some (es ++ [(k.last, .tables [[]])])
    | some (.tables elements) => some (es.replace k.last (.tables (elements ++ [[]])))
    | _ => none) k.path

/-- Assigns a value in the table that was opened last. -/
def assign? (table : List String) (k : Key) (v : Value) : Entries → Option Entries :=
  within? (insertDotted? k.last v k.path) table

/-- A document in the making: the path of the open table, and all entries. -/
structure Draft where
  table : List String
  entries : Entries

/-- A header in double brackets, after these. -/
def elementHeader (d : Draft) : Reader Draft
  | s => do
    let (k, s) ← key s
    let s ← char? ']' s
    let s ← char? ']' s
    let s ← lineEnd? s
    let es ← openElement? k d.entries
    some (⟨k.path ++ [k.last], es⟩, s)

/-- A header in single brackets, after the bracket. -/
def tableHeader (d : Draft) : Reader Draft
  | s => do
    let (k, s) ← key s
    let s ← char? ']' s
    let s ← lineEnd? s
    let es ← openTable? k d.entries
    some (⟨k.path ++ [k.last], es⟩, s)

/-- A line that assigns a value. -/
def assignment (d : Draft) : Reader Draft
  | s => do
    let (k, s) ← key s
    let s ← char? '=' s
    let (v, s) ← value (skipBlanks s)
    let s ← lineEnd? s
    let es ← assign? d.table k v d.entries
    some (⟨d.table, es⟩, s)

/-- One line of a document. -/
def line (d : Draft) : Reader Draft
  | s =>
    match skipBlanks s with
    | '#' :: rest => (lineEnd? ('#' :: rest)).map fun s => (d, s)
    | '\n' :: rest => some (d, rest)
    | '\r' :: rest => (newline? ('\r' :: rest)).map fun s => (d, s)
    | '[' :: '[' :: rest => elementHeader d rest
    | '[' :: rest => tableHeader d rest
    | s => assignment d s

/-- The lines of a document, at most `fuel` of them. -/
def lines : Nat → Draft → List Char → Option Draft
  | 0, _, _ => none
  | fuel + 1, d, s =>
    match skipBlanks s with
    | [] => some d
    | s => do
      let (d, rest) ← line d s
      lines fuel d rest

/-- The text after a byte order mark, if it begins with one. -/
def skipMark : List Char → List Char
  | '\uFEFF' :: rest => rest
  | s => s

/-- The table a document describes. -/
def parse? (text : String) : Option Table :=
  let s := skipMark text.toList
  (lines (s.length + 1) ⟨[], []⟩ s).map fun d => sealEntries d.entries

end Vendoring.Toml
